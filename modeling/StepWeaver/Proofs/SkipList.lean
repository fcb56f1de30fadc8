/-
Module: StepWeaver.Proofs.SkipList
Layer: Proofs
Purpose: Skipping rules never changes source. A skip list is a set of rule names, and the first name that
  no rule has is what it is refused for. Under its settings a step has source exactly if it has source
  by all rules and uses none of the skipped ones, and then it is the same source: no other rule takes the
  place of one that is missing.
Main exports: Settings.without, Settings.ofSkipList_eq, RuleBook.responsible?, Step.Uses, Rule.Uniform,
  Rule.Uniform.weave_without_iff, Weaver.weaveStep_ofSkipList
-/
import StepWeaver.Proofs.Inversion
import StepWeaver.Proofs.Refusal

namespace StepWeaver

/-!
### Skip lists
-/

namespace RuleName

theorem ofName?_eq_none_iff {name : String} :
    ofName? name = none ↔ name ∉ all.map RuleName.name := by
  rw [Option.eq_none_iff_forall_ne_some]
  simp [ofName?_eq_some_iff, mem_all]

end RuleName

namespace Settings

/-- Switches off the rules of some names. -/
def without (settings : Settings) (names : List String) : Settings :=
  { settings with enabled := fun rule => rule.name ∉ names && settings.enabled rule }

theorem without_nil (settings : Settings) : settings.without [] = settings := by
  simp [without]

/-- A rule that is disabled may as well stand first in the list. -/
theorem disable_without (settings : Settings) (rule : RuleName) (names : List String) :
    (settings.disable rule).without names = settings.without (rule.name :: names) := by
  have same (other : RuleName) :
      (decide (other.name ∉ names) && (other ≠ rule && settings.enabled other)) =
        (decide (other.name ∉ rule.name :: names) && settings.enabled other) := by
    rw [← Bool.and_assoc, Bool.and_comm (decide _), ← Bool.decide_and]
    simp only [List.mem_cons, RuleName.name_inj, not_or, ne_eq]
  simp only [without, disable, same]

/-- Two lists of the same names switch off the same rules. -/
theorem without_congr (settings : Settings) {names others : List String}
    (same : ∀ name, name ∈ others ↔ name ∈ names) :
    settings.without others = settings.without names := by
  simp only [without, same]

/-- Switches off the rule of one name. -/
def skip? (settings : Settings) (name : String) : Except Rejection Settings :=
  match RuleName.ofName? name with
  | some rule => .ok (settings.disable rule)
  | none => .error (.unknownRule name)

/-- A skip list is refused at its first unknown name, and otherwise disables what it names. -/
theorem foldlM_skip? (settings : Settings) (names : List String) :
    names.foldlM skip? settings =
      match names.find? fun name => name ∉ RuleName.all.map RuleName.name with
      | some name => .error (.unknownRule name)
      | none => .ok (settings.without names) := by
  induction names generalizing settings with
  | nil =>
      rw [List.foldlM_nil, List.find?_nil, without_nil]
      rfl
  | cons name names ih =>
      rw [List.foldlM_cons, List.find?_cons]
      cases found : RuleName.ofName? name with
      | none =>
          have unknown := RuleName.ofName?_eq_none_iff.mp found
          simp only [skip?, found, unknown, not_false_eq_true, decide_true]
          rfl
      | some rule =>
          obtain rfl := RuleName.ofName?_eq_some_iff.mp found
          have known : rule.name ∈ RuleName.all.map RuleName.name :=
            List.mem_map_of_mem (RuleName.mem_all rule)
          simp only [skip?, found, known, not_true_eq_false, decide_false]
          rw [← disable_without]
          exact ih (settings.disable rule)

/-- A skip list is refused for its first unknown name, and switches off the rules of its names
    otherwise. -/
theorem ofSkipList_eq (names : List String) :
    ofSkipList names =
      match names.find? fun name => name ∉ RuleName.all.map RuleName.name with
      | some name => .error (.unknownRule name)
      | none => .ok (standard.without names) :=
  foldlM_skip? standard names

/-- A rule is left on exactly if the list does not name it. -/
theorem isEnabled_without_name (names : List String) (rule : RuleName) :
    (standard.without names).isEnabled rule.name = true ↔ rule.name ∉ names := by
  rw [isEnabled_name]
  simp [without, standard]

/-- A name is enabled if it is that of a rule and not in the list. -/
theorem isEnabled_without_iff {names : List String} {name : String} :
    (standard.without names).isEnabled name = true ↔
      name ∈ RuleName.all.map RuleName.name ∧ name ∉ names := by
  cases found : RuleName.ofName? name with
  | none =>
      have unknown := RuleName.ofName?_eq_none_iff.mp found
      simp [isEnabled_eq, found, unknown]
  | some rule =>
      obtain rfl := RuleName.ofName?_eq_some_iff.mp found
      rw [isEnabled_without_name]
      simp [RuleName.mem_all]

end Settings

/-!
### The rules that a step uses
-/

/-- The name of the rule that a book leaves a node to. -/
def RuleBook.responsible? {α : Type} (book : RuleBook α) (node : α) : Option String :=
  (book.select? node).map Rule.name

/-- A step uses the rules of its actions and of its assertions, and the rules of the values that these
    store. -/
inductive Step.Uses (step : Step) : String → Prop
  | action {action : Action} {name : String} (member : action ∈ step.actions)
      (responsible : Weaver.standard.actions.responsible? action = some name) : Uses step name
  | actionOperand {action : Action} {value : Value} {name : String} (member : action ∈ step.actions)
      (operand : value ∈ action.operands)
      (responsible : Weaver.standard.values.responsible? value = some name) : Uses step name
  | assertion {assertion : Assertion} {name : String} (member : assertion ∈ step.assertions)
      (responsible : Weaver.standard.assertions.responsible? assertion = some name) : Uses step name
  | assertionOperand {assertion : Assertion} {value : Value} {name : String}
      (member : assertion ∈ step.assertions) (operand : value ∈ assertion.operands)
      (responsible : Weaver.standard.values.responsible? value = some name) : Uses step name

/-!
### Books of rules under a skip list
-/

namespace RuleBook

variable {α : Type} {rules : List (Rule α)} {responsible : α → Option RuleName}

/-- Since no two rules handle one node, a book without some rules asks the same rule or none. -/
theorem select?_restrictTo (keyed : Rule.KeyedBy rules responsible) (settings : Settings) (node : α) :
    (restrictTo { rules } settings).select? node =
      (select? { rules } node).filter fun rule => settings.isEnabled rule.name := by
  cases found : select? { rules } node with
  | none =>
      rw [Option.filter_none]
      refine List.find?_eq_none.mpr ?_
      intro rule member
      exact List.find?_eq_none.mp found rule (mem_restrictTo.mp member).1
  | some rule =>
      obtain ⟨member, handles⟩ := of_select?_eq_some found
      rw [select?_restrictTo_of_handles keyed member handles, Option.filter_some]

/-- A rule that is left answers for the nodes it answered for before, and no other takes the place of
    one that is gone. -/
theorem responsible?_without_iff (keyed : Rule.KeyedBy rules responsible) {names : List String}
    {node : α} {name : String} :
    (restrictTo { rules } (Settings.standard.without names)).responsible? node = some name ↔
      responsible? { rules } node = some name ∧ name ∉ names := by
  unfold responsible?
  rw [select?_restrictTo keyed]
  cases found : select? { rules } node with
  | none => simp
  | some rule =>
      obtain ⟨known, named, _⟩ := keyed.handles_iff rule (of_select?_eq_some found).1
      have enabled := Settings.isEnabled_without_name names known
      rw [← named] at enabled
      simp only [Option.map_eq_some_iff, Option.filter_eq_some_iff, Option.some.injEq]
      constructor
      · rintro ⟨_, ⟨rfl, kept⟩, rfl⟩
        exact ⟨⟨_, rfl, rfl⟩, enabled.mp kept⟩
      · rintro ⟨⟨_, rfl, rfl⟩, kept⟩
        exact ⟨_, ⟨rfl, enabled.mpr kept⟩, rfl⟩

/-- The standard settings leave out no rule. -/
theorem responsible?_standard (keyed : Rule.KeyedBy rules responsible) (node : α) :
    (restrictTo { rules } .standard).responsible? node = responsible? { rules } node := by
  apply Option.ext
  intro name
  rw [← Settings.without_nil .standard, responsible?_without_iff keyed]
  simp only [List.not_mem_nil, not_false_eq_true, and_true]

/-- Rules that go by the same names and handle the same nodes are chosen alike. -/
theorem responsible?_congr {others : List (Rule α)}
    (alike : List.Forall₂ (fun rule other => rule.name = other.name ∧ rule.handles = other.handles)
      rules others) (node : α) :
    responsible? { rules } node = responsible? { rules := others } node := by
  induction alike with
  | nil => rfl
  | cons first rest ih =>
      obtain ⟨named, handles⟩ := first
      unfold responsible? select? at ih ⊢
      simp only [List.find?_cons, handles]
      split
      · simp only [Option.map_some, named]
      · exact ih

end RuleBook

/-!
### Refused operands and answers under a skip list
-/

/-- A node is accepted exactly if none of its operands is refused. -/
theorem Settings.Answers.exists_ok_iff {settings : Settings} {operands : List Value}
    {result : Except Rejection Fragment} (answers : settings.Answers operands result) :
    (∃ fragment, result = .ok fragment) ↔ ∀ value ∈ operands, settings.refusal? value = none := by
  rw [← List.findSome?_eq_none_iff]
  unfold Answers at answers
  split at answers
  · next reason refused =>
    rw [refused, answers]
    simp
  · next accepted => simp only [accepted, answers]

/-- A value is answered for by the rule of its kind, if there is one. -/
theorem Weaver.responsible?_values (value : Value) :
    standard.values.responsible? value = value.rule?.map RuleName.name := by
  cases value <;> rfl

/-- A skip list refuses a value that was fine before exactly if it skips the rule of the value. -/
theorem Settings.refusal?_without_eq_none_iff {names : List String} {value : Value} :
    (standard.without names).refusal? value = none ↔
      standard.refusal? value = none ∧
        ∀ name, Weaver.standard.values.responsible? value = some name → name ∉ names := by
  simp only [Weaver.responsible?_values]
  cases value with
  | page ref =>
      by_cases skipped : RuleName.pageProperty.name ∈ names <;>
        simp [refusal?, without, standard, Value.rule?, skipped]
  | browser ref =>
      by_cases skipped : RuleName.browserProperty.name ∈ names <;>
        simp [refusal?, without, standard, Value.rule?, skipped]
  | _ => simp [refusal?, without, standard, Value.rule?]

/-!
### Source under a skip list
-/

/-- The settings choose the same texts. -/
structure Settings.SameTexts (left right : Settings) : Prop where
  valueCast : left.valueCast = right.valueCast
  absentDefault : left.absentDefault = right.absentDefault
  durationCast : left.durationCast = right.durationCast

/-- The source of an action depends on no other part of the settings than their texts. -/
theorem Action.Source.eq_of_sameTexts {settings other : Settings} (texts : settings.SameTexts other)
    {action : Action} {fragment fragment' : Fragment} (source : Action.Source settings action fragment)
    (source' : Action.Source other action fragment') : fragment = fragment' := by
  cases source with
  | wait found =>
      cases source' with
      | wait found' =>
          obtain rfl := Option.some.inj (found.symm.trans found')
          rw [texts.durationCast]
  | navigate kind =>
      cases source' with
      | navigate => rfl
  | act path direct =>
      cases source' with
      | act => rfl
      | waitFor => exact absurd rfl direct
  | waitFor path =>
      cases source' with
      | act _ direct => exact absurd rfl direct
      | waitFor => rfl
  | input found lookedUp =>
      cases source' with
      | input found' lookedUp' =>
          rw [texts.absentDefault] at found
          obtain rfl := Option.some.inj (found.symm.trans found')
          obtain ⟨rfl, rfl⟩ := Prod.mk.inj (lookedUp.symm.trans lookedUp')
          rw [texts.valueCast]

/-- The source of an assertion depends on the texts of the settings and not on their switches. -/
theorem Assertion.Source.eq_of_sameTexts {settings other : Settings} (texts : settings.SameTexts other)
    {assertion : Assertion} {fragment fragment' : Fragment}
    (source : Assertion.Source settings assertion fragment)
    (source' : Assertion.Source other assertion fragment') : fragment = fragment' := by
  cases source with
  | elementPresence path asked =>
      cases source' with
      | elementPresence _ asked' =>
          obtain rfl := Option.some.inj (asked.symm.trans asked')
          rfl
      | presence _ noElement => exact absurd rfl (noElement path)
  | presence asked noElement found =>
      cases source' with
      | elementPresence path => exact absurd rfl (noElement path)
      | presence asked' _ found' =>
          rw [texts.absentDefault] at found
          obtain rfl := Option.some.inj (asked.symm.trans asked')
          obtain rfl := Option.some.inj (found.symm.trans found')
          rfl
  | compare asked foundExamined foundExpected ran =>
      cases source' with
      | compare asked' foundExamined' foundExpected' ran' =>
          rw [texts.absentDefault] at foundExamined foundExpected
          obtain rfl := Option.some.inj (asked.symm.trans asked')
          obtain rfl := Option.some.inj (foundExamined.symm.trans foundExamined')
          obtain rfl := Option.some.inj (foundExpected.symm.trans foundExpected')
          obtain ⟨rfl, rfl⟩ := Prod.mk.inj (ran.symm.trans ran')
          rw [texts.valueCast]

namespace Rule

/-- What makes rules for one type of nodes robust against switching some of them off. They are made for
    a binder, but only their source depends on it; they divide the nodes among them; whether there is
    source depends on the operands; and which source it is depends on texts alone. -/
structure Uniform {α : Type} [Node α] (rules : Binder → List (Rule α))
    (responsible : α → Option RuleName) (operands : α → List Value) : Prop where
  keyed : ∀ binder, KeyedBy (rules binder) responsible
  alike : ∀ binder other,
    List.Forall₂ (fun rule rule' => rule.name = rule'.name ∧ rule.handles = rule'.handles)
      (rules binder) (rules other)
  answers : ∀ settings, ∀ rule ∈ rules (Binder.ofSettings settings), ∀ node,
    rule.handles node = true → settings.Answers (operands node) (rule.weave node)
  same : ∀ settings other : Settings, settings.SameTexts other → ∀ node fragment fragment',
    (RuleBook.restrictTo { rules := rules (Binder.ofSettings settings) } settings).weave node =
      .ok fragment →
    (RuleBook.restrictTo { rules := rules (Binder.ofSettings other) } other).weave node =
      .ok fragment' → fragment = fragment'

theorem uniform_forActions : Uniform forActions Action.rule? Action.operands where
  keyed := keyed_forActions
  alike _ _ :=
    .cons ⟨rfl, rfl⟩ (.cons ⟨rfl, rfl⟩ (.cons ⟨rfl, rfl⟩ (.cons ⟨rfl, rfl⟩
      (.cons ⟨rfl, rfl⟩ (.cons ⟨rfl, rfl⟩ .nil)))))
  answers _ _ member _ handles := answers_action member handles
  same _ _ texts _ _ _ woven woven' :=
    (Action.source_of_weave woven).eq_of_sameTexts texts (Action.source_of_weave woven')

theorem uniform_forAssertions : Uniform forAssertions Assertion.rule? Assertion.operands where
  keyed := keyed_forAssertions
  alike _ _ := .cons ⟨rfl, rfl⟩ (.cons ⟨rfl, rfl⟩ .nil)
  answers _ _ member _ handles := answers_assertion member handles
  same _ _ texts _ _ _ woven woven' :=
    (Assertion.source_of_weave woven).eq_of_sameTexts texts (Assertion.source_of_weave woven')

namespace Uniform

variable {α : Type} [Node α] {rules : Binder → List (Rule α)} {responsible : α → Option RuleName}
  {operands : α → List Value}

/-- The book of the rules that settings leave switched on. -/
abbrev book (rules : Binder → List (Rule α)) (settings : Settings) : RuleBook α :=
  RuleBook.restrictTo { rules := rules (Binder.ofSettings settings) } settings

/-- A node has source if a rule is left for it and none of its operands is refused. -/
theorem exists_weave_iff (uniform : Uniform rules responsible operands) (settings : Settings)
    (node : α) :
    (∃ fragment, (book rules settings).weave node = .ok fragment) ↔
      (∃ name, (book rules settings).responsible? node = some name) ∧
        ∀ value ∈ operands node, settings.refusal? value = none := by
  unfold RuleBook.responsible?
  cases selected : (book rules settings).select? node with
  | none => simp [RuleBook.weave, selected]
  | some rule =>
      obtain ⟨member, handles⟩ := RuleBook.of_select?_eq_some selected
      have answers := uniform.answers settings rule (RuleBook.mem_restrictTo.mp member).1 node handles
      have woven : (book rules settings).weave node = rule.weave node := by
        rw [RuleBook.weave, selected]
      rw [woven, answers.exists_ok_iff]
      simp

/-- Rules are built from settings, but a skip list does not change what they answer for. -/
theorem responsible?_book_without_iff (uniform : Uniform rules responsible operands)
    {names : List String} {node : α} {name : String} :
    (book rules (Settings.standard.without names)).responsible? node = some name ↔
      (book rules .standard).responsible? node = some name ∧ name ∉ names := by
  rw [RuleBook.responsible?_without_iff (uniform.keyed _), RuleBook.responsible?_standard (uniform.keyed _),
    RuleBook.responsible?_congr (uniform.alike _ (Binder.ofSettings .standard))]

/-- A node has the same source under a skip list as by all rules if neither its own rule nor that of an
    operand is skipped, and none otherwise. -/
theorem weave_without_iff (uniform : Uniform rules responsible operands) {names : List String}
    {node : α} {fragment : Fragment} :
    (book rules (Settings.standard.without names)).weave node = .ok fragment ↔
      (book rules .standard).weave node = .ok fragment ∧
        (∀ name, (book rules .standard).responsible? node = some name → name ∉ names) ∧
          ∀ value ∈ operands node, ∀ name,
            Weaver.standard.values.responsible? value = some name → name ∉ names := by
  have texts : (Settings.standard.without names).SameTexts .standard := ⟨rfl, rfl, rfl⟩
  constructor
  · intro woven
    obtain ⟨⟨name, kept⟩, accepted⟩ := (uniform.exists_weave_iff _ node).mp ⟨_, woven⟩
    obtain ⟨chosen, unskipped⟩ := uniform.responsible?_book_without_iff.mp kept
    -- The node has some source by all rules, and since the texts are the same it is this one.
    obtain ⟨other, woven'⟩ := (uniform.exists_weave_iff .standard node).mpr
      ⟨⟨name, chosen⟩, fun value operand =>
        (Settings.refusal?_without_eq_none_iff.mp (accepted value operand)).1⟩
    obtain rfl := uniform.same _ _ texts node _ _ woven woven'
    refine ⟨woven', ?_, ?_⟩
    · intro name' chosen'
      obtain rfl := Option.some.inj (chosen.symm.trans chosen')
      exact unskipped
    · intro value operand
      exact (Settings.refusal?_without_eq_none_iff.mp (accepted value operand)).2
  · rintro ⟨woven, own, stored⟩
    obtain ⟨⟨name, chosen⟩, accepted⟩ := (uniform.exists_weave_iff _ node).mp ⟨_, woven⟩
    obtain ⟨other, woven'⟩ := (uniform.exists_weave_iff (Settings.standard.without names) node).mpr
      ⟨⟨name, uniform.responsible?_book_without_iff.mpr ⟨chosen, own name chosen⟩⟩,
        fun value operand => Settings.refusal?_without_eq_none_iff.mpr
          ⟨accepted value operand, stored value operand⟩⟩
    obtain rfl := uniform.same _ _ texts node _ _ woven' woven
    exact woven'

end Uniform

end Rule

/-!
### Steps under a skip list
-/

namespace Weaver

/-- Nodes are woven under a skip list as without one, provided it names no rule that they use. -/
theorem forall₂_weave_without_iff {α : Type} [Node α] {rules : Binder → List (Rule α)}
    {responsible : α → Option RuleName} {operands : α → List Value}
    (uniform : Rule.Uniform rules responsible operands) {names : List String} {nodes : List α}
    {parts : List Fragment} :
    List.Forall₂ (fun node part =>
        (Rule.Uniform.book rules (Settings.standard.without names)).weave node = .ok part)
        nodes parts ↔
      (∀ node ∈ nodes,
        (∀ name, (Rule.Uniform.book rules .standard).responsible? node = some name → name ∉ names) ∧
          ∀ value ∈ operands node, ∀ name,
            standard.values.responsible? value = some name → name ∉ names) ∧
        List.Forall₂ (fun node part => (Rule.Uniform.book rules .standard).weave node = .ok part)
          nodes parts := by
  simp only [uniform.weave_without_iff, and_comm (a := _ = _), List.forall₂_and_left]

/-- No rule that a step uses is skipped if that holds of each of its parts. -/
theorem forall_uses_iff {step : Step} {names : List String} :
    (∀ name, step.Uses name → name ∉ names) ↔
      (∀ action ∈ step.actions,
        (∀ name, standard.actions.responsible? action = some name → name ∉ names) ∧
          ∀ value ∈ action.operands, ∀ name,
            standard.values.responsible? value = some name → name ∉ names) ∧
        ∀ assertion ∈ step.assertions,
          (∀ name, standard.assertions.responsible? assertion = some name → name ∉ names) ∧
            ∀ value ∈ assertion.operands, ∀ name,
              standard.values.responsible? value = some name → name ∉ names := by
  constructor
  · intro unskipped
    constructor
    · intro action member
      exact ⟨fun name chosen => unskipped name (.action member chosen),
        fun value operand name chosen => unskipped name (.actionOperand member operand chosen)⟩
    · intro assertion member
      exact ⟨fun name chosen => unskipped name (.assertion member chosen),
        fun value operand name chosen => unskipped name (.assertionOperand member operand chosen)⟩
  · rintro ⟨actions, assertions⟩ name uses
    cases uses with
    | action member chosen => exact (actions _ member).1 name chosen
    | actionOperand member operand chosen => exact (actions _ member).2 _ operand name chosen
    | assertion member chosen => exact (assertions _ member).1 name chosen
    | assertionOperand member operand chosen => exact (assertions _ member).2 _ operand name chosen

/-- The parts of a step are what they are without the list, if it names no rule the step uses. -/
theorem wovenParts_without_iff {names : List String} {step : Step} {parts : List Fragment} :
    (ofSettings (Settings.standard.without names)).WovenParts step parts ↔
      standard.WovenParts step parts ∧ ∀ name, step.Uses name → name ∉ names := by
  rw [forall_uses_iff]
  constructor
  · rintro ⟨done, checked, rfl, wovenDone, wovenChecked⟩
    obtain ⟨keptDone, wovenDone⟩ := (forall₂_weave_without_iff Rule.uniform_forActions).mp wovenDone
    obtain ⟨keptChecked, wovenChecked⟩ :=
      (forall₂_weave_without_iff Rule.uniform_forAssertions).mp wovenChecked
    exact ⟨⟨done, checked, rfl, wovenDone, wovenChecked⟩, keptDone, keptChecked⟩
  · rintro ⟨⟨done, checked, rfl, wovenDone, wovenChecked⟩, keptDone, keptChecked⟩
    exact ⟨done, checked, rfl,
      (forall₂_weave_without_iff Rule.uniform_forActions).mpr ⟨keptDone, wovenDone⟩,
      (forall₂_weave_without_iff Rule.uniform_forAssertions).mpr ⟨keptChecked, wovenChecked⟩⟩

/-- A skip list never changes what a step is woven to; it only decides whether it is. -/
theorem weaveStep_without_iff {names : List String} {step : Step} {fragment : Fragment} :
    (ofSettings (Settings.standard.without names)).weaveStep step = .ok fragment ↔
      standard.weaveStep step = .ok fragment ∧ ∀ name, step.Uses name → name ∉ names := by
  simp only [weaveStep_eq_ok_iff, wovenParts_without_iff]
  constructor
  · rintro ⟨parts, ⟨woven, unskipped⟩, rfl⟩
    exact ⟨⟨parts, woven, rfl⟩, unskipped⟩
  · rintro ⟨⟨parts, woven, rfl⟩, unskipped⟩
    exact ⟨parts, ⟨woven, unskipped⟩, rfl⟩

/-- A skip list is refused for the first of its names that no rule has. Any other leaves switched on the
    rules it does not name, however it orders and repeats the names, and a step has the source that it
    has by all rules if none of the rules it uses is named, and no source otherwise. -/
theorem weaveStep_ofSkipList (names : List String) :
    match names.find? fun name => name ∉ RuleName.all.map RuleName.name with
    | some name => Settings.ofSkipList names = .error (.unknownRule name)
    | none => ∃ settings, Settings.ofSkipList names = .ok settings ∧
        (∀ name, settings.isEnabled name = true ↔
          name ∈ RuleName.all.map RuleName.name ∧ name ∉ names) ∧
        (∀ others, (∀ name, name ∈ others ↔ name ∈ names) → Settings.ofSkipList others = .ok settings) ∧
        ∀ step fragment, (ofSettings settings).weaveStep step = .ok fragment ↔
          standard.weaveStep step = .ok fragment ∧ ∀ name, step.Uses name → name ∉ names := by
  have made := Settings.ofSkipList_eq names
  split at made
  · next name unknown => exact made
  · next known =>
    refine ⟨Settings.standard.without names, made, fun name => Settings.isEnabled_without_iff, ?_,
      fun step fragment => weaveStep_without_iff⟩
    intro others same
    have known' : others.find? (fun name => name ∉ RuleName.all.map RuleName.name) = none := by
      rw [List.find?_eq_none] at known ⊢
      intro name member
      exact known name ((same name).mp member)
    rw [Settings.ofSkipList_eq, known', Settings.standard.without_congr same]

-- A reload stores no value, while a wait for as long as the page title says needs the rule for pages.
theorem weaveStep_ofSkipList_title :
    let names := ["page-property", "browser-property", "page-property"]
    let reload : Step := { actions := [.navigate .reload], assertions := [] }
    let wait : Step := { actions := [.wait (.ofPage "title")], assertions := [] }
    ∃ settings, Settings.ofSkipList names = .ok settings ∧
      Settings.ofSkipList ["browser-property", "page-property"] = .ok settings ∧
      (ofSettings settings).weaveStep reload = standard.weaveStep reload ∧
      (∃ fragment, standard.weaveStep wait = .ok fragment) ∧
      ∀ fragment, (ofSettings settings).weaveStep wait ≠ .ok fragment := by
  intro names reload wait
  obtain ⟨settings, made, _, congr, source⟩ := weaveStep_ofSkipList names
  refine ⟨settings, made, ?_, ?_, ⟨_, rfl⟩, ?_⟩
  · apply congr
    intro name
    simp only [names, List.mem_cons, List.not_mem_nil, or_false]
    tauto
  · apply (source reload _).mpr
    refine ⟨rfl, forall_uses_iff.mpr ⟨?_, List.forall_mem_nil _⟩⟩
    intro action member
    obtain rfl := List.mem_singleton.mp member
    refine ⟨?_, List.forall_mem_nil _⟩
    intro name chosen
    obtain rfl : RuleName.navigation.name = name := Option.some.inj chosen
    decide
  · intro fragment woven
    have uses : wait.Uses "page-property" :=
      .actionOperand (List.mem_singleton.mpr rfl) (List.mem_singleton.mpr rfl) rfl
    exact ((source wait fragment).mp woven).2 _ uses (List.mem_cons_self ..)

end Weaver

end StepWeaver
