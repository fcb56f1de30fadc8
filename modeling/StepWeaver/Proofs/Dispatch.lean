/-
Module: StepWeaver.Proofs.Dispatch
Layer: Proofs
Purpose: Which rule answers for a node. The names under which rules are looked up agree with each other.
  The shipped rules of each category divide the nodes among them: `rule?` names the one rule that can
  answer for a node, if there is one. So a book restricted to settings gives the answer of that rule if it
  is switched on, and refuses the node otherwise.
Main exports: RuleName.ofName?_eq_some_iff, Settings.isEnabled_eq, Rule.KeyedBy,
  RuleBook.exists_of_weave_eq_ok, RuleBook.weave_restrictTo_of_handles, Value.rule?, Identifier.rule?,
  Action.rule?, Assertion.rule?, Rule.keyed_forValues, Rule.keyed_forIdentifiers, Rule.keyed_forActions,
  Rule.keyed_forAssertions
-/
import Mathlib.Data.List.Nodup
import StepWeaver.Weaver

namespace StepWeaver

/-!
### Names

What a rule is called stands in several places: in the rule itself, where settings look up its switch, and
where a skip list looks up the switch to turn off. All of them agree with the one list of names.
-/

/-- A skip list means a rule by its name and by nothing else. -/
theorem RuleName.ofName?_eq_some_iff {name : String} {rule : RuleName} :
    ofName? name = some rule ↔ rule.name = name := by
  constructor
  · intro found
    unfold ofName? at found
    split at found <;> cases found <;> rfl
  · rintro rfl
    exact ofName?_name rule

theorem RuleName.name_inj {left right : RuleName} : left.name = right.name ↔ left = right := by
  rw [← ofName?_eq_some_iff, ofName?_name, Option.some.injEq, eq_comm]

/-- Settings look a switch up under the name by which a skip list turns it off. -/
theorem Settings.isEnabled_eq (settings : Settings) (name : String) :
    settings.isEnabled name = (RuleName.ofName? name).any settings.enabled := by
  cases found : RuleName.ofName? name with
  | some rule =>
      obtain rfl := RuleName.ofName?_eq_some_iff.mp found
      cases rule <;> rfl
  | none =>
      fun_cases isEnabled settings name with
      | case15 => rfl
      | _ => cases found

/-- Asked by its name, a rule is as enabled as its switch says. -/
theorem Settings.isEnabled_name (settings : Settings) (rule : RuleName) :
    settings.isEnabled rule.name = settings.enabled rule := by
  rw [isEnabled_eq, RuleName.ofName?_name, Option.any_some]

/-- Some rules divide nodes among them: each handles exactly the nodes for which `responsible` names
    it, and no two have the same name. -/
structure Rule.KeyedBy {α : Type} (rules : List (Rule α)) (responsible : α → Option RuleName) :
    Prop where
  handles_iff : ∀ rule ∈ rules, ∃ name : RuleName, rule.name = name.name ∧
    ∀ node, rule.handles node = true ↔ responsible node = some name
  nodup : (rules.map Rule.name).Nodup

/-- The switch of a rule is the one that the nodes it handles are left to. -/
theorem Rule.KeyedBy.isEnabled_eq {α : Type} {rules : List (Rule α)}
    {responsible : α → Option RuleName} (keyed : Rule.KeyedBy rules responsible) {rule : Rule α}
    (member : rule ∈ rules) {node : α} (handles : rule.handles node = true) {name : RuleName}
    (named : responsible node = some name) (settings : Settings) :
    settings.isEnabled rule.name = settings.enabled name := by
  obtain ⟨other, spelled, iff⟩ := keyed.handles_iff rule member
  obtain rfl : other = name := Option.some.inj (((iff node).mp handles).symm.trans named)
  rw [spelled, Settings.isEnabled_name]

/-- A node is handled if there is a rule of the name that is responsible for it. -/
theorem Rule.KeyedBy.exists_handles {α : Type} {rules : List (Rule α)}
    {responsible : α → Option RuleName} (keyed : Rule.KeyedBy rules responsible) {node : α}
    {name : RuleName} (listed : name.name ∈ rules.map Rule.name)
    (named : responsible node = some name) : ∃ rule ∈ rules, rule.handles node = true := by
  obtain ⟨rule, member, spelled⟩ := List.mem_map.mp listed
  obtain ⟨other, otherSpelled, iff⟩ := keyed.handles_iff rule member
  obtain rfl : other = name := RuleName.name_inj.mp (otherSpelled.symm.trans spelled)
  exact ⟨rule, member, (iff node).mpr named⟩

/-- At most one of the rules handles a node. -/
theorem Rule.KeyedBy.sole {α : Type} {rules : List (Rule α)} {responsible : α → Option RuleName}
    (keyed : Rule.KeyedBy rules responsible) {node : α} {rule other : Rule α} (member : rule ∈ rules)
    (listed : other ∈ rules) (handles : rule.handles node = true)
    (answers : other.handles node = true) : other = rule := by
  obtain ⟨name, named, iff⟩ := keyed.handles_iff rule member
  obtain ⟨otherName, otherNamed, otherIff⟩ := keyed.handles_iff other listed
  have same : otherName = name :=
    Option.some.inj (((otherIff node).mp answers).symm.trans ((iff node).mp handles))
  refine List.inj_on_of_nodup_map keyed.nodup listed member ?_
  rw [otherNamed, named, same]

namespace RuleBook

variable {α : Type}

theorem mem_restrictTo {book : RuleBook α} {settings : Settings} {rule : Rule α} :
    rule ∈ (book.restrictTo settings).rules ↔
      rule ∈ book.rules ∧ settings.isEnabled rule.name = true :=
  List.mem_filter

/-- The rule that is selected is one of the book, and it answers for the node. -/
theorem of_select?_eq_some {book : RuleBook α} {node : α} {rule : Rule α}
    (found : book.select? node = some rule) : rule ∈ book.rules ∧ rule.handles node = true := by
  constructor
  · exact List.mem_of_find?_eq_some found
  · unfold select? at found
    simpa using List.find?_some found

/-- If a rule handles a node, settings decide whether it is this rule that is asked or none. -/
theorem select?_restrictTo_of_handles {rules : List (Rule α)} {responsible : α → Option RuleName}
    (keyed : Rule.KeyedBy rules responsible) {rule : Rule α} (member : rule ∈ rules)
    {node : α} (handles : rule.handles node = true) (settings : Settings) :
    (restrictTo { rules } settings).select? node =
      if settings.isEnabled rule.name then some rule else none := by
  cases selected : (restrictTo { rules } settings).select? node with
  | some other =>
      obtain ⟨present, answers⟩ := of_select?_eq_some selected
      obtain ⟨listed, enabled⟩ := mem_restrictTo.mp present
      obtain rfl := keyed.sole member listed handles answers
      rw [if_pos enabled]
  | none =>
      have disabled : ¬ settings.isEnabled rule.name = true := by
        intro enabled
        have silent := List.find?_eq_none.mp selected rule (mem_restrictTo.mpr ⟨member, enabled⟩)
        exact silent handles
      rw [if_neg disabled]

variable [Node α]

/-- Source comes from a rule of the book that handles the node. -/
theorem exists_of_weave_eq_ok {book : RuleBook α} {node : α} {fragment : Fragment}
    (woven : book.weave node = .ok fragment) :
    ∃ rule ∈ book.rules, rule.handles node = true ∧ rule.weave node = .ok fragment := by
  unfold weave at woven
  split at woven
  · next rule found =>
    obtain ⟨member, handles⟩ := of_select?_eq_some found
    exact ⟨rule, member, handles, woven⟩
  · cases woven

/-- If a rule handles a node, settings decide whether the node is left to it or refused. -/
theorem weave_restrictTo_of_handles {rules : List (Rule α)} {responsible : α → Option RuleName}
    (keyed : Rule.KeyedBy rules responsible) {rule : Rule α} (member : rule ∈ rules)
    {node : α} (handles : rule.handles node = true) (settings : Settings) :
    (restrictTo { rules } settings).weave node =
      if settings.isEnabled rule.name then rule.weave node else .error (Rejection.ofNode node) := by
  rw [weave, select?_restrictTo_of_handles keyed member handles]
  by_cases enabled : settings.isEnabled rule.name = true
  · rw [if_pos enabled, if_pos enabled]
  · rw [if_neg enabled, if_neg enabled]

end RuleBook

/-!
### The rule for a node
-/

/-- The rule for a value. Elements and attributes are stored without one. -/
def Value.rule? : Value → Option RuleName
  | .literal _ => some .literalValue
  | .browser _ => some .browserProperty
  | .page _ => some .pageProperty
  | .environment _ => some .environmentParameter
  | _ => none

/-- The rule for an identifier. -/
def Identifier.rule? : Identifier → Option RuleName
  | .element _ => some .elementIdentifier
  | .elementAttribute path => if path.hasName then some .attributeIdentifier else none
  | _ => none

/-- The rule for an action. -/
def Action.rule? : Action → Option RuleName
  | .wait duration => if duration.isStorable then some .wait else none
  | .navigate _ => some .navigation
  | .interact .click (.element _) => some .click
  | .interact .submit (.element _) => some .submit
  | .interact .waitFor (.element path) => if Rule.isBare path then some .waitFor else none
  | .input (.element _) value => if value.isStorable then some .set else none
  | _ => none

/-- The rule for an assertion. -/
def Assertion.rule? : Assertion → Option RuleName
  | .examine examined comparison =>
    if (Rule.expectsPresence? comparison).isSome && Rule.canBeMissing examined then
      some .existsComparison
    else none
  | .compare examined comparison expected =>
    if (Rule.comparisonMethod? comparison).isSome && examined.isStorable && expected.isStorable then
      some .valueComparison
    else none

namespace Rule

/-- No two rules answer for one kind of value. -/
theorem keyed_forValues : KeyedBy forValues Value.rule? where
  handles_iff := by
    intro rule member
    simp only [forValues, List.mem_cons, List.not_mem_nil, or_false] at member
    rcases member with rfl | rfl | rfl | rfl
    · refine ⟨.literalValue, rfl, fun node => ?_⟩
      cases node <;> simp [literalValue, Value.rule?]
    · refine ⟨.browserProperty, rfl, fun node => ?_⟩
      cases node <;> simp [browserProperty, Value.rule?]
    · refine ⟨.pageProperty, rfl, fun node => ?_⟩
      cases node <;> simp [pageProperty, Value.rule?]
    · refine ⟨.environmentParameter, rfl, fun node => ?_⟩
      cases node <;> simp [environmentParameter, Value.rule?]
  nodup := by decide

theorem keyed_forIdentifiers : KeyedBy forIdentifiers Identifier.rule? where
  handles_iff := by
    intro rule member
    simp only [forIdentifiers, List.mem_cons, List.not_mem_nil, or_false] at member
    rcases member with rfl | rfl
    · refine ⟨.elementIdentifier, rfl, fun node => ?_⟩
      cases node <;> simp [elementIdentifier, Identifier.rule?]
    · refine ⟨.attributeIdentifier, rfl, fun node => ?_⟩
      cases node <;> simp [attributeIdentifier, Identifier.rule?]
  nodup := by decide

/-- An interaction is handled for elements only, and only if it is of the right kind. -/
theorem handles_interaction (kind : Interaction) (method : String) (node : Action) :
    (interaction kind method).handles node = true ↔ ∃ path, node = .interact kind (.element path) := by
  unfold interaction
  dsimp only
  split
  · simp
  · next other => simpa using other kind

theorem names_forActions (binder : Binder) :
    (forActions binder).map Rule.name =
      [RuleName.wait, .navigation, .click, .submit, .waitFor, .set].map RuleName.name := rfl

theorem names_forAssertions (binder : Binder) :
    (forAssertions binder).map Rule.name =
      [RuleName.existsComparison, .valueComparison].map RuleName.name := rfl

/-- Each kind of action has one rule of its own, if its operands are of the kind that the rule takes. -/
theorem keyed_forActions (binder : Binder) : KeyedBy (forActions binder) Action.rule? where
  handles_iff := by
    intro rule member
    simp only [forActions, List.mem_cons, List.not_mem_nil, or_false] at member
    rcases member with rfl | rfl | rfl | rfl | rfl | rfl
    · refine ⟨.wait, rfl, fun node => ?_⟩
      fun_cases Action.rule? node <;> simp_all [wait]
    · refine ⟨.navigation, rfl, fun node => ?_⟩
      fun_cases Action.rule? node <;> simp_all [navigation]
    · refine ⟨.click, rfl, fun node => ?_⟩
      rw [click, handles_interaction]
      fun_cases Action.rule? node <;> simp_all
    · refine ⟨.submit, rfl, fun node => ?_⟩
      rw [submit, handles_interaction]
      fun_cases Action.rule? node <;> simp_all
    · refine ⟨.waitFor, rfl, fun node => ?_⟩
      fun_cases Action.rule? node <;> simp_all [waitFor]
    · refine ⟨.set, rfl, fun node => ?_⟩
      fun_cases Action.rule? node <;> simp_all [set]
  nodup := by
    rw [names_forActions]
    decide

/-- The two rules for assertions share no comparison. -/
theorem keyed_forAssertions (binder : Binder) : KeyedBy (forAssertions binder) Assertion.rule? where
  handles_iff := by
    intro rule member
    simp only [forAssertions, List.mem_cons, List.not_mem_nil, or_false] at member
    rcases member with rfl | rfl
    · refine ⟨.existsComparison, rfl, fun node => ?_⟩
      fun_cases Assertion.rule? node <;> simp_all [existsComparison]
    · refine ⟨.valueComparison, rfl, fun node => ?_⟩
      fun_cases Assertion.rule? node <;> simp_all [valueComparison]
  nodup := by
    rw [names_forAssertions]
    decide

/-- The rule for an action is one of the rules for actions. -/
theorem name_mem_forActions (binder : Binder) {node : Action} {name : RuleName} :
    node.rule? = some name → name.name ∈ (forActions binder).map Rule.name := by
  rw [names_forActions]
  fun_cases Action.rule? node
  all_goals
    intro named
    cases named
  all_goals decide

/-- The rule for an assertion is one of the rules for assertions. -/
theorem name_mem_forAssertions (binder : Binder) {node : Assertion} {name : RuleName} :
    node.rule? = some name → name.name ∈ (forAssertions binder).map Rule.name := by
  rw [names_forAssertions]
  fun_cases Assertion.rule? node
  all_goals
    intro named
    cases named
  all_goals decide

end Rule

end StepWeaver
