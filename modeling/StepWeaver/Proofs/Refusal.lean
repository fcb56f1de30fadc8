/-
Module: StepWeaver.Proofs.Refusal
Layer: Proofs
Purpose: Which nodes are refused, and why. A rule that stores operands fails for the first operand that
  cannot be stored. From this follow the answers of the weaver to every action and assertion, and what
  a rule says when it is asked about a node that it does not handle.
Main exports: Attempt.Decided, Settings.failure?, Action.operands, Assertion.operands,
  Settings.Answers, RuleBook.AnswersExactly, Weaver.answersExactly_nodes, Rule.earlierRefusal?,
  Rule.weave_of_not_handles
-/
import StepWeaver.Proofs.Operand

namespace StepWeaver

/-!
### Outcomes of attempts
-/

namespace Attempt

variable {α β : Type}

/-- Whether the attempt fails, and for which reason, does not depend on the scope. -/
def Decided (attempt : Attempt α) : Option Rejection → Prop
  | some reason => ∀ scope, ∃ after, attempt.runIn scope = (.error reason, after)
  | none => ∀ scope, ∃ a after, attempt.runIn scope = (.ok a, after)

theorem decided_throw (reason : Rejection) : (throw reason : Attempt α).Decided (some reason) :=
  fun scope => ⟨scope, rfl⟩

theorem decided_pure (a : α) : (pure a : Attempt α).Decided none :=
  fun scope => ⟨a, scope, rfl⟩

/-- A computation that cannot fail is decided. -/
theorem decided_lift (computation : Scoped α) : (liftM computation : Attempt α).Decided none :=
  fun scope => ⟨_, _, runIn_lift computation scope⟩

/-- What follows an attempt matters only if the attempt succeeds. -/
theorem Decided.bind {attempt : Attempt α} {next : α → Attempt β} {first rest : Option Rejection}
    (decided : attempt.Decided first) (later : ∀ a, (next a).Decided rest) :
    (attempt >>= next).Decided (first.or rest) := by
  cases first with
  | some reason =>
      intro scope
      obtain ⟨after, failed⟩ := decided scope
      exact ⟨after, by rw [runIn_bind, failed]⟩
  | none =>
      rw [Option.none_or]
      cases rest with
      | some reason =>
          intro scope
          obtain ⟨a, between, done⟩ := decided scope
          rw [runIn_bind, done]
          exact later a between
      | none =>
          intro scope
          obtain ⟨a, between, done⟩ := decided scope
          rw [runIn_bind, done]
          exact later a between

/-- What is done with the result of an attempt does not decide whether it fails. -/
theorem Decided.map {attempt : Attempt α} {failure : Option Rejection}
    (decided : attempt.Decided failure) (f : α → β) : (f <$> attempt).Decided failure := by
  have mapped := decided.bind fun a => decided_pure (f a)
  rwa [bind_pure_comp, Option.or_none] at mapped

/-- The reason for which a decided attempt fails can be read off. -/
theorem Decided.eq_error_iff {attempt : Attempt α} {failure : Option Rejection}
    (decided : attempt.Decided failure) (scope : Pool) {reason : Rejection} :
    (attempt.runIn scope).1 = .error reason ↔ failure = some reason := by
  cases failure with
  | some other =>
      obtain ⟨after, failed⟩ := decided scope
      rw [failed, Except.error.injEq, Option.some.injEq]
  | none =>
      obtain ⟨a, after, done⟩ := decided scope
      rw [done]
      constructor
      · intro failed
        cases failed
      · intro failed
        cases failed

/-- A node whose attempt fails is refused, and blamed for values that cannot be used. -/
theorem Decided.alone_of_some {attempt : Attempt α} {reason : Rejection}
    (decided : attempt.Decided (some reason)) {γ : Type} [Node γ] (node : γ) :
    (attempt.within node).alone = .error (reason.within node) := by
  obtain ⟨after, failed⟩ := decided ∅
  rw [alone, runIn_within, failed]
  rfl

/-- A node whose attempt cannot fail has source. -/
theorem Decided.alone_of_none {attempt : Attempt α} (decided : attempt.Decided none) {γ : Type}
    [Node γ] (node : γ) : ∃ a, (attempt.within node).alone = .ok a := by
  obtain ⟨a, after, done⟩ := decided ∅
  refine ⟨a, ?_⟩
  rw [alone, runIn_within, done]
  rfl

end Attempt

/-!
### Operands
-/

/-- Why a value cannot be stored: there is nothing to store, or settings refuse it. -/
def Settings.failure? (settings : Settings) (value : Value) : Option Rejection :=
  if value.isStorable then settings.refusal? value else some (Rejection.ofValue value)

namespace Settings

variable {settings : Settings} {value : Value} {reason : Rejection}

/-- Settings have nothing to say about a value that could never be stored. -/
theorem refusal?_of_not_isStorable (unstorable : value.isStorable = false) :
    settings.refusal? value = none := by
  cases refused : settings.refusal? value with
  | none => rfl
  | some reason =>
      rw [isStorable_of_refusal? refused] at unstorable
      cases unstorable

/-- Settings refuse a value because no rule is there for it, or because a property is unknown. -/
theorem eq_of_refusal? (refused : settings.refusal? value = some reason) :
    reason = Rejection.ofNode value ∨ ∃ property, reason = Rejection.ofProperty property value := by
  unfold refusal? at refused
  grind

/-- A value is called unusable exactly when there is nothing to store, and then in its own words. -/
theorem failure?_eq_unusable_iff {text : String} :
    settings.failure? value = some (.unusableValue text) ↔
      value.isStorable = false ∧ text = value.describe := by
  unfold failure?
  split
  · next storable =>
    constructor
    · intro refused
      rcases eq_of_refusal? refused with blamed | ⟨property, blamed⟩
      · cases blamed
      · cases blamed
    · rintro ⟨unstorable, _⟩
      rw [storable] at unstorable
      cases unstorable
  · next unstorable =>
    rw [Option.some.injEq, Rejection.ofValue, Rejection.unusableValue.injEq]
    constructor
    · intro same
      exact ⟨Bool.eq_false_iff.mpr unstorable, same.symm⟩
    · rintro ⟨_, same⟩
      exact same.symm

/-- What settings refuse a value for is not blamed on the node around it. -/
theorem within_of_refusal? {γ : Type} [Node γ] (refused : settings.refusal? value = some reason)
    (node : γ) : reason.within node = reason := by
  rcases eq_of_refusal? refused with rfl | ⟨property, rfl⟩
  · rfl
  · rfl

end Settings

namespace Binder

/-- Settings and value decide whether the value is stored; the scope has no part in it. -/
theorem decided_uncast (settings : Settings) (value : Value) (target : Placeholder)
    (fallback : String) :
    ((ofSettings settings).uncast value target fallback).Decided (settings.failure? value) := by
  rw [uncast_eq]
  unfold Settings.failure?
  cases refused : settings.refusal? value with
  | some reason =>
      rw [if_pos (Settings.isStorable_of_refusal? refused)]
      exact Attempt.decided_throw reason
  | none =>
      rw [← Value.isSome_storing? refused target fallback]
      cases value.storing? target fallback with
      | some computation => exact Attempt.decided_lift computation
      | none => exact Attempt.decided_throw (Rejection.ofValue value)

/-- Neither has a cast. -/
theorem decided_valueAs (settings : Settings) (value : Value) (target : Placeholder)
    (cast fallback : String) :
    ((ofSettings settings).valueAs value target cast fallback).Decided (settings.failure? value) := by
  rw [valueAs_eq]
  exact (decided_uncast settings value target fallback).map _

end Binder

/-- The values that an action stores, in that order. -/
def Action.operands : Action → List Value
  | .wait time => [time]
  | .input _ text => [text]
  | _ => []

/-- The values that an assertion stores, in that order. -/
def Assertion.operands : Assertion → List Value
  | .examine examined _ => [examined]
  | .compare examined _ expected => [examined, expected]

namespace Rule

variable (settings : Settings)

/-- A wait fails for its duration. -/
theorem decided_sleep (time : Value) :
    (sleep (Binder.ofSettings settings) time).Decided ([time].findSome? settings.failure?) := by
  have only : [time].findSome? settings.failure? =
      Option.or none ((settings.failure? time).or none) := by simp
  rw [only]
  refine (Attempt.decided_lift _).bind ?_
  intro target
  refine (Binder.decided_valueAs settings time target _ _).bind ?_
  intro stored
  exact Attempt.decided_pure _

/-- An input fails for its value: the field is only looked up. -/
theorem decided_fillIn (path : ElementPath) (text : Value) :
    (fillIn (Binder.ofSettings settings) path text).Decided
      ([text].findSome? settings.failure?) := by
  have only : [text].findSome? settings.failure? =
      Option.or none (Option.or none (Option.or none
        ((settings.failure? text).or (Option.or none none)))) := by simp
  rw [only]
  refine (Attempt.decided_lift _).bind ?_
  intro fields
  refine (Attempt.decided_lift _).bind ?_
  intro target
  refine (Attempt.decided_lift _).bind ?_
  intro storedFields
  refine (Binder.decided_valueAs settings text target _ _).bind ?_
  intro storedValue
  refine (Attempt.decided_lift _).bind ?_
  intro call
  exact Attempt.decided_pure _

/-- A comparison fails for the examined value before it fails for the expected one. -/
theorem decided_compare (method : String) (examined expected : Value) :
    (compare (Binder.ofSettings settings) method examined expected).Decided
      ([examined, expected].findSome? settings.failure?) := by
  have both : [examined, expected].findSome? settings.failure? =
      Option.or none (Option.or none ((settings.failure? examined).or
        ((settings.failure? expected).or (Option.or none none)))) := by
    rw [List.findSome?_cons]
    cases settings.failure? examined <;> simp
  rw [both]
  refine (Attempt.decided_lift _).bind ?_
  intro examinedTarget
  refine (Attempt.decided_lift _).bind ?_
  intro expectedTarget
  refine (Binder.decided_valueAs settings examined examinedTarget _ _).bind ?_
  intro storedExamined
  refine (Binder.decided_valueAs settings expected expectedTarget _ _).bind ?_
  intro storedExpected
  refine (Attempt.decided_lift _).bind ?_
  intro call
  exact Attempt.decided_pure _

/-- A value that can be missing is examined unless it cannot be stored. Any other value is the fault
    of the whole assertion. -/
theorem decided_examine (node : Assertion) (examined : Value) (expected : Bool) :
    ∃ failure, (examine (Binder.ofSettings settings) node examined expected).Decided failure ∧
      (canBeMissing examined = true → failure = [examined].findSome? settings.failure?) ∧
      (canBeMissing examined = false →
        ∃ reason, failure = some reason ∧ reason.within node = Rejection.ofNode node) := by
  have only : [examined].findSome? settings.failure? =
      Option.or none ((settings.failure? examined).or none) := by simp
  have stored := (Attempt.decided_lift (Scoped.fresh .examinedValue)).bind fun target =>
    (Binder.decided_uncast settings examined target settings.absentDefault).bind fun stored =>
      Attempt.decided_lift (checkPresence expected stored)
  rw [← only] at stored
  cases examined with
  | element path =>
      refine ⟨none, ?_, fun _ => rfl, ?_⟩
      · exact (Attempt.decided_lift (Call.lookUp .has path)).bind fun found =>
          Attempt.decided_lift (Call.checkExpression (if expected then .isTrue else .isFalse) found)
      · intro unable
        cases unable
  | elementAttribute path =>
      refine ⟨_, stored, fun _ => rfl, ?_⟩
      intro unnamed
      refine ⟨Rejection.ofValue (.elementAttribute path), ?_, rfl⟩
      have unstorable : (Value.elementAttribute path).isStorable = false := unnamed
      simp [Settings.failure?, unstorable]
  | environment ref | browser ref | page ref =>
      refine ⟨_, stored, fun _ => rfl, ?_⟩
      intro unable
      cases unable
  | literal text | dataParameter ref | elementParameter ref | pageElement ref =>
      refine ⟨some (Rejection.ofNode node), Attempt.decided_throw _, ?_, fun _ => ⟨_, rfl, rfl⟩⟩
      intro able
      cases able

end Rule

/-!
### Answers to nodes that are handled
-/

/-- The result is what the first refused operand gives, or source if none is refused. -/
def Settings.Answers (settings : Settings) (operands : List Value)
    (result : Except Rejection Fragment) : Prop :=
  match operands.findSome? settings.refusal? with
  | some reason => result = .error reason
  | none => ∃ fragment, result = .ok fragment

namespace Settings

/-- A result that is no source gives the reason for which settings refuse an operand. -/
theorem Answers.exists_refusal? {settings : Settings} {operands : List Value}
    {result : Except Rejection Fragment} (answers : settings.Answers operands result)
    {reason : Rejection} (failed : result = .error reason) :
    ∃ value ∈ operands, settings.refusal? value = some reason := by
  unfold Answers at answers
  split at answers
  · next other refused =>
    obtain rfl := Except.error.inj (answers.symm.trans failed)
    exact List.exists_of_findSome?_eq_some refused
  · obtain ⟨fragment, done⟩ := answers
    rw [done] at failed
    cases failed

/-- Values that can be stored fail only because settings refuse them. -/
theorem findSome?_failure? {settings : Settings} {operands : List Value}
    (storable : ∀ value ∈ operands, value.isStorable = true) :
    operands.findSome? settings.failure? = operands.findSome? settings.refusal? := by
  induction operands with
  | nil => rfl
  | cons value operands ih =>
      obtain ⟨first, rest⟩ := List.forall_mem_cons.mp storable
      have same : settings.failure? value = settings.refusal? value := if_pos first
      rw [List.findSome?_cons, List.findSome?_cons, same, ih rest]

/-- A node whose operands can be stored is answered for by the first that settings refuse. -/
theorem answers_of_decided {settings : Settings} {operands : List Value} {attempt : Attempt Fragment}
    (decided : attempt.Decided (operands.findSome? settings.failure?))
    (storable : ∀ value ∈ operands, value.isStorable = true) {γ : Type} [Node γ] (node : γ) :
    settings.Answers operands (attempt.within node).alone := by
  rw [findSome?_failure? storable] at decided
  unfold Answers
  split
  · next reason refused =>
    rw [refused] at decided
    obtain ⟨value, _, here⟩ := List.exists_of_findSome?_eq_some refused
    rw [decided.alone_of_some, within_of_refusal? here]
  · next accepted =>
    rw [accepted] at decided
    exact decided.alone_of_none node

end Settings

namespace Rule

variable {settings : Settings}

/-- What can be missing can be stored. -/
theorem isStorable_of_canBeMissing {value : Value} (able : canBeMissing value = true) :
    value.isStorable = true := by
  cases value with
  | literal text => cases able
  | _ => exact able

/-- Every rule for actions answers for the actions that it handles. -/
theorem answers_action {rule : Rule Action} (member : rule ∈ forActions (Binder.ofSettings settings))
    {node : Action} (handles : rule.handles node = true) :
    settings.Answers node.operands (rule.weave node) := by
  have interacted {kind : Interaction} {method : String}
      (handles : (interaction kind method).handles node = true) :
      settings.Answers node.operands ((interaction kind method).weave node) := by
    obtain ⟨path, rfl⟩ := (handles_interaction kind method node).mp handles
    exact ⟨(actOn path method).alone, if_pos rfl⟩
  simp only [forActions, List.mem_cons, List.not_mem_nil, or_false] at member
  rcases member with rfl | rfl | rfl | rfl | rfl | rfl
  · cases node with
    | wait time =>
        refine Settings.answers_of_decided (decided_sleep settings time) ?_ (Action.wait time)
        exact List.forall_mem_singleton.mpr handles
    | _ => cases handles
  · cases node with
    | navigate kind => exact ⟨_, rfl⟩
    | _ => cases handles
  · exact interacted handles
  · exact interacted handles
  · unfold waitFor at handles ⊢
    dsimp only at handles ⊢
    split at handles
    · next path => exact ⟨_, if_pos handles⟩
    · cases handles
  · unfold set at handles
    dsimp only at handles
    split at handles
    · next path text =>
      refine Settings.answers_of_decided (decided_fillIn settings path text) ?_
        (Action.input (.element path) text)
      exact List.forall_mem_singleton.mpr handles
    · cases handles

/-- Every rule for assertions answers for the assertions that it handles. -/
theorem answers_assertion {rule : Rule Assertion}
    (member : rule ∈ forAssertions (Binder.ofSettings settings)) {node : Assertion}
    (handles : rule.handles node = true) : settings.Answers node.operands (rule.weave node) := by
  simp only [forAssertions, List.mem_cons, List.not_mem_nil, or_false] at member
  rcases member with rfl | rfl
  · cases node with
    | compare examined comparison expected => cases handles
    | examine examined comparison =>
        obtain ⟨asked, able⟩ := Bool.and_eq_true_iff.mp handles
        obtain ⟨expected, found⟩ := Option.isSome_iff_exists.mp asked
        obtain ⟨failure, decided, reason, _⟩ :=
          decided_examine settings (.examine examined comparison) examined expected
        rw [reason able] at decided
        have answered := Settings.answers_of_decided decided
          (List.forall_mem_singleton.mpr (isStorable_of_canBeMissing able))
          (Assertion.examine examined comparison)
        simpa only [existsComparison, Assertion.operands, found] using answered
  · cases node with
    | examine examined comparison => cases handles
    | compare examined comparison expected =>
        obtain ⟨front, expectedStorable⟩ := Bool.and_eq_true_iff.mp handles
        obtain ⟨asked, examinedStorable⟩ := Bool.and_eq_true_iff.mp front
        obtain ⟨method, found⟩ := Option.isSome_iff_exists.mp asked
        have answered := Settings.answers_of_decided
          (decided_compare settings method examined expected)
          (List.forall_mem_cons.mpr ⟨examinedStorable, List.forall_mem_singleton.mpr expectedStorable⟩)
          (Assertion.compare examined comparison expected)
        simpa only [valueComparison, Assertion.operands, found] using answered

end Rule

/-!
### The weaver
-/

namespace RuleBook

variable {α : Type} [Node α]

/-- The book answers as settings want the given rules to answer. Nothing is said about the rules that are
    in the book: what settings leave of the given ones is said by name, and by the switch that is
    responsible for a node. -/
structure AnswersExactly (book : RuleBook α) (settings : Settings) (rules : List (Rule α))
    (responsible : α → Option RuleName) (operands : α → List Value) : Prop where
  /-- One of the rules is switched on and handles a node exactly if the switch for the node is on. -/
  handled_iff : ∀ node,
    (∃ rule ∈ rules, settings.isEnabled rule.name = true ∧ rule.handles node = true) ↔
      ∃ name, responsible node = some name ∧ settings.enabled name = true
  /-- A node that is not handled is refused as a whole. -/
  refused : ∀ node,
    (¬ ∃ rule ∈ rules, settings.isEnabled rule.name = true ∧ rule.handles node = true) →
      book.weave node = .error (Rejection.ofNode node)
  /-- Of a node that is handled, the first operand that settings refuse decides. -/
  answered : ∀ node,
    (∃ rule ∈ rules, settings.isEnabled rule.name = true ∧ rule.handles node = true) →
      settings.Answers (operands node) (book.weave node)
  /-- No value is ever called unusable. -/
  usable : ∀ node value, book.weave node ≠ .error (.unusableValue value)
  /-- No rule is ever called unknown. -/
  known : ∀ node name, book.weave node ≠ .error (.unknownRule name)

/-- What a book restricted to settings does with a node, by the rules before the restriction. -/
theorem weave_restrictTo_cases {rules : List (Rule α)} (settings : Settings) (node : α) :
    ((¬ ∃ rule ∈ rules, settings.isEnabled rule.name = true ∧ rule.handles node = true) ∧
      (restrictTo { rules } settings).weave node = .error (Rejection.ofNode node)) ∨
    ∃ rule ∈ rules, settings.isEnabled rule.name = true ∧ rule.handles node = true ∧
      (restrictTo { rules } settings).weave node = rule.weave node := by
  cases selected : (restrictTo { rules } settings).select? node with
  | none =>
      refine .inl ⟨?_, by rw [weave, selected]⟩
      rintro ⟨rule, member, enabled, handles⟩
      exact List.find?_eq_none.mp selected rule (mem_restrictTo.mpr ⟨member, enabled⟩) handles
  | some rule =>
      obtain ⟨present, handles⟩ := of_select?_eq_some selected
      obtain ⟨member, enabled⟩ := mem_restrictTo.mp present
      exact .inr ⟨rule, member, enabled, handles, by rw [weave, selected]⟩

/-- If each rule answers for the nodes that it handles, only nodes, values and properties are blamed. -/
theorem error_cases {rules : List (Rule α)} {settings : Settings} {operands : α → List Value}
    (answers : ∀ rule ∈ rules, ∀ node, rule.handles node = true →
      settings.Answers (operands node) (rule.weave node))
    {node : α} {reason : Rejection}
    (failed : (restrictTo { rules } settings).weave node = .error reason) :
    (∃ category text, reason = .unhandledNode category text) ∨
      ∃ property text, reason = .unknownProperty property text := by
  obtain ⟨_, woven⟩ | ⟨rule, member, _, handles, woven⟩ := weave_restrictTo_cases settings node
  · exact .inl ⟨_, _, Except.error.inj (failed.symm.trans woven)⟩
  · obtain ⟨value, _, refused⟩ :=
      (answers rule member node handles).exists_refusal? (woven.symm.trans failed)
    rcases Settings.eq_of_refusal? refused with blamed | ⟨property, blamed⟩
    · exact .inl ⟨_, _, blamed⟩
    · exact .inr ⟨_, _, blamed⟩

/-- Rules that divide the nodes among them answer exactly if each of them does for the nodes it handles,
    and if the rule that is responsible for a node is always one of them. -/
theorem answersExactly_restrictTo {rules : List (Rule α)} {responsible : α → Option RuleName}
    (keyed : Rule.KeyedBy rules responsible)
    (listed : ∀ node name, responsible node = some name → name.name ∈ rules.map Rule.name)
    {settings : Settings} {operands : α → List Value}
    (answers : ∀ rule ∈ rules, ∀ node, rule.handles node = true →
      settings.Answers (operands node) (rule.weave node)) :
    (restrictTo { rules } settings).AnswersExactly settings rules responsible operands where
  handled_iff node := by
    constructor
    · rintro ⟨rule, member, enabled, handles⟩
      obtain ⟨name, _, iff⟩ := keyed.handles_iff rule member
      have named := (iff node).mp handles
      exact ⟨name, named, (keyed.isEnabled_eq member handles named settings).symm.trans enabled⟩
    · rintro ⟨name, named, enabled⟩
      obtain ⟨rule, member, handles⟩ := keyed.exists_handles (listed node name named) named
      exact ⟨rule, member, (keyed.isEnabled_eq member handles named settings).trans enabled, handles⟩
  refused node unhandled := by
    obtain ⟨_, woven⟩ | ⟨rule, member, enabled, handles, _⟩ := weave_restrictTo_cases settings node
    · exact woven
    · exact absurd ⟨rule, member, enabled, handles⟩ unhandled
  answered node handled := by
    obtain ⟨unhandled, _⟩ | ⟨rule, member, _, handles, woven⟩ := weave_restrictTo_cases settings node
    · exact absurd handled unhandled
    · rw [woven]
      exact answers rule member node handles
  usable node value failed := by
    obtain ⟨category, text, same⟩ | ⟨property, text, same⟩ := error_cases answers failed
    · cases same
    · cases same
  known node name failed := by
    obtain ⟨category, text, same⟩ | ⟨property, text, same⟩ := error_cases answers failed
    · cases same
    · cases same

end RuleBook

/-- What the weaver makes of each action and of each assertion, for all settings: it is refused as a whole
    if no shipped rule that is switched on handles it, for its first refused operand if there is one, and
    has source otherwise. -/
theorem Weaver.answersExactly_nodes (settings : Settings) :
    (ofSettings settings).actions.AnswersExactly settings
        (Rule.forActions (Binder.ofSettings settings)) Action.rule? Action.operands ∧
      (ofSettings settings).assertions.AnswersExactly settings
        (Rule.forAssertions (Binder.ofSettings settings)) Assertion.rule? Assertion.operands := by
  constructor
  · apply RuleBook.answersExactly_restrictTo (Rule.keyed_forActions _)
    · intro node name
      exact Rule.name_mem_forActions _
    · intro rule member node handles
      exact Rule.answers_action member handles
  · apply RuleBook.answersExactly_restrictTo (Rule.keyed_forAssertions _)
    · intro node name
      exact Rule.name_mem_forAssertions _
    · intro rule member node handles
      exact Rule.answers_assertion member handles

-- With clicks and literals switched off a form can still be submitted. The colour of the page is blamed
-- although the literal after it would be refused as well.
theorem Weaver.answersExactly_nodes_without_click :
    let settings := (Settings.standard.disable .click).disable .literalValue
    let actions := (ofSettings settings).actions
    let assertions := (ofSettings settings).assertions
    let button : Identifier := .element ⟨.ofText ".go", []⟩
    (∃ fragment, actions.weave (.interact .submit button) = .ok fragment) ∧
      actions.weave (.interact .click button) = .error (.unhandledNode .action "click \".go\"") ∧
      actions.weave (.unrecognised "hover") = .error (.unhandledNode .action "hover") ∧
      actions.weave (.wait (.literal "30")) = .error (.unhandledNode .value "\"30\"") ∧
      assertions.weave (.compare (.ofPage "colour") .equal (.literal "red")) =
        .error (.unknownProperty "colour" "$page.colour") := by
  intro settings actions assertions button
  obtain ⟨forActions, forAssertions⟩ := answersExactly_nodes settings
  have submitted := forActions.answered (.interact .submit button)
    ((forActions.handled_iff _).mpr ⟨.submit, rfl, rfl⟩)
  have clicked := forActions.refused (.interact .click button) (by
    rw [forActions.handled_iff]
    rintro ⟨name, named, enabled⟩
    cases named
    cases enabled)
  have hovered := forActions.refused (.unrecognised "hover") (by
    rw [forActions.handled_iff]
    rintro ⟨name, named, _⟩
    cases named)
  have waited := forActions.answered (.wait (.literal "30"))
    ((forActions.handled_iff _).mpr ⟨.wait, rfl, rfl⟩)
  have compared := forAssertions.answered (.compare (.ofPage "colour") .equal (.literal "red"))
    ((forAssertions.handled_iff _).mpr ⟨.valueComparison, rfl, rfl⟩)
  exact ⟨submitted, clicked, hovered, waited, compared⟩

/-!
### Rules that are asked about a node they do not handle

Such a rule refuses the node as a whole, with one exception: a comparison stores its examined value
before it looks at the expected one, so an examined value that settings refuse is blamed even if the
expected one could never be stored.
-/

namespace Rule

variable {settings : Settings}

/-- A rule for values refuses all others. -/
theorem weave_value_of_not_handles {rule : Rule Value} (member : rule ∈ forValues) {node : Value}
    (unhandled : rule.handles node = false) : rule.weave node = .error (Rejection.ofNode node) := by
  simp only [forValues, List.mem_cons, List.not_mem_nil, or_false] at member
  rcases member with rfl | rfl | rfl | rfl
  · cases node with
    | literal text => cases unhandled
    | _ => rfl
  · cases node with
    | browser ref => cases unhandled
    | _ => rfl
  · cases node with
    | page ref => cases unhandled
    | _ => rfl
  · cases node with
    | environment ref => cases unhandled
    | _ => rfl

/-- A rule for identifiers refuses all others, and attributes without a name. -/
theorem weave_identifier_of_not_handles {rule : Rule Identifier} (member : rule ∈ forIdentifiers)
    {node : Identifier} (unhandled : rule.handles node = false) :
    rule.weave node = .error (Rejection.ofNode node) := by
  simp only [forIdentifiers, List.mem_cons, List.not_mem_nil, or_false] at member
  rcases member with rfl | rfl
  · cases node with
    | element path => cases unhandled
    | _ => rfl
  · cases node with
    | elementAttribute path =>
        have unnamed : ¬ path.hasName = true := Bool.eq_false_iff.mp unhandled
        exact if_neg unnamed
    | _ => rfl

/-- A single operand that cannot be stored is the fault of the node. -/
theorem alone_of_unstorable {attempt : Attempt Fragment} {value : Value}
    (decided : attempt.Decided ([value].findSome? settings.failure?))
    (unstorable : value.isStorable = false) {γ : Type} [Node γ] (node : γ) :
    (attempt.within node).alone = .error (Rejection.ofNode node) := by
  have failure : [value].findSome? settings.failure? = some (Rejection.ofValue value) := by
    simp [Settings.failure?, unstorable]
  rw [failure] at decided
  exact decided.alone_of_some node

/-- A rule for actions refuses all others; what it would do with their operands does not matter. -/
theorem weave_action_of_not_handles {rule : Rule Action}
    (member : rule ∈ forActions (Binder.ofSettings settings)) {node : Action}
    (unhandled : rule.handles node = false) : rule.weave node = .error (Rejection.ofNode node) := by
  have interacted {kind : Interaction} {method : String}
      (unhandled : (interaction kind method).handles node = false) :
      (interaction kind method).weave node = .error (Rejection.ofNode node) := by
    unfold interaction at unhandled ⊢
    dsimp only at unhandled ⊢
    split
    · exact if_neg (of_decide_eq_false unhandled)
    · rfl
  simp only [forActions, List.mem_cons, List.not_mem_nil, or_false] at member
  rcases member with rfl | rfl | rfl | rfl | rfl | rfl
  · cases node with
    | wait time => exact alone_of_unstorable (decided_sleep settings time) unhandled (Action.wait time)
    | _ => rfl
  · cases node with
    | navigate kind => cases unhandled
    | _ => rfl
  · exact interacted unhandled
  · exact interacted unhandled
  · unfold waitFor at unhandled ⊢
    dsimp only at unhandled ⊢
    split
    · exact if_neg (Bool.eq_false_iff.mp unhandled)
    · rfl
  · unfold set at unhandled ⊢
    dsimp only at unhandled ⊢
    split
    · next path text =>
      exact alone_of_unstorable (decided_fillIn settings path text) unhandled
        (Action.input (.element path) text)
    · rfl

/-- Asked about presence, a value that cannot be missing is the fault of the assertion. -/
theorem weave_existsComparison_of_not_handles {node : Assertion}
    (unhandled : (existsComparison (Binder.ofSettings settings)).handles node = false) :
    (existsComparison (Binder.ofSettings settings)).weave node = .error (Rejection.ofNode node) := by
  cases node with
  | compare examined comparison expected => rfl
  | examine examined comparison =>
      cases asked : expectsPresence? comparison with
      | none => simp only [existsComparison, asked]
      | some expected =>
          have unable : canBeMissing examined = false := by
            simpa [existsComparison, asked] using unhandled
          obtain ⟨failure, decided, _, blamed⟩ :=
            decided_examine settings (.examine examined comparison) examined expected
          obtain ⟨reason, rfl, same⟩ := blamed unable
          have refused := decided.alone_of_some (Assertion.examine examined comparison)
          rw [same] at refused
          simpa only [existsComparison, asked] using refused

/-- What a comparison is refused for before its expected value is looked at. -/
def earlierRefusal? (settings : Settings) (rule : Rule Assertion) : Assertion → Option Rejection
  | .compare examined comparison _ =>
    if rule.name = RuleName.valueComparison.name ∧ (comparisonMethod? comparison).isSome then
      settings.refusal? examined
    else none
  | .examine _ _ => none

/-- The expected value is looked at last, so it is blamed only if the examined one is fine. -/
theorem weave_valueComparison_of_not_handles {node : Assertion}
    (unhandled : (valueComparison (Binder.ofSettings settings)).handles node = false) :
    (valueComparison (Binder.ofSettings settings)).weave node =
      .error ((earlierRefusal? settings (valueComparison (Binder.ofSettings settings)) node).getD
        (Rejection.ofNode node)) := by
  cases node with
  | examine examined comparison => rfl
  | compare examined comparison expected =>
      cases asked : comparisonMethod? comparison with
      | none => simp [valueComparison, earlierRefusal?, asked]
      | some method =>
          have earlier : earlierRefusal? settings (valueComparison (Binder.ofSettings settings))
              (.compare examined comparison expected) = settings.refusal? examined := by
            simp [earlierRefusal?, valueComparison, RuleName.name, asked]
          have woven (reason : Rejection)
              (failed : [examined, expected].findSome? settings.failure? = some reason) :
              (valueComparison (Binder.ofSettings settings)).weave
                  (.compare examined comparison expected) =
                .error (reason.within (Assertion.compare examined comparison expected)) := by
            have decided := decided_compare settings method examined expected
            rw [failed] at decided
            have refused := decided.alone_of_some (Assertion.compare examined comparison expected)
            simpa only [valueComparison, asked] using refused
          rw [earlier]
          cases storable : examined.isStorable with
          | false =>
              rw [Settings.refusal?_of_not_isStorable storable]
              exact woven (Rejection.ofValue examined)
                (by simp [List.findSome?, Settings.failure?, storable])
          | true =>
              cases refused : settings.refusal? examined with
              | some reason =>
                  rw [woven reason (by simp [List.findSome?, Settings.failure?, storable, refused]),
                    Settings.within_of_refusal? refused]
                  rfl
              | none =>
                  have unstorable : expected.isStorable = false := by
                    simpa [valueComparison, asked, storable] using unhandled
                  exact woven (Rejection.ofValue expected)
                    (by simp [List.findSome?, Settings.failure?, storable, refused, unstorable])

/-- Both rules for assertions at once; only the one for comparisons looks at a value first. -/
theorem weave_assertion_of_not_handles {rule : Rule Assertion}
    (member : rule ∈ forAssertions (Binder.ofSettings settings)) {node : Assertion}
    (unhandled : rule.handles node = false) :
    rule.weave node =
      .error ((earlierRefusal? settings rule node).getD (Rejection.ofNode node)) := by
  simp only [forAssertions, List.mem_cons, List.not_mem_nil, or_false] at member
  rcases member with rfl | rfl
  · have never : earlierRefusal? settings (existsComparison (Binder.ofSettings settings)) node =
        none := by
      cases node with
      | examine examined comparison => rfl
      | compare examined comparison expected =>
          have other : (existsComparison (Binder.ofSettings settings)).name ≠
              RuleName.valueComparison.name := by
            show RuleName.existsComparison.name ≠ RuleName.valueComparison.name
            decide
          rw [earlierRefusal?, if_neg (not_and_of_not_left _ other)]
    rw [never]
    exact weave_existsComparison_of_not_handles unhandled
  · exact weave_valueComparison_of_not_handles unhandled

/-- What blames a value is never what blames the assertion that the value belongs to. -/
theorem ne_ofNode_of_earlierRefusal? {rule : Rule Assertion} {node : Assertion} {reason : Rejection}
    (earlier : earlierRefusal? settings rule node = some reason) : reason ≠ Rejection.ofNode node := by
  cases node with
  | examine examined comparison => cases earlier
  | compare examined comparison expected =>
      obtain ⟨_, refused⟩ := Option.ite_none_right_eq_some.mp earlier
      rcases Settings.eq_of_refusal? refused with rfl | ⟨property, rfl⟩
      · exact nofun
      · exact nofun

/-- A rule refuses a node that it does not handle as a whole, except that a comparison blames an
    examined value which settings refuse. -/
theorem weave_of_not_handles (settings : Settings) :
    (∀ rule ∈ forValues, ∀ node, rule.handles node = false →
      rule.weave node = .error (Rejection.ofNode node)) ∧
    (∀ rule ∈ forIdentifiers, ∀ node, rule.handles node = false →
      rule.weave node = .error (Rejection.ofNode node)) ∧
    (∀ rule ∈ forActions (Binder.ofSettings settings), ∀ node, rule.handles node = false →
      rule.weave node = .error (Rejection.ofNode node)) ∧
    ∀ rule ∈ forAssertions (Binder.ofSettings settings), ∀ node, rule.handles node = false →
      (rule.weave node = .error (Rejection.ofNode node) ↔
        earlierRefusal? settings rule node = none) ∧
      ∀ reason, earlierRefusal? settings rule node = some reason →
        rule.weave node = .error reason := by
  refine ⟨fun _ member _ => weave_value_of_not_handles member,
    fun _ member _ => weave_identifier_of_not_handles member,
    fun _ member _ => weave_action_of_not_handles member, ?_⟩
  intro rule member node unhandled
  have woven := weave_assertion_of_not_handles member unhandled
  cases earlier : earlierRefusal? settings rule node with
  | none =>
      rw [earlier] at woven
      exact ⟨⟨fun _ => rfl, fun _ => woven⟩, nofun⟩
  | some reason =>
      rw [earlier] at woven
      refine ⟨⟨?_, nofun⟩, ?_⟩
      · intro refused
        have same : reason = Rejection.ofNode node := Except.error.inj (woven.symm.trans refused)
        exact absurd same (ne_ofNode_of_earlierRefusal? earlier)
      · intro other same
        obtain rfl := Option.some.inj same
        exact woven

-- Nothing is wrong with the title of the page, so the data parameter makes the assertion fail.
theorem weave_of_not_handles_title :
    let rule := valueComparison (Binder.ofSettings .standard)
    let node := Assertion.compare (.ofPage "title") .equal (.ofData "x")
    rule.handles node = false ∧ rule.weave node = .error (Rejection.ofNode node) := by
  intro rule node
  have member : rule ∈ forAssertions (Binder.ofSettings .standard) :=
    List.mem_cons_of_mem _ List.mem_cons_self
  have answers := (weave_of_not_handles .standard).2.2.2 rule member node rfl
  exact ⟨rfl, answers.1.mpr rfl⟩

-- The page has no colour, and that is what the comparison says although it could not be made anyway.
theorem weave_valueComparison_unknown_property :
    let rule := valueComparison (Binder.ofSettings .standard)
    let node := Assertion.compare (.ofPage "colour") .equal (.ofData "x")
    rule.handles node = false ∧
      rule.weave node = .error (.unknownProperty "colour" "$page.colour") ∧
      rule.weave node ≠ .error (Rejection.ofNode node) := by
  intro rule node
  have woven : rule.weave node = .error (.unknownProperty "colour" "$page.colour") := rfl
  refine ⟨rfl, woven, ?_⟩
  rw [woven]
  exact nofun

end Rule

end StepWeaver
