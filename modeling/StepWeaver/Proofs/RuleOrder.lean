/-
Module: StepWeaver.Proofs.RuleOrder
Layer: Proofs
Purpose: The order of the rules does not matter. A book asks its rules in order, but no node is handled by two
  of the rules there are, so whichever order they stand in, the same rule answers, or none. Actions and
  assertions are also indifferent to the order of the rules for values that their operands are stored by.
Main exports: Rule.Exclusive, Rule.KeyedBy.exclusive, RuleBook.select?_of_perm, RuleBook.AnswersLike,
  RuleBook.answersLike_of_perm, Binder.StoresLike, Rule.forActions_congr, Rule.forAssertions_congr,
  Weaver.Reorders, Weaver.answersLike_of_reorders
-/
import StepWeaver.Proofs.Dispatch

namespace StepWeaver

/-!
### Rules that exclude each other
-/

namespace Rule

variable {α : Type}

/-- At most one of the rules handles a node, whatever the node. -/
def Exclusive (rules : List (Rule α)) : Prop :=
  ∀ node, (rules.filter fun rule => rule.handles node).length ≤ 1

/-- Rules that are keyed by nodes never compete for one. -/
theorem KeyedBy.exclusive {rules : List (Rule α)} {responsible : α → Option RuleName}
    (keyed : KeyedBy rules responsible) : Exclusive rules := by
  intro node
  cases answering : rules.filter fun rule => rule.handles node with
  | nil => exact Nat.zero_le 1
  | cons first others =>
      cases others with
      | nil => exact Nat.le_refl 1
      | cons second others =>
          have found (rule : Rule α) (listed : rule ∈ first :: second :: others) :
              rule ∈ rules ∧ rule.handles node = true := by
            rw [← answering] at listed
            exact List.mem_filter.mp listed
          obtain ⟨firstMember, firstHandles⟩ := found first (by simp)
          obtain ⟨secondMember, secondHandles⟩ := found second (by simp)
          have same := keyed.sole firstMember secondMember firstHandles secondHandles
          -- The names of the rules are different, so no rule is listed twice.
          have distinct : ((first :: second :: others).map Rule.name).Nodup := by
            rw [← answering]
            exact keyed.nodup.sublist (List.filter_sublist.map Rule.name)
          rw [same] at distinct
          simp at distinct

/-- Nor do any of them that are left. -/
theorem Exclusive.filter {rules : List (Rule α)} (exclusive : Exclusive rules) (keeps : Rule α → Bool) :
    Exclusive (rules.filter keeps) := by
  intro node
  have fewer : ((rules.filter keeps).filter fun rule => rule.handles node).Sublist
      (rules.filter fun rule => rule.handles node) :=
    List.filter_sublist.filter _
  exact Nat.le_trans fewer.length_le (exclusive node)

end Rule

namespace RuleBook

variable {α : Type}

/-- The first rule that handles a node is the only one, so it is the first in any order. -/
theorem select?_of_perm {book other : RuleBook α} (exclusive : Rule.Exclusive book.rules)
    (perm : other.rules.Perm book.rules) (node : α) : other.select? node = book.select? node := by
  have single := exclusive node
  have answering := perm.filter fun rule => rule.handles node
  rw [select?, select?, ← List.head?_filter, ← List.head?_filter]
  generalize (book.rules.filter fun rule => rule.handles node) = rules at single answering ⊢
  cases rules with
  | nil => rw [List.perm_nil.mp answering]
  | cons rule rest =>
      obtain rfl : rest = [] := List.length_eq_zero_iff.mp (Nat.le_zero.mp (Nat.le_of_succ_le_succ single))
      rw [List.perm_singleton.mp answering]

variable [Node α]

/-- Two books are responsible for the same nodes and make the same of each of them. -/
def AnswersLike (book other : RuleBook α) : Prop :=
  ∀ node, book.handles node = other.handles node ∧ book.weave node = other.weave node

/-- Where no two rules compete, their order does not matter. -/
theorem answersLike_of_perm {book other : RuleBook α} (exclusive : Rule.Exclusive book.rules)
    (perm : other.rules.Perm book.rules) : other.AnswersLike book := by
  intro node
  have same := select?_of_perm exclusive perm node
  constructor
  · rw [handles, handles, same]
  · rw [weave, weave, same]

/-- Rules that divide nodes among them give the same answers in any order, whichever are switched off. -/
theorem answersLike_restrictTo {rules : List (Rule α)} {responsible : α → Option RuleName}
    (keyed : Rule.KeyedBy rules responsible) {settings : Settings} {book : RuleBook α}
    (perm : book.rules.Perm (restrictTo { rules } settings).rules) :
    book.AnswersLike (restrictTo { rules } settings) :=
  answersLike_of_perm (keyed.exclusive.filter _) perm

end RuleBook

/-!
### Storing values by rules in another order
-/

/-- Two binders with the same settings, whose rules for values give the same answers. -/
structure Binder.StoresLike (binder other : Binder) : Prop where
  settings : binder.settings = other.settings
  values : binder.values.AnswersLike other.values

namespace Binder.StoresLike

variable {binder other : Binder}

theorem scalar (alike : binder.StoresLike other) : binder.scalar = other.scalar := by
  have same (value : Value) : binder.values.weave value = other.values.weave value :=
    (alike.values value).2
  funext value target fallback
  cases value <;> simp only [Binder.scalar, same]

theorem valueAs (alike : binder.StoresLike other) : binder.valueAs = other.valueAs := by
  funext value target cast fallback
  cases value <;> simp only [Binder.valueAs, alike.scalar]

theorem value (alike : binder.StoresLike other) : binder.value = other.value := by
  funext value target
  rw [Binder.value, Binder.value, alike.valueAs, alike.settings]

end Binder.StoresLike

namespace Rule

/-- The rules for actions depend on how values are stored and on nothing else of a binder. -/
theorem forActions_congr {binder other : Binder} (alike : binder.StoresLike other) :
    forActions binder = forActions other := by
  have sleeps : sleep binder = sleep other := by
    funext duration
    simp only [sleep, alike.valueAs, alike.settings]
  have fills : fillIn binder = fillIn other := by
    funext path value
    simp only [fillIn, alike.value]
  simp only [forActions, wait, set, sleeps, fills]

/-- So do the rules for assertions. -/
theorem forAssertions_congr {binder other : Binder} (alike : binder.StoresLike other) :
    forAssertions binder = forAssertions other := by
  have examines : examine binder = examine other := by
    funext node examined expected
    cases examined <;> simp only [examine, alike.scalar, alike.settings]
  have compares : compare binder = compare other := by
    funext method examined expected
    simp only [compare, alike.value]
  simp only [forAssertions, existsComparison, valueComparison, examines, compares]

end Rule

/-!
### Weavers
-/

namespace Weaver

/-- The weaver has the rules that settings leave switched on, each book in any order. For actions and
    assertions, values are stored by `inner`, which has the rules for values in yet another order. -/
structure Reorders (weaver : Weaver) (settings : Settings) (inner : RuleBook Value) : Prop where
  stored : inner.rules.Perm (ofSettings settings).values.rules
  values : weaver.values.rules.Perm (ofSettings settings).values.rules
  identifiers : weaver.identifiers.rules.Perm (ofSettings settings).identifiers.rules
  actions : weaver.actions.rules.Perm
    (RuleBook.restrictTo { rules := Rule.forActions { values := inner, settings } } settings).rules
  assertions : weaver.assertions.rules.Perm
    (RuleBook.restrictTo { rules := Rule.forAssertions { values := inner, settings } } settings).rules

/-- It makes no difference whether rules are reordered before or after some are switched off. -/
theorem reorders_ofRules (settings : Settings) {values : List (Rule Value)}
    {identifiers : List (Rule Identifier)} {actions : Binder → List (Rule Action)}
    {assertions : Binder → List (Rule Assertion)} (valuesPerm : values.Perm Rule.forValues)
    (identifiersPerm : identifiers.Perm Rule.forIdentifiers)
    (actionsPerm : ∀ binder, (actions binder).Perm (Rule.forActions binder))
    (assertionsPerm : ∀ binder, (assertions binder).Perm (Rule.forAssertions binder)) :
    (ofRules settings values identifiers actions assertions).Reorders settings
      (Binder.ofRules settings values).values where
  stored := valuesPerm.filter _
  values := valuesPerm.filter _
  identifiers := identifiersPerm.filter _
  actions := (actionsPerm _).filter _
  assertions := (assertionsPerm _).filter _

/-- Values are stored alike after their rules have changed places. -/
theorem Reorders.storesLike {weaver : Weaver} {settings : Settings} {inner : RuleBook Value}
    (reorders : weaver.Reorders settings inner) :
    Binder.StoresLike { values := inner, settings } (Binder.ofSettings settings) where
  settings := rfl
  values := RuleBook.answersLike_restrictTo Rule.keyed_forValues reorders.stored

/-- No node is handled by two of the rules of its category. So a weaver with the same rules in other orders,
    also of those by which the operands of actions and assertions are stored, is responsible for the same
    nodes and makes the same of each of them, and of every step. -/
theorem answersLike_of_reorders (settings : Settings) :
    (Rule.Exclusive Rule.forValues ∧ Rule.Exclusive Rule.forIdentifiers ∧
      ∀ binder, Rule.Exclusive (Rule.forActions binder) ∧ Rule.Exclusive (Rule.forAssertions binder)) ∧
    ∀ (inner : RuleBook Value) (weaver : Weaver), weaver.Reorders settings inner →
      weaver.values.AnswersLike (ofSettings settings).values ∧
      weaver.identifiers.AnswersLike (ofSettings settings).identifiers ∧
      weaver.actions.AnswersLike (ofSettings settings).actions ∧
      weaver.assertions.AnswersLike (ofSettings settings).assertions ∧
      ∀ step, weaver.weaveStep step = (ofSettings settings).weaveStep step := by
  constructor
  · exact ⟨Rule.keyed_forValues.exclusive, Rule.keyed_forIdentifiers.exclusive, fun binder =>
      ⟨(Rule.keyed_forActions binder).exclusive, (Rule.keyed_forAssertions binder).exclusive⟩⟩
  · intro inner weaver reorders
    have actionsPerm := reorders.actions
    rw [Rule.forActions_congr reorders.storesLike] at actionsPerm
    have assertionsPerm := reorders.assertions
    rw [Rule.forAssertions_congr reorders.storesLike] at assertionsPerm
    have values : weaver.values.AnswersLike (ofSettings settings).values :=
      RuleBook.answersLike_restrictTo Rule.keyed_forValues reorders.values
    have identifiers : weaver.identifiers.AnswersLike (ofSettings settings).identifiers :=
      RuleBook.answersLike_restrictTo Rule.keyed_forIdentifiers reorders.identifiers
    have actions : weaver.actions.AnswersLike (ofSettings settings).actions :=
      RuleBook.answersLike_restrictTo (Rule.keyed_forActions _) actionsPerm
    have assertions : weaver.assertions.AnswersLike (ofSettings settings).assertions :=
      RuleBook.answersLike_restrictTo (Rule.keyed_forAssertions _) assertionsPerm
    refine ⟨values, identifiers, actions, assertions, ?_⟩
    intro step
    have actionsWoven : weaver.actions.weave = (ofSettings settings).actions.weave :=
      funext fun node => (actions node).2
    have assertionsWoven : weaver.assertions.weave = (ofSettings settings).assertions.weave :=
      funext fun node => (assertions node).2
    rw [weaveStep, weaveStep, actionsWoven, assertionsWoven]

-- All rules stand in reverse order, and one is switched off.
theorem answersLike_of_reorders_reverse :
    let settings := Settings.standard.disable .pageProperty
    let weaver := ofRules settings Rule.forValues.reverse Rule.forIdentifiers.reverse
      (fun binder => (Rule.forActions binder).reverse) (fun binder => (Rule.forAssertions binder).reverse)
    let action := Action.input (.element { own := .ofText "a" }) (.literal "b")
    weaver.Reorders settings (Binder.ofRules settings Rule.forValues.reverse).values ∧
      weaver.actions.names ≠ (ofSettings settings).actions.names ∧
      weaver.values.names ≠ (ofSettings settings).values.names ∧
      weaver.actions.handles action = (ofSettings settings).actions.handles action ∧
      weaver.actions.weave action = (ofSettings settings).actions.weave action := by
  intro settings weaver action
  have reorders : weaver.Reorders settings (Binder.ofRules settings Rule.forValues.reverse).values :=
    reorders_ofRules settings (List.reverse_perm _) (List.reverse_perm _)
      (fun _ => List.reverse_perm _) (fun _ => List.reverse_perm _)
  obtain ⟨_, same⟩ := answersLike_of_reorders settings
  obtain ⟨_, _, actions, _⟩ := same _ weaver reorders
  exact ⟨reorders, by decide, by decide, actions action⟩

end Weaver

end StepWeaver
