/-
Module: StepWeaver.Proofs.BookHistory
Layer: Proofs
Purpose: What a book of rules has come to after any additions and restrictions. A restriction drops the rules
  that are in the book at that moment; a rule that is added later stays, even if it has the name of one that
  was dropped. So what is left of a rule's history is the settings since its addition. Of the rules that are
  left, the first one that handles a node answers for it, with source or with a refusal.
Main exports: Settings.Admits, RuleBook.Change, RuleBook.run, RuleBook.Entry, RuleBook.survivors,
  RuleBook.survivors_cons, RuleBook.rules_run, RuleBook.IsFirst, RuleBook.weave_eq_iff, RuleBook.weave_run
-/
import StepWeaver.Proofs.Dispatch

namespace StepWeaver

namespace Settings

/-- There is a rule of that name, and it is switched on. -/
def Admits (settings : Settings) (name : String) : Prop :=
  ∃ rule ∈ RuleName.all, rule.name = name ∧ settings.enabled rule = true

instance (settings : Settings) (name : String) : Decidable (settings.Admits name) :=
  inferInstanceAs (Decidable (∃ rule ∈ RuleName.all, _))

theorem isEnabled_iff_admits {settings : Settings} {name : String} :
    settings.isEnabled name = true ↔ settings.Admits name := by
  constructor
  · intro enabled
    rw [isEnabled_eq, Option.any_eq_true] at enabled
    obtain ⟨rule, found, on⟩ := enabled
    exact ⟨rule, RuleName.mem_all rule, RuleName.ofName?_eq_some_iff.mp found, on⟩
  · rintro ⟨rule, _, rfl, enabled⟩
    rwa [isEnabled_name]

end Settings

namespace RuleBook

variable {α : Type}

/-!
### Changes of a book
-/

/-- Something that is done to a book. -/
inductive Change (α : Type) where
  /-- A rule is added, to be asked after all others. -/
  | push (rule : Rule α)
  /-- The rules that settings switch off or do not know are dropped. -/
  | restrictTo (settings : Settings)

/-- The book after a change. -/
def change (book : RuleBook α) : Change α → RuleBook α
  | .push rule => book.push rule
  | .restrictTo settings => book.restrictTo settings

/-- The book after changes, one after the other. -/
def run (book : RuleBook α) (changes : List (Change α)) : RuleBook α :=
  changes.foldl change book

/-!
### What is left of the rules
-/

/-- A rule that has been added to a book, and all settings that the book has been restricted to since. -/
structure Entry (α : Type) where
  rule : Rule α
  since : List Settings

/-- No restriction since its addition has dropped the rule. -/
def Entry.Survives (entry : Entry α) : Prop :=
  ∀ settings ∈ entry.since, settings.Admits entry.rule.name

instance (entry : Entry α) : Decidable entry.Survives :=
  inferInstanceAs (Decidable (∀ settings ∈ entry.since, _))

/-- The settings that changes restrict a book to. -/
def restrictions : List (Change α) → List Settings
  | [] => []
  | .push _ :: changes => restrictions changes
  | .restrictTo settings :: changes => settings :: restrictions changes

/-- The rules that changes add, in order. -/
def additions : List (Change α) → List (Entry α)
  | [] => []
  | .push rule :: changes => { rule, since := restrictions changes } :: additions changes
  | .restrictTo _ :: changes => additions changes

/-- All rules that a book has ever had, in the order in which they were added. -/
def entries (book : RuleBook α) (changes : List (Change α)) : List (Entry α) :=
  book.rules.map (fun rule => { rule, since := restrictions changes }) ++ additions changes

/-- The rules that are left after changes, in the order in which they were added. -/
def survivors (book : RuleBook α) (changes : List (Change α)) : List (Rule α) :=
  ((book.entries changes).filter fun entry => entry.Survives).map Entry.rule

/-- Rules that have the same settings behind them are kept by what these say about their names. -/
theorem map_rule_filter_survives (rules : List (Rule α)) (since : List Settings) :
    ((rules.map fun rule => Entry.mk rule since).filter fun entry => entry.Survives).map Entry.rule =
      rules.filter fun rule => ∀ settings ∈ since, settings.Admits rule.name := by
  rw [List.filter_map, List.map_map]
  exact List.map_id _

/-- The first change may as well be made to the book before the history starts. -/
theorem survivors_cons (book : RuleBook α) (first : Change α) (changes : List (Change α)) :
    book.survivors (first :: changes) = (book.change first).survivors changes := by
  cases first with
  | push rule => simp [survivors, entries, restrictions, additions, change, push]
  | restrictTo settings =>
      have kept : (book.rules.filter fun rule =>
            ∀ later ∈ settings :: restrictions changes, later.Admits rule.name) =
          (book.rules.filter fun rule => settings.isEnabled rule.name).filter fun rule =>
            ∀ later ∈ restrictions changes, later.Admits rule.name := by
        rw [List.filter_filter]
        apply List.filter_congr
        intro rule _
        rw [Bool.eq_iff_iff, Bool.and_eq_true, decide_eq_true_iff, decide_eq_true_iff,
          List.forall_mem_cons, Settings.isEnabled_iff_admits, and_comm]
      simp only [survivors, entries, restrictions, additions, change, restrictTo, List.filter_append,
        List.map_append, map_rule_filter_survives, kept]

/-- The rules of a book are those that were added and survived all restrictions since. -/
theorem rules_run (book : RuleBook α) (changes : List (Change α)) :
    (book.run changes).rules = book.survivors changes := by
  induction changes generalizing book with
  | nil =>
      have kept := map_rule_filter_survives book.rules []
      rw [survivors, entries, restrictions, additions, List.append_nil, kept]
      simp [run]
  | cons first changes ih =>
      rw [survivors_cons]
      exact ih (book.change first)

/-!
### Who answers
-/

/-- The rule is the first of some rules that handles a node. -/
def IsFirst (rules : List (Rule α)) (node : α) (rule : Rule α) : Prop :=
  ∃ before after, rules = before ++ rule :: after ∧ rule.handles node = true ∧
    ∀ other ∈ before, other.handles node = false

/-- A book selects the first of its rules that answers for a node. -/
theorem select?_eq_some_iff {book : RuleBook α} {node : α} {rule : Rule α} :
    book.select? node = some rule ↔ IsFirst book.rules node rule := by
  rw [select?, List.find?_eq_some_iff_append, IsFirst]
  constructor
  · rintro ⟨handles, before, after, split, silent⟩
    exact ⟨before, after, split, handles, fun other member => by simpa using silent other member⟩
  · rintro ⟨before, after, split, handles, silent⟩
    exact ⟨handles, before, after, split, fun other member => by simpa using silent other member⟩

/-- A book selects nothing if none of its rules answers for a node. -/
theorem select?_eq_none_iff {book : RuleBook α} {node : α} :
    book.select? node = none ↔ ∀ rule ∈ book.rules, rule.handles node = false := by
  unfold select?
  simp [List.find?_eq_none]

variable [Node α]

/-- A book answers as its first rule for the node does, whatever rules follow; without such a rule it refuses
    the node. -/
theorem weave_eq_iff {book : RuleBook α} {node : α} {outcome : Except Rejection Fragment} :
    book.weave node = outcome ↔
      (∃ rule, IsFirst book.rules node rule ∧ rule.weave node = outcome) ∨
      ((∀ rule ∈ book.rules, rule.handles node = false) ∧
        outcome = .error (Rejection.ofNode node)) := by
  rw [weave]
  cases selected : book.select? node with
  | some rule =>
      have first := select?_eq_some_iff.mp selected
      constructor
      · intro answered
        exact Or.inl ⟨rule, first, answered⟩
      · rintro (⟨other, otherFirst, answered⟩ | ⟨silent, _⟩)
        · rw [select?_eq_some_iff.mpr otherFirst] at selected
          cases selected
          exact answered
        · rw [select?_eq_none_iff.mpr silent] at selected
          cases selected
  | none =>
      have silent := select?_eq_none_iff.mp selected
      constructor
      · intro refused
        exact Or.inr ⟨silent, refused.symm⟩
      · rintro (⟨rule, first, _⟩ | ⟨_, refused⟩)
        · rw [select?_eq_some_iff.mpr first] at selected
          cases selected
        · exact refused.symm

/-- After any additions and restrictions, a book holds the rules that were ever added, in that order, less
    those that some later restriction switched off or did not know. The first of them that handles a node
    decides what becomes of it. A node is refused as unhandled exactly when none of them handles it, or that
    rule itself refuses it so. -/
theorem weave_run (book : RuleBook α) (changes : List (Change α)) :
    (book.run changes).rules = book.survivors changes ∧
    ∀ node : α,
      (∀ outcome, (book.run changes).weave node = outcome ↔
        (∃ rule, IsFirst (book.survivors changes) node rule ∧ rule.weave node = outcome) ∨
        ((∀ rule ∈ book.survivors changes, rule.handles node = false) ∧
          outcome = .error (Rejection.ofNode node))) ∧
      ((book.run changes).weave node = .error (Rejection.ofNode node) ↔
        (∀ rule ∈ book.survivors changes, rule.handles node = false) ∨
        ∃ rule, IsFirst (book.survivors changes) node rule ∧
          rule.weave node = .error (Rejection.ofNode node)) := by
  refine ⟨rules_run book changes, fun node => ⟨?_, ?_⟩⟩
  · intro outcome
    rw [weave_eq_iff, rules_run]
  · rw [weave_eq_iff, rules_run, and_iff_left rfl, or_comm]

-- The rule `x` is unknown to the settings, but one of that name has been added after them.
example :
    let rule (name : String) : Rule Value := { Rule.literalValue with name }
    (RuleBook.run { rules := [rule "wait", rule "x"] }
      [.push (rule "click"), .restrictTo (Settings.standard.disable .click), .push (rule "x"),
        .push (rule "wait")]).names = ["wait", "x", "wait"] := by
  decide +kernel

end RuleBook

end StepWeaver
