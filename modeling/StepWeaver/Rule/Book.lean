/-
Module: StepWeaver.Rule.Book
Layer: Rules
Purpose: Rules that turn parts of a test into source, and ordered books of rules of which the first
  one that is responsible decides.
Main exports: Rule, RuleBook, RuleBook.select?, RuleBook.weave, RuleBook.restrictTo
-/
import StepWeaver.Fragment.Basic
import StepWeaver.Settings
import StepWeaver.Text.Listing

namespace StepWeaver

/-- Turns parts of a test of one type into source. -/
structure Rule (α : Type) where
  /-- By what name settings refer to the rule. -/
  name : String
  /-- Whether the rule is responsible for a part. -/
  handles : α → Bool
  /-- The source for a part, or why there is none. It does not rely on `handles`. -/
  weave : α → Except Rejection Fragment

/-- Rules in the order in which they are asked. -/
structure RuleBook (α : Type) where
  /-- The rules, the one asked first in front. -/
  rules : List (Rule α)

namespace RuleBook

variable {α : Type}

/-- The names of the rules, in order. -/
def names (book : RuleBook α) : List String := book.rules.map Rule.name

/-- The number of rules. -/
def size (book : RuleBook α) : Nat := book.rules.length

/-- Whether there is no rule. -/
def isEmpty (book : RuleBook α) : Bool := book.rules.isEmpty

/-- The names of the rules as one line of text. -/
def text (book : RuleBook α) : String := Text.Listing.encode book.names

/-- Adds a rule that is asked after all others. -/
def push (book : RuleBook α) (rule : Rule α) : RuleBook α :=
  { rules := book.rules ++ [rule] }

/-- Drops the rules that settings switch off or do not know. -/
def restrictTo (book : RuleBook α) (settings : Settings) : RuleBook α :=
  { rules := book.rules.filter fun rule => settings.isEnabled rule.name }

/-- The first rule that is responsible for a part. -/
def select? (book : RuleBook α) (node : α) : Option (Rule α) :=
  book.rules.find? fun rule => rule.handles node

/-- Whether some rule is responsible for a part. -/
def handles (book : RuleBook α) (node : α) : Bool :=
  (book.select? node).isSome

/-- What the first responsible rule makes of a part. If it fails, no other rule is asked. -/
def weave [Node α] (book : RuleBook α) (node : α) : Except Rejection Fragment :=
  match book.select? node with
  | some rule => rule.weave node
  | none => .error (Rejection.ofNode node)

end RuleBook

end StepWeaver
