/-
Module: StepWeaver.Placeholder.Basic
Layer: Placeholders
Purpose: Placeholders, the named holes of generated statements, and the tokens that show them.
Main exports: Placeholder, Placeholder.canonical, Placeholder.token, Placeholder.sort
-/
namespace StepWeaver

/-- A named hole in a statement. The name says which role the hole plays; a number tells a further
    hole of the same role from the first, which has none. -/
structure Placeholder where
  /-- The role. -/
  name : String
  /-- What tells apart two holes of one role. -/
  number : Option UInt32
deriving DecidableEq, Repr, Inhabited

namespace Placeholder

/-- The placeholder of a role that carries no number. -/
def canonical (name : String) : Placeholder :=
  { name, number := none }

/-- The placeholder of a role that carries a number. -/
def numbered (name : String) (number : UInt32) : Placeholder :=
  { name, number := some number }

/-- What starts a token: two braces and a blank. -/
def opening : String := "\x7b\x7b "

/-- What ends a token: a blank and two braces. -/
def closing : String := " \x7d\x7d"

/-- What a token holds: the role and, after a colon, the number if there is one. -/
def label : Placeholder → String
  | { name, number := none } => name
  | { name, number := some number } => name ++ ":" ++ toString number.toNat

/-- The token that stands for a placeholder in a statement. -/
def token (placeholder : Placeholder) : String :=
  opening ++ placeholder.label ++ closing

/-- The order in which placeholders are sorted: by role in code point order, then by number, the
    placeholder without a number before all others of its role. -/
def precedes (left right : Placeholder) : Bool :=
  left.name < right.name ||
    left.name == right.name &&
      match left.number, right.number with
      | none, _ => true
      | some _, none => false
      | some m, some n => m ≤ n

/-- A list of placeholders in sorted order. -/
def sort (placeholders : List Placeholder) : List Placeholder :=
  placeholders.mergeSort precedes

end Placeholder

end StepWeaver
