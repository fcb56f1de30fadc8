/-
Module: StepWeaver.Model.Node
Layer: Model
Purpose: What all parts of a test have in common: a category, and a description in the words of a
  test.
Main exports: Category, Node
-/
namespace StepWeaver

/-- The kinds of parts that a test is made of. -/
inductive Category where
  | action
  | assertion
  | identifier
  | value
  | step
deriving DecidableEq, Repr, Inhabited

namespace Category

/-- All categories. -/
def all : List Category := [action, assertion, identifier, value, step]

/-- The name of a category, in documents and in messages. -/
def name : Category → String
  | action => "action"
  | assertion => "assertion"
  | identifier => "identifier"
  | value => "value"
  | step => "step"

end Category

/-- A type of parts of one category, which can be shown in the words of a test. -/
class Node (α : Type) where
  /-- The category of all parts of the type. -/
  category : Category
  /-- A part in the words of a test. -/
  describe : α → String

end StepWeaver
