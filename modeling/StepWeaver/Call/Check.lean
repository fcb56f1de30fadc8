/-
Module: StepWeaver.Call.Check
Layer: Calls
Purpose: The source that checks what a test asserts.
Main exports: Check, Call.checkStored, Call.checkExpression, Call.compareStored
-/
import StepWeaver.Fragment.Assignment
import StepWeaver.Scope

namespace StepWeaver

/-- What is asserted of one value. -/
inductive Check where
  | isTrue
  | isFalse
  | isNull
  | isNotNull
deriving DecidableEq, Repr, Inhabited

/-- The method of the test context that makes a check. -/
def Check.method : Check → String
  | .isTrue => "assertTrue"
  | .isFalse => "assertFalse"
  | .isNull => "assertNull"
  | .isNotNull => "assertNotNull"

namespace Call

/-- Stores a value and checks what has been stored. -/
def checkStored (check : Check) (assignment : Assignment) : Scoped Fragment := do
  let testContext ← Scoped.create .testContext
  let call := Fragment.ofStatement
    (testContext.token ++ "->" ++ check.method ++ "(" ++ assignment.target.token ++ ")")
    [testContext, assignment.target]
  return Fragment.concat [assignment.toFragment, call]

/-- Checks an expression on the spot. -/
def checkExpression (check : Check) (expression : Fragment) : Scoped Fragment := do
  let testContext ← Scoped.create .testContext
  return expression.wrap
    (fun text => testContext.token ++ "->" ++ check.method ++ "(" ++ text ++ ")")
    (Linkage.ofExports [testContext])

/-- Compares two stored values by a method of the test context. -/
def compareStored (method : String) (expected examined : Placeholder) : Scoped Fragment := do
  let testContext ← Scoped.create .testContext
  return Fragment.ofStatement
    (testContext.token ++ "->" ++ method ++ "(" ++ expected.token ++ ", " ++ examined.token ++ ")")
    [testContext, expected, examined]

end Call

end StepWeaver
