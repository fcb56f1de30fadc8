/-
Module: StepWeaver.Call.Form
Layer: Calls
Purpose: The source that reads form fields and fills them in.
Main exports: Call.readField, Call.fillField
-/
import StepWeaver.Fragment.Basic
import StepWeaver.Scope

namespace StepWeaver.Call

/-- Reads the value of the elements in a placeholder. -/
def readField (collection : Placeholder) : Scoped Fragment := do
  let inspector ← Scoped.create .inspector
  return Fragment.ofStatement
    (inspector.token ++ "->getValue(" ++ collection.token ++ ")")
    [inspector, collection]

/-- Fills a value into the elements in a placeholder. -/
def fillField (collection value : Placeholder) : Scoped Fragment := do
  let mutator ← Scoped.create .mutator
  return Fragment.ofStatement
    (mutator.token ++ "->setValue(" ++ collection.token ++ ", " ++ value.token ++ ")")
    [mutator, collection, value]

end StepWeaver.Call
