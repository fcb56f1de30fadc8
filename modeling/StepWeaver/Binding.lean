/-
Module: StepWeaver.Binding
Layer: Bindings
Purpose: Storing what a test refers to (elements, attributes, texts) in placeholders.
Main exports: Binding.element, Binding.collection, Binding.fieldValue, Binding.elementAttribute,
  Binder, Binder.scalar, Binder.value, Binder.valueAs, Binder.presence
-/
import StepWeaver.Call.Check
import StepWeaver.Call.Form
import StepWeaver.Call.Navigate
import StepWeaver.Rule.Book

namespace StepWeaver

namespace Binding

/-!
### Elements

What a path leads to is stored in four steps: the locator, whether it finds anything, the check that
it does, and then what it finds.
-/

/-- Stores the answer to `query` after checking the answer to `probe`. -/
def lookup (path : ElementPath) (target : Placeholder) (probe query : Lookup) :
    Scoped Assignment := do
  let locator ← Scoped.fresh .elementLocator
  let presence ← Scoped.fresh .presence
  let arguments := Call.locateStored locator path
  let probed ← Call.navigate probe arguments
  let checked ← Call.checkStored .isTrue (Assignment.ofFragment presence probed)
  let found ← Call.navigate query arguments
  return (Assignment.ofFragment target found).precededBy
    [(Assignment.ofFragment locator (Call.locate path)).toFragment, checked]

/-- Stores the one element that a path leads to. -/
def element (path : ElementPath) (target : Placeholder) : Scoped Assignment :=
  lookup path target .hasOne .findOne

/-- Stores all elements that a path leads to. -/
def collection (path : ElementPath) (target : Placeholder) : Scoped Assignment :=
  lookup path target .has .find

/-- Stores the value of the form field that a path leads to. -/
def fieldValue (path : ElementPath) (target : Placeholder) : Scoped Assignment := do
  let elements ← Scoped.fresh .collection
  let stored ← collection path elements
  let value ← Call.readField elements
  return (Assignment.ofFragment target value).precededBy [stored.toFragment]

/-- The call that reads an attribute by its name. -/
def attributeCall (name : String) : String :=
  "->getAttribute(" ++ Text.Quoted.literal name ++ ")"

/-- Stores the value of an attribute, which has to be named. -/
def elementAttribute (path : AttributePath) (target : Placeholder) : Attempt Assignment := do
  if path.hasName then
    let owner ← Scoped.fresh .element
    let stored ← element path.element owner
    let access := Fragment.ofStatement (owner.token ++ attributeCall path.name) [owner]
    return (Assignment.ofFragment target access).precededBy [stored.toFragment]
  else
    throw (.unusableValue path.describe)

end Binding

/-- Stores values of any kind. Scalar values are left to a book of rules. -/
structure Binder where
  /-- The rules for scalar values. -/
  values : RuleBook Value
  /-- The texts that can be chosen. -/
  settings : Settings

namespace Binder

/-!
### Values

A literal, or a text that browser, page or environment give, is what the rules make of it. A
parameter of the environment may be absent, so it comes with a fallback.
-/

/-- Stores a literal or a text that browser, page or environment give. -/
def scalar (binder : Binder) (value : Value) (target : Placeholder) (fallback : String) :
    Except Rejection Assignment :=
  match value with
  | .literal _ | .browser _ | .page _ => do
    let access ← binder.values.weave value
    return Assignment.ofFragment target access
  | .environment _ => do
    let access ← binder.values.weave value
    return Assignment.ofFragment target (access.mapFinal (· ++ " ?? " ++ fallback))
  | _ => .error (Rejection.ofValue value)

/-- Stores a value and then casts it in place. -/
def valueAs (binder : Binder) (value : Value) (target : Placeholder) (cast fallback : String) :
    Attempt Assignment := do
  let stored ← match value with
    | .element path => Binding.fieldValue path target
    | .elementAttribute path => Binding.elementAttribute path target
    | _ => binder.scalar value target fallback
  let casted := Fragment.ofStatement ("(" ++ cast ++ ") " ++ target.token)
  return (Assignment.ofFragment target casted).precededBy [stored.toFragment]

/-- Stores a value and casts it as the settings say. -/
def value (binder : Binder) (value : Value) (target : Placeholder) : Attempt Assignment :=
  binder.valueAs value target binder.settings.valueCast binder.settings.absentDefault

/-- Replaces what an assignment stores by whether that is anything at all. -/
def notNull (stored : Assignment) (target : Placeholder) : Assignment :=
  (Assignment.ofFragment target (Fragment.ofStatement (target.token ++ " !== null"))).precededBy
    [stored.toFragment]

/-- Stores whether a value is there. -/
def presence (binder : Binder) (value : Value) (target : Placeholder) : Attempt Assignment := do
  match value with
  | .element path => return Assignment.ofFragment target (← Call.lookUp .has path)
  | .elementAttribute path => return notNull (← Binding.elementAttribute path target) target
  | .environment _ | .browser _ | .page _ =>
    return notNull (← binder.scalar value target binder.settings.absentDefault) target
  | _ => throw (Rejection.ofValue value)

end Binder

end StepWeaver
