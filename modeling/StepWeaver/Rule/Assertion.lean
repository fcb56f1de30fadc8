/-
Module: StepWeaver.Rule.Assertion
Layer: Rules
Purpose: The rules for what is asserted of a page.
Main exports: Rule.existsComparison, Rule.valueComparison, Rule.forAssertions
-/
import StepWeaver.Binding
import StepWeaver.Model.Step

namespace StepWeaver.Rule

/-!
### Presence

An element is there if the navigator finds it. An attribute, or a text that browser, page or
environment give, is there if it is not null once it has been stored.
-/

/-- Whether it makes sense to ask if a value is there. A literal always is. -/
def canBeMissing : Value → Bool
  | .literal _ => false
  | value => value.isStorable

/-- Whether a comparison asks for presence (`true`) or absence (`false`). -/
def expectsPresence? : Comparison → Option Bool
  | .present => some true
  | .absent => some false
  | _ => none

/-- Stores a value and checks that it is something, or that it is nothing. -/
def checkPresence (expected : Bool) (assignment : Assignment) : Scoped Fragment :=
  Call.checkStored (if expected then .isNotNull else .isNull) assignment

/-- Checks whether a value is there. -/
def examine (binder : Binder) (node : Assertion) (examined : Value) (expected : Bool) :
    Attempt Fragment := do
  match examined with
  | .element path =>
    let found ← Call.lookUp .has path
    Call.checkExpression (if expected then .isTrue else .isFalse) found
  | .elementAttribute path =>
    let target ← Scoped.fresh .examinedValue
    checkPresence expected (← Binding.elementAttribute path target)
  | .environment _ | .browser _ | .page _ =>
    let target ← Scoped.fresh .examinedValue
    checkPresence expected (← binder.scalar examined target binder.settings.absentDefault)
  | _ => throw (Rejection.ofNode node)

/-- Asserts that a value is there, or that it is not. -/
def existsComparison (binder : Binder) : Rule Assertion where
  name := "exists-comparison"
  handles
    | .examine examined comparison =>
      (expectsPresence? comparison).isSome && canBeMissing examined
    | _ => false
  weave node :=
    match node with
    | .examine examined comparison =>
      match expectsPresence? comparison with
      | some expected => ((examine binder node examined expected).within node).alone
      | none => .error (Rejection.ofNode node)
    | _ => .error (Rejection.ofNode node)

/-!
### Comparison
-/

/-- The method of the test context that compares two values. -/
def comparisonMethod? : Comparison → Option String
  | .equal => some "assertEquals"
  | .unequal => some "assertNotEquals"
  | .includes => some "assertStringContainsString"
  | .excludes => some "assertStringNotContainsString"
  | .matching => some "assertRegExp"
  | .present | .absent => none

/-- Stores two values, the examined one first, and compares them. -/
def compare (binder : Binder) (method : String) (examined expected : Value) :
    Attempt Fragment := do
  let examinedTarget ← Scoped.fresh .examinedValue
  let expectedTarget ← Scoped.fresh .expectedValue
  let storedExamined ← binder.value examined examinedTarget
  let storedExpected ← binder.value expected expectedTarget
  let call ← Call.compareStored method expectedTarget examinedTarget
  return Fragment.concat [storedExamined.toFragment, storedExpected.toFragment, call]

/-- Asserts how two values compare. -/
def valueComparison (binder : Binder) : Rule Assertion where
  name := "value-comparison"
  handles
    | .compare examined comparison expected =>
      (comparisonMethod? comparison).isSome && examined.isStorable && expected.isStorable
    | _ => false
  weave node :=
    match node with
    | .compare examined comparison expected =>
      match comparisonMethod? comparison with
      | some method => ((compare binder method examined expected).within node).alone
      | none => .error (Rejection.ofNode node)
    | _ => .error (Rejection.ofNode node)

/-- The rules for what is asserted of a page. -/
def forAssertions (binder : Binder) : List (Rule Assertion) :=
  [existsComparison binder, valueComparison binder]

end StepWeaver.Rule
