/-
Module: StepWeaver.Model.Step
Layer: Model
Purpose: Test steps: what is done in the browser, and what is then asserted.
Main exports: Identifier, Action, Comparison, Assertion, Step
-/
import StepWeaver.Model.Value

namespace StepWeaver

/-- What an action is done to. -/
inductive Identifier where
  | element (path : ElementPath)
  | elementAttribute (path : AttributePath)
  /-- An element that an imported page names. -/
  | pageElement (ref : PropertyRef)
  /-- An element that the test names. -/
  | elementParameter (ref : PropertyRef)
deriving DecidableEq, Repr, Inhabited

namespace Identifier

/-- The identifier in the words of a test. -/
def describe : Identifier → String
  | element path => path.describe
  | elementAttribute path => path.describe
  | pageElement ref | elementParameter ref => ref.reference

instance : Node Identifier where
  category := .identifier
  describe

end Identifier

/-- Actions on the browser as a whole. -/
inductive Navigation where
  | back
  | forward
  | reload
deriving DecidableEq, Repr, Inhabited

namespace Navigation

/-- All actions on the browser. -/
def all : List Navigation := [back, forward, reload]

/-- The word for an action on the browser. -/
def name : Navigation → String
  | back => "back"
  | forward => "forward"
  | reload => "reload"

end Navigation

/-- Actions on an element that need nothing but the element. -/
inductive Interaction where
  | click
  | submit
  | waitFor
deriving DecidableEq, Repr, Inhabited

namespace Interaction

/-- All actions on an element. -/
def all : List Interaction := [click, submit, waitFor]

/-- The word for an action on an element. -/
def name : Interaction → String
  | click => "click"
  | submit => "submit"
  | waitFor => "wait-for"

end Interaction

/-- Something that is done in the browser. -/
inductive Action where
  /-- Let some time pass. -/
  | wait (duration : Value)
  | navigate (kind : Navigation)
  | interact (kind : Interaction) (identifier : Identifier)
  /-- Type a value into a form field. -/
  | input (identifier : Identifier) (value : Value)
  /-- Words that mean nothing to us. -/
  | unrecognised (source : String)
deriving DecidableEq, Repr, Inhabited

namespace Action

/-- The action in the words of a test. -/
def describe : Action → String
  | wait duration => "wait " ++ duration.describe
  | navigate kind => kind.name
  | interact kind identifier => kind.name ++ " " ++ identifier.describe
  | input identifier value => "set " ++ identifier.describe ++ " to " ++ value.describe
  | unrecognised source => source

instance : Node Action where
  category := .action
  describe

end Action

/-- How an assertion looks at values. -/
inductive Comparison where
  | equal
  | unequal
  | present
  | absent
  | includes
  | excludes
  | matching
deriving DecidableEq, Repr, Inhabited

namespace Comparison

/-- All comparisons. -/
def all : List Comparison :=
  [equal, unequal, present, absent, includes, excludes, matching]

/-- The word for a comparison. -/
def name : Comparison → String
  | equal => "is"
  | unequal => "is-not"
  | present => "exists"
  | absent => "not-exists"
  | includes => "includes"
  | excludes => "excludes"
  | matching => "matches"

end Comparison

/-- What is expected of a page. Both forms take any comparison; which ones make sense is for the
    rules to say. -/
inductive Assertion where
  /-- Looks at one value. -/
  | examine (examined : Value) (comparison : Comparison)
  /-- Compares a value with an expected one. -/
  | compare (examined : Value) (comparison : Comparison) (expected : Value)
deriving DecidableEq, Repr, Inhabited

namespace Assertion

/-- The value that the assertion looks at. -/
def examined : Assertion → Value
  | examine examined _ => examined
  | compare examined _ _ => examined

/-- How the assertion looks at it. -/
def comparison : Assertion → Comparison
  | examine _ comparison => comparison
  | compare _ comparison _ => comparison

/-- The assertion in the words of a test. -/
def describe : Assertion → String
  | examine examined comparison => examined.describe ++ " " ++ comparison.name
  | compare examined comparison expected =>
    examined.describe ++ " " ++ comparison.name ++ " " ++ expected.describe

instance : Node Assertion where
  category := .assertion
  describe

end Assertion

/-- A step of a test: first everything is done, then everything is asserted. -/
structure Step where
  actions : List Action := []
  assertions : List Assertion := []
deriving DecidableEq, Repr, Inhabited

namespace Step

/-- The step in the words of a test. -/
def describe (step : Step) : String :=
  "; ".intercalate (step.actions.map Action.describe ++ step.assertions.map Assertion.describe)

instance : Node Step where
  category := .step
  describe

end Step

end StepWeaver
