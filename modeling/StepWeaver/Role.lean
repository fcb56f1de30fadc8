/-
Module: StepWeaver.Role
Layer: Rules
Purpose: The roles that placeholders play in generated source.
Main exports: Role, Role.name, Role.placeholder, Role.isEnvironment
-/
import StepWeaver.Placeholder.Basic

namespace StepWeaver

/-- What a placeholder stands for. -/
inductive Role where
  /-- The running test, which checks assertions. -/
  | testContext
  /-- Finds elements by their locators. -/
  | navigator
  /-- The parameters of the environment. -/
  | environment
  /-- The client that drives the browser. -/
  | client
  /-- What the client has loaded. -/
  | crawler
  /-- Reads form fields. -/
  | inspector
  /-- Fills in form fields. -/
  | mutator
  /-- The locator of an element. -/
  | elementLocator
  /-- One element. -/
  | element
  /-- All elements that a locator finds. -/
  | collection
  /-- Whether a locator finds something. -/
  | presence
  /-- A value to be filled in. -/
  | value
  /-- How long to wait. -/
  | duration
  /-- A value that an assertion looks at. -/
  | examinedValue
  /-- A value that an assertion compares with. -/
  | expectedValue
  /-- The size of the browser window. -/
  | windowSize
deriving DecidableEq, Repr, Inhabited

namespace Role

/-- The name of a role. -/
def name : Role → String
  | testContext => "TEST_CONTEXT"
  | navigator => "NAVIGATOR"
  | environment => "ENV_ARRAY"
  | client => "CLIENT"
  | crawler => "CRAWLER"
  | inspector => "INSPECTOR"
  | mutator => "MUTATOR"
  | elementLocator => "ELEMENT_LOCATOR"
  | element => "ELEMENT"
  | collection => "COLLECTION"
  | presence => "HAS"
  | value => "VALUE"
  | duration => "DURATION"
  | examinedValue => "EXAMINED_VALUE"
  | expectedValue => "EXPECTED_VALUE"
  | windowSize => "WEBDRIVER_DIMENSION"

/-- Whether the surroundings of the generated source fill the role, once for all fragments. The
    other roles are filled by the fragment that allocates them. -/
def isEnvironment : Role → Bool
  | testContext | navigator | environment | client | crawler | inspector | mutator => true
  | _ => false

/-- The placeholder of a role that carries no number. -/
def placeholder (role : Role) : Placeholder := .canonical role.name

end Role

end StepWeaver
