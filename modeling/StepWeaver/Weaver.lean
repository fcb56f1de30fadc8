/-
Module: StepWeaver.Weaver
Layer: Rules
Purpose: Turning whole test steps into source.
Main exports: Weaver, Weaver.ofRules, Weaver.ofSettings, Weaver.weaveStep, weave
-/
import StepWeaver.Rule.Action
import StepWeaver.Rule.Assertion
import StepWeaver.Rule.Identifier
import StepWeaver.Rule.Value

namespace StepWeaver

/-- A book of rules for each kind of part of a test. -/
structure Weaver where
  /-- What the books were made from. -/
  settings : Settings
  values : RuleBook Value
  identifiers : RuleBook Identifier
  actions : RuleBook Action
  assertions : RuleBook Assertion

/-- Stores values by those of some rules for values that settings leave switched on. -/
def Binder.ofRules (settings : Settings) (values : List (Rule Value)) : Binder where
  values := RuleBook.restrictTo { rules := values } settings
  settings

/-- Stores values by all rules for values that settings leave switched on. -/
def Binder.ofSettings (settings : Settings) : Binder :=
  Binder.ofRules settings Rule.forValues

namespace Weaver

/-- Those of some rules that settings leave switched on. The rules for actions and assertions store
    values by the rules for values. -/
def ofRules (settings : Settings) (values : List (Rule Value))
    (identifiers : List (Rule Identifier)) (actions : Binder → List (Rule Action))
    (assertions : Binder → List (Rule Assertion)) : Weaver :=
  let binder := Binder.ofRules settings values
  { settings
    values := binder.values
    identifiers := RuleBook.restrictTo { rules := identifiers } settings
    actions := RuleBook.restrictTo { rules := actions binder } settings
    assertions := RuleBook.restrictTo { rules := assertions binder } settings }

/-- All rules that settings leave switched on. -/
def ofSettings (settings : Settings) : Weaver :=
  ofRules settings Rule.forValues Rule.forIdentifiers Rule.forActions Rule.forAssertions

/-- All rules. -/
def standard : Weaver := ofSettings .standard

/-- The source of a step: that of its actions, then that of its assertions. The first part that is
    refused decides why the step is refused. -/
def weaveStep (weaver : Weaver) (step : Step) : Except Rejection Fragment := do
  let actions ← step.actions.mapM weaver.actions.weave
  let assertions ← step.assertions.mapM weaver.assertions.weave
  return Fragment.concat (actions ++ assertions)

end Weaver

/-- The source of a step by all rules. -/
def weave (step : Step) : Except Rejection Fragment := Weaver.standard.weaveStep step

end StepWeaver
