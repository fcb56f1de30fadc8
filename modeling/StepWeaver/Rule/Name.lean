/-
Module: StepWeaver.Rule.Name
Layer: Rules
Purpose: The rules there are, by name.
Main exports: RuleName, RuleName.name, RuleName.ofName?
-/
namespace StepWeaver

/-- The rules there are. -/
inductive RuleName where
  | literalValue
  | browserProperty
  | pageProperty
  | environmentParameter
  | elementIdentifier
  | attributeIdentifier
  | wait
  | navigation
  | click
  | submit
  | waitFor
  | set
  | existsComparison
  | valueComparison
deriving DecidableEq, Repr, Inhabited

namespace RuleName

/-- All rules, those for values first. -/
def all : List RuleName :=
  [literalValue, browserProperty, pageProperty, environmentParameter, elementIdentifier,
    attributeIdentifier, wait, navigation, click, submit, waitFor, set, existsComparison,
    valueComparison]

theorem mem_all (rule : RuleName) : rule ∈ all := by
  cases rule <;> decide

/-- The name of a rule. -/
def name : RuleName → String
  | literalValue => "literal-value"
  | browserProperty => "browser-property"
  | pageProperty => "page-property"
  | environmentParameter => "environment-parameter"
  | elementIdentifier => "element-identifier"
  | attributeIdentifier => "attribute-identifier"
  | wait => "wait"
  | navigation => "navigation"
  | click => "click"
  | submit => "submit"
  | waitFor => "wait-for"
  | set => "set"
  | existsComparison => "exists-comparison"
  | valueComparison => "value-comparison"

/-- The key of the switch for a rule in a settings document. -/
def settingKey : RuleName → String
  | literalValue => "literal-value"
  | browserProperty => "browser-property"
  | pageProperty => "page-property"
  | environmentParameter => "environment-parameter"
  | elementIdentifier => "element-identifier"
  | attributeIdentifier => "attribute-identifier"
  | wait => "wait-action"
  | navigation => "navigation-action"
  | click => "click-action"
  | submit => "submit-action"
  | waitFor => "wait-for-action"
  | set => "set-action"
  | existsComparison => "exists-assertion"
  | valueComparison => "comparison-assertion"

/-- The rule that a skip list means by a name. -/
def ofName? : String → Option RuleName
  | "literal-value" => some literalValue
  | "browser-property" => some browserProperty
  | "page-property" => some pageProperty
  | "environment-parameter" => some environmentParameter
  | "element-identifier" => some elementIdentifier
  | "attribute-identifier" => some attributeIdentifier
  | "wait" => some wait
  | "navigation" => some navigation
  | "click" => some click
  | "submit" => some submit
  | "wait-for" => some waitFor
  | "set" => some set
  | "exists-comparison" => some existsComparison
  | "value-comparison" => some valueComparison
  | _ => none

/-- A rule is found by its name, so no two rules share one. -/
@[simp] theorem ofName?_name (rule : RuleName) : ofName? rule.name = some rule := by
  cases rule <;> decide

end RuleName

end StepWeaver
