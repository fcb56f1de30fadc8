/-
Module: StepWeaver.Rule.Identifier
Layer: Rules
Purpose: The rules for identifiers: an element is found, an attribute is read.
Main exports: Rule.elementIdentifier, Rule.attributeIdentifier, Rule.forIdentifiers
-/
import StepWeaver.Binding
import StepWeaver.Model.Step

namespace StepWeaver.Rule

/-- The one element that a path leads to. -/
def elementIdentifier : Rule Identifier where
  name := "element-identifier"
  handles
    | .element _ => true
    | _ => false
  weave
    | .element path => .ok (Call.lookUp .findOne path).alone
    | node => .error (Rejection.ofNode node)

/-- A named attribute of the one element that a path leads to. -/
def attributeIdentifier : Rule Identifier where
  name := "attribute-identifier"
  handles
    | .elementAttribute path => path.hasName
    | _ => false
  weave
    | .elementAttribute path =>
      if path.hasName then
        let found := (Call.lookUp .findOne path.element).alone
        .ok (found.wrap (· ++ Binding.attributeCall path.name))
      else
        .error (Rejection.ofNode (Identifier.elementAttribute path))
    | node => .error (Rejection.ofNode node)

/-- The rules for identifiers. -/
def forIdentifiers : List (Rule Identifier) :=
  [elementIdentifier, attributeIdentifier]

end StepWeaver.Rule
