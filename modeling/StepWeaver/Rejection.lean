/-
Module: StepWeaver.Rejection
Layer: Rules
Purpose: Why a part of a test cannot be turned into source, and how that is said.
Main exports: Rejection, Rejection.message, Rejection.within
-/
import StepWeaver.Model.Value

namespace StepWeaver

/-- Why something is refused. Parts of a test are kept in the words of the test. -/
inductive Rejection where
  /-- No rule is responsible for a part of a test. -/
  | unhandledNode (category : Category) (node : String)
  /-- A value cannot be used where it stands. -/
  | unusableValue (value : String)
  /-- An object of the test does not have a property. -/
  | unknownProperty (property value : String)
  /-- There is no rule of that name. -/
  | unknownRule (name : String)
deriving DecidableEq, Repr, Inhabited

namespace Rejection

/-- The wording of a refusal. -/
def message : Rejection → String
  | unhandledNode category node => "non-transpilable " ++ category.name ++ ": " ++ node
  | unusableValue value => "non-transpilable value: " ++ value
  | unknownProperty property value => "unknown property `" ++ property ++ "` in " ++ value
  | unknownRule name => "unknown rule: " ++ name

/-- No rule is responsible for a part of a test. -/
def ofNode {α : Type} [Node α] (node : α) : Rejection :=
  unhandledNode (Node.category α) (Node.describe node)

/-- A value cannot be used where it stands. -/
def ofValue (value : Value) : Rejection :=
  unusableValue value.describe

/-- The object that a value refers to does not have a property. -/
def ofProperty (property : String) (value : Value) : Rejection :=
  unknownProperty property value.describe

/-- Blames a value that cannot be used on the part of the test that it belongs to. All other causes
    are kept. -/
def within {α : Type} [Node α] (node : α) : Rejection → Rejection
  | unusableValue _ => ofNode node
  | other => other

end Rejection

end StepWeaver
