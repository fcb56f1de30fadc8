/-
Module: StepWeaver.Model.Json
Layer: Model
Purpose: Reading test steps from JSON documents and writing them as JSON documents. A node is read from an
  object with named fields. Two other forms in which a document could be given are left out, and are not
  read here: a node as an array of its fields in order, and a constructor given by its number.
Main exports: ElementPath.ofJson?, Value.ofJson?, Identifier.ofJson?, Action.ofJson?,
  Assertion.ofJson?, Step.ofJson?, and the function `toJson` of each of these types
-/
import StepWeaver.Json
import StepWeaver.Model.Step

namespace StepWeaver

/-!
### Names

An alternative without content is written as its name, which is case-sensitive. It is also read from
an object whose only field has that name and holds no content. What counts as no content depends on
where the alternative stands: null does everywhere, and an empty object does below an object that
names its constructor.
-/

/-- Where a document stands: outside of every object that names its constructor, or below one. -/
inductive Place where
  | untagged
  | tagged
deriving DecidableEq, Repr, Inhabited

/-- Whether a document holds no content. -/
def Json.isVoid : Place → Json → Bool
  | _, .null => true
  | .tagged, .obj [] => true
  | _, _ => false

/-- The name of an alternative without content. -/
def Json.name? (place : Place) : Json → Option String
  | .str name => some name
  | .obj [(name, content)] => if content.isVoid place then some name else none
  | _ => none

/-- Finds the alternative that a document names. -/
def Json.named? {α : Type} (json : Json) (place : Place) (all : List α) (name : α → String) :
    Option α :=
  json.name? place >>= fun text => all.find? fun a => name a == text

-- An empty object is no content below an object that names its constructor, and only there.
example : Json.name? .tagged (.obj [("reload", .obj [])]) = some "reload" := by decide
example : Json.name? .untagged (.obj [("reload", .obj [])]) = none := by decide

/-- Reads the language of a locator. -/
def LocatorKind.ofJson? (place : Place) (json : Json) : Option LocatorKind :=
  json.named? place all name
/-- Reads an action on the browser. -/
def Navigation.ofJson? (place : Place) (json : Json) : Option Navigation :=
  json.named? place all name
/-- Reads an action on an element. -/
def Interaction.ofJson? (place : Place) (json : Json) : Option Interaction :=
  json.named? place all name
/-- Reads a comparison. -/
def Comparison.ofJson? (place : Place) (json : Json) : Option Comparison :=
  json.named? place all name
/-- Reads a category. -/
def Category.ofJson? (place : Place) (json : Json) : Option Category :=
  json.named? place all name

/-- Writes the language of a locator. -/
def LocatorKind.toJson (kind : LocatorKind) : Json := .str kind.name
/-- Writes an action on the browser. -/
def Navigation.toJson (kind : Navigation) : Json := .str kind.name
/-- Writes an action on an element. -/
def Interaction.toJson (kind : Interaction) : Json := .str kind.name
/-- Writes a comparison. -/
def Comparison.toJson (comparison : Comparison) : Json := .str comparison.name
/-- Writes a category. -/
def Category.toJson (category : Category) : Json := .str category.name

/-!
### Locators and paths

Each locator of a path is an object that holds the next one under the key of its parent. A position
that is not given is 1, and is always written. A name or parent may be missing or null, and is
written only if there is one.
-/

/-- Reads one locator of a path, without what it is looked for in. -/
def Locator.ofJson? (place : Place) (json : Json) : Option Locator := do
  let text ← json.stringField? "locator"
  let kind ← json.field? "kind" >>= LocatorKind.ofJson? place
  let position ← match json.field? "position" with
    | none => some 1
    | some position => position.int32?
  let name ← json.optionalString? "name"
  return { text, kind, position, name }

/-- The fields of one locator of a path, without what it is looked for in. -/
def Locator.fields (locator : Locator) : List (String × Json) :=
  [("locator", .str locator.text), ("kind", locator.kind.toJson),
    ("position", .int locator.position.toInt)] ++
  Json.optionalField "name" (locator.name.map .str)

namespace ElementPath

/-- Reads a path, from the element outwards. -/
def ofJson? (place : Place) (json : Json) : Option ElementPath := do
  let own ← Locator.ofJson? place json
  match _found : json.field? "parent" with
  | none | some .null => some { own }
  | some value => (ofJson? place value).map { own : ElementPath }.within
termination_by sizeOf json
decreasing_by exact Json.sizeOf_lt_of_field? _found

/-- The fields of a path, given by its lineage. -/
def lineageFields : Locator → List Locator → List (String × Json)
  | own, [] => own.fields
  | own, parent :: ancestors => own.fields ++ [("parent", .obj (lineageFields parent ancestors))]

/-- The fields of a path. -/
def fields (path : ElementPath) : List (String × Json) :=
  lineageFields path.own path.ancestors

/-- Writes a path. -/
def toJson (path : ElementPath) : Json := .obj path.fields

end ElementPath

namespace AttributePath

/-- Reads the path of an attribute. -/
def ofJson? (place : Place) (json : Json) : Option AttributePath := do
  let element ← json.field? "element" >>= ElementPath.ofJson? place
  let name ← json.stringField? "attribute_name"
  return { element, name }

/-- The fields of the path of an attribute. -/
def fields (path : AttributePath) : List (String × Json) :=
  [("element", path.element.toJson), ("attribute_name", .str path.name)]

/-- Writes the path of an attribute. -/
def toJson (path : AttributePath) : Json := .obj path.fields

end AttributePath

/-!
### Values

A value with content is an object that names its constructor, as a string under the key `type`,
beside the fields of the content.
-/

/-- An object whose constructor is named beside its fields. -/
def Json.tagged (tag : String) (fields : List (String × Json)) : Json :=
  .obj (("type", .str tag) :: fields)

namespace PropertyRef

/-- Reads a reference to a property. -/
def ofJson? (json : Json) : Option PropertyRef := do
  let reference ← json.stringField? "reference"
  let object ← json.stringField? "object"
  let property ← json.stringField? "property"
  return { reference, object, property }

/-- The fields of a reference to a property. -/
def fields (ref : PropertyRef) : List (String × Json) :=
  [("reference", .str ref.reference), ("object", .str ref.object),
    ("property", .str ref.property)]

/-- Writes a reference to a property. -/
def toJson (ref : PropertyRef) : Json := .obj ref.fields

end PropertyRef

namespace Value

/-- Reads the content of a literal. -/
def literalOfJson? (json : Json) : Option String := json.stringField? "value"

/-- The fields of a literal. -/
def literalFields (text : String) : List (String × Json) := [("value", .str text)]

/-- Reads a value. -/
def ofJson? (json : Json) : Option Value := do
  match ← json.stringField? "type" with
  | "literal" => literal <$> literalOfJson? json
  | "element_reference" => element <$> ElementPath.ofJson? .tagged json
  | "attribute_reference" => elementAttribute <$> AttributePath.ofJson? .tagged json
  | "environment_parameter" => environment <$> PropertyRef.ofJson? json
  | "browser_property" => browser <$> PropertyRef.ofJson? json
  | "page_property" => page <$> PropertyRef.ofJson? json
  | "data_parameter" => dataParameter <$> PropertyRef.ofJson? json
  | "element_parameter" => elementParameter <$> PropertyRef.ofJson? json
  | "page_element_reference" => pageElement <$> PropertyRef.ofJson? json
  | _ => none

/-- The fields of a value, without its constructor. -/
def fields : Value → List (String × Json)
  | literal text => literalFields text
  | element path => path.fields
  | elementAttribute path => path.fields
  | environment ref | browser ref | page ref | dataParameter ref | elementParameter ref
  | pageElement ref => ref.fields

/-- Writes a value. -/
def toJson (value : Value) : Json := Json.tagged value.tag value.fields

end Value

/-!
### Steps
-/

namespace Identifier

/-- Reads an identifier. -/
def ofJson? (json : Json) : Option Identifier := do
  match ← json.stringField? "type" with
  | "element" => element <$> ElementPath.ofJson? .tagged json
  | "attribute" => elementAttribute <$> AttributePath.ofJson? .tagged json
  | "page_element_reference" => pageElement <$> PropertyRef.ofJson? json
  | "element_parameter" => elementParameter <$> PropertyRef.ofJson? json
  | _ => none

/-- Writes an identifier. -/
def toJson : Identifier → Json
  | element path => Json.tagged "element" path.fields
  | elementAttribute path => Json.tagged "attribute" path.fields
  | pageElement ref => Json.tagged "page_element_reference" ref.fields
  | elementParameter ref => Json.tagged "element_parameter" ref.fields

end Identifier

namespace Action

/-- Reads an action. -/
def ofJson? (json : Json) : Option Action := do
  match ← json.stringField? "type" with
  | "wait" => return wait (← json.field? "duration" >>= Value.ofJson?)
  | "no_arguments" => return navigate (← json.field? "kind" >>= Navigation.ofJson? .tagged)
  | "interaction" =>
    let kind ← json.field? "kind" >>= Interaction.ofJson? .tagged
    let identifier ← json.field? "identifier" >>= Identifier.ofJson?
    return interact kind identifier
  | "input" =>
    let identifier ← json.field? "identifier" >>= Identifier.ofJson?
    let value ← json.field? "value" >>= Value.ofJson?
    return input identifier value
  | "unrecognised" => return unrecognised (← json.stringField? "source")
  | _ => none

/-- Writes an action. -/
def toJson : Action → Json
  | wait duration => Json.tagged "wait" [("duration", duration.toJson)]
  | navigate kind => Json.tagged "no_arguments" [("kind", kind.toJson)]
  | interact kind identifier =>
    Json.tagged "interaction" [("kind", kind.toJson), ("identifier", identifier.toJson)]
  | input identifier value =>
    Json.tagged "input" [("identifier", identifier.toJson), ("value", value.toJson)]
  | unrecognised source => Json.tagged "unrecognised" [("source", .str source)]

end Action

namespace Assertion

/-- Reads an assertion. -/
def ofJson? (json : Json) : Option Assertion := do
  match ← json.stringField? "type" with
  | "examination" =>
    let examined ← json.field? "examined" >>= Value.ofJson?
    let comparison ← json.field? "comparison" >>= Comparison.ofJson? .tagged
    return examine examined comparison
  | "comparison" =>
    let examined ← json.field? "examined" >>= Value.ofJson?
    let comparison ← json.field? "comparison" >>= Comparison.ofJson? .tagged
    let expected ← json.field? "expected" >>= Value.ofJson?
    return compare examined comparison expected
  | _ => none

/-- Writes an assertion. -/
def toJson : Assertion → Json
  | examine examined comparison =>
    Json.tagged "examination"
      [("examined", examined.toJson), ("comparison", comparison.toJson)]
  | compare examined comparison expected =>
    Json.tagged "comparison"
      [("examined", examined.toJson), ("comparison", comparison.toJson),
        ("expected", expected.toJson)]

end Assertion

namespace Step

/-- Reads a list that may be missing, but not null. -/
def listOfJson? {α : Type} (json : Json) (key : String) (ofJson? : Json → Option α) :
    Option (List α) :=
  match json.field? key with
  | none => some []
  | some value => value.items? >>= List.mapM ofJson?

/-- Reads a step. -/
def ofJson? (json : Json) : Option Step := do
  match json with
  | .obj _ =>
    let actions ← listOfJson? json "actions" Action.ofJson?
    let assertions ← listOfJson? json "assertions" Assertion.ofJson?
    return { actions, assertions }
  | _ => none

/-- Writes a step. -/
def toJson (step : Step) : Json :=
  .obj [("actions", .arr (step.actions.map Action.toJson)),
    ("assertions", .arr (step.assertions.map Assertion.toJson))]

end Step

end StepWeaver
