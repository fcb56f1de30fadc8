/-
Module: StepWeaver.Proofs.Schema
Layer: Proofs
Purpose: What documents are read as, and which fields a reader knows. A schema names a type of nodes
  together with its reader and its writer; an object that stands for a node has some fields that the
  reader asks for, each with a schema of its own, and for a node with alternatives these depend on the
  tag. The main statement is that a reader asks for no other field: objects whose known fields are read
  alike are read alike themselves.
Main exports: Schema, Schema.ofJson?, Schema.toJson, Schema.slots, Schema.ReadsAlike, SlotsAlike,
  Schema.ofJson?_obj_congr
-/
import StepWeaver.Model.Json

namespace StepWeaver

namespace Json

@[simp] theorem field?_obj (fields : List (String × Json)) (key : String) :
    (obj fields).field? key = fields.lookup key := rfl

@[simp] theorem string?_str (text : String) : (str text).string? = some text := rfl

@[simp] theorem items?_arr (items : List Json) : (arr items).items? = some items := rfl

end Json

/-- What a document is read as. -/
inductive Schema where
  /-- Nothing that anybody reads. -/
  | foreign
  | text
  | position
  /-- The name of an alternative without content. -/
  | word (place : Place)
  /-- The content that such an alternative does not have. -/
  | void (place : Place)
  | elementPath (place : Place)
  | attributePath (place : Place)
  | value
  | identifier
  | action
  | assertion
  | step
  | list (item : Schema)
deriving DecidableEq, Repr, Inhabited

namespace Schema

/-- The type of what is read. -/
def Node : Schema → Type
  | foreign => Empty
  | text => String
  | position => Int32
  | word _ => String
  | void _ => Unit
  | elementPath _ => ElementPath
  | attributePath _ => AttributePath
  | value => Value
  | identifier => Identifier
  | action => Action
  | assertion => Assertion
  | step => Step
  | list item => List item.Node

/-- Reads a document. -/
def ofJson? : (schema : Schema) → Json → Option schema.Node
  | foreign, _ => none
  | text, json => json.string?
  | position, json => json.int32?
  | word place, json => json.name? place
  | void place, json => if json.isVoid place then some () else none
  | elementPath place, json => ElementPath.ofJson? place json
  | attributePath place, json => AttributePath.ofJson? place json
  | value, json => Value.ofJson? json
  | identifier, json => Identifier.ofJson? json
  | action, json => Action.ofJson? json
  | assertion, json => Assertion.ofJson? json
  | step, json => Step.ofJson? json
  | list item, json => json.items? >>= List.mapM item.ofJson?

/-- Writes a document. -/
def toJson : (schema : Schema) → schema.Node → Json
  | text, node => .str node
  | position, node => .int (Int32.toInt node)
  | word _, node => .str node
  | void _, _ => .null
  | elementPath _, node => ElementPath.toJson node
  | attributePath _, node => AttributePath.toJson node
  | value, node => Value.toJson node
  | identifier, node => Identifier.toJson node
  | action, node => Action.toJson node
  | assertion, node => Assertion.toJson node
  | step, node => Step.toJson node
  | list item, nodes => .arr (List.map item.toJson nodes)

/-!
### Known fields
-/

/-- The fields of a path. -/
def pathSlots (place : Place) : List (String × Schema) :=
  [("locator", text), ("kind", word place), ("position", position), ("name", text),
    ("parent", elementPath place)]

/-- The fields of the path of an attribute. -/
def attributeSlots (place : Place) : List (String × Schema) :=
  [("element", elementPath place), ("attribute_name", text)]

/-- The fields of a reference to a property. -/
def refSlots : List (String × Schema) :=
  [("reference", text), ("object", text), ("property", text)]

/-- The fields that a reader knows in an object, beside the tag if there is one. -/
def contentSlots : Schema → Option String → List (String × Schema)
  | elementPath place, _ => pathSlots place
  | attributePath place, _ => attributeSlots place
  | value, some "literal" => [("value", text)]
  | value, some "element_reference" => pathSlots .tagged
  | value, some "attribute_reference" => attributeSlots .tagged
  | value, some "environment_parameter" => refSlots
  | value, some "browser_property" => refSlots
  | value, some "page_property" => refSlots
  | value, some "data_parameter" => refSlots
  | value, some "element_parameter" => refSlots
  | value, some "page_element_reference" => refSlots
  | identifier, some "element" => pathSlots .tagged
  | identifier, some "attribute" => attributeSlots .tagged
  | identifier, some "page_element_reference" => refSlots
  | identifier, some "element_parameter" => refSlots
  | action, some "wait" => [("duration", value)]
  | action, some "no_arguments" => [("kind", word .tagged)]
  | action, some "interaction" => [("kind", word .tagged), ("identifier", identifier)]
  | action, some "input" => [("identifier", identifier), ("value", value)]
  | action, some "unrecognised" => [("source", text)]
  | assertion, some "examination" => [("examined", value), ("comparison", word .tagged)]
  | assertion, some "comparison" =>
    [("examined", value), ("comparison", word .tagged), ("expected", value)]
  | step, _ => [("actions", list action), ("assertions", list assertion)]
  | _, _ => []

/-- Whether objects of this schema name their constructor. -/
def isTagged : Schema → Bool
  | value | identifier | action | assertion => true
  | _ => false

/-- The fields that a reader knows in an object with a tag. -/
def slots (schema : Schema) (tag : Option String) : List (String × Schema) :=
  if schema.isTagged then ("type", text) :: schema.contentSlots tag else schema.contentSlots tag

/-!
### Reading alike
-/

/-- Two documents are read as the same node or not at all, and null stands for itself alone. -/
def ReadsAlike (schema : Schema) (left right : Json) : Prop :=
  (left = .null ↔ right = .null) ∧ schema.ofJson? left = schema.ofJson? right

/-- Two fields are both missing, or they are read alike. -/
inductive FieldAlike (schema : Schema) : Option Json → Option Json → Prop
  | missing : FieldAlike schema none none
  | present {left right : Json} (alike : schema.ReadsAlike left right) :
      FieldAlike schema (some left) (some right)

theorem ReadsAlike.refl (schema : Schema) (json : Json) : schema.ReadsAlike json json :=
  ⟨Iff.rfl, rfl⟩

theorem FieldAlike.refl (schema : Schema) (field : Option Json) : schema.FieldAlike field field := by
  cases field with
  | none => exact .missing
  | some json => exact .present (.refl schema json)

/-- A field that reads alike is missing from both documents or present in both. -/
theorem FieldAlike.missing_or_present {schema : Schema} {left right : Option Json}
    (alike : schema.FieldAlike left right) :
    (left = none ∧ right = none) ∨
      ∃ first second, left = some first ∧ right = some second ∧ schema.ReadsAlike first second := by
  cases alike with
  | missing => exact .inl ⟨rfl, rfl⟩
  | present alike => exact .inr ⟨_, _, rfl, rfl, alike⟩

theorem FieldAlike.bind {schema : Schema} {left right : Option Json}
    (alike : schema.FieldAlike left right) : left >>= schema.ofJson? = right >>= schema.ofJson? := by
  cases alike with
  | missing => rfl
  | present alike => exact alike.2

end Schema

/-- The fields that are listed are read alike in two documents. -/
def SlotsAlike (slots : List (String × Schema)) (left right : Json) : Prop :=
  ∀ key schema, slots.lookup key = some schema →
    schema.FieldAlike (left.field? key) (right.field? key)

/-- The name of the constructor of an object. -/
def Json.tag? (json : Json) : Option String := json.stringField? "type"

namespace SlotsAlike

variable {slots : List (String × Schema)} {left right : Json}

/-- A text that is known to the schema is read alike. -/
theorem stringField? (alike : SlotsAlike slots left right) {key : String}
    (known : slots.lookup key = some .text) : left.stringField? key = right.stringField? key :=
  (alike key .text known).bind

/-- A slot may be forgotten once its field has been read. -/
theorem tail {key : String} {schema : Schema} (alike : SlotsAlike ((key, schema) :: slots) left right)
    (once : slots.lookup key = none) : SlotsAlike slots left right := by
  intro other inner known
  apply alike
  rw [List.lookup_cons]
  split
  · next same =>
    rw [eq_of_beq same, once] at known
    cases known
  · exact known

end SlotsAlike

/-!
### Fields that may be missing or null
-/

/-- A document that is not null. -/
def Json.nonNull? : Json → Option Json
  | .null => none
  | json => some json

theorem Json.nonNull?_of_ne {json : Json} (present : json ≠ .null) : json.nonNull? = some json := by
  cases json with
  | null => exact absurd rfl present
  | _ => rfl

/-- A missing text and a null are both no text; anything else has to be one. -/
theorem Json.optionalString?_eq (json : Json) (key : String) :
    json.optionalString? key =
      match json.field? key >>= nonNull? with
      | none => some none
      | some value => value.string?.map some := by
  unfold optionalString?
  cases json.field? key with
  | none => rfl
  | some value => cases value <;> rfl

/-- A path is its own locator and, unless that is missing or null, the path of its parent. -/
theorem ElementPath.ofJson?_eq (place : Place) (json : Json) :
    ofJson? place json = (do
      let own ← Locator.ofJson? place json
      match json.field? "parent" >>= Json.nonNull? with
      | none => some { own }
      | some value => (ofJson? place value).map { own : ElementPath }.within) := by
  rw [ofJson?]
  cases Locator.ofJson? place json with
  | none => rfl
  | some own =>
      simp only [Option.bind_eq_bind, Option.bind_some]
      cases json.field? "parent" with
      | none => rfl
      | some value => cases value <;> rfl

open Schema

/-- A null is read as a missing field on both sides. -/
theorem Schema.FieldAlike.nonNull? {schema : Schema} {left right : Option Json}
    (alike : schema.FieldAlike left right) :
    schema.FieldAlike (left >>= Json.nonNull?) (right >>= Json.nonNull?) := by
  cases alike with
  | missing => exact .missing
  | @present first second alike =>
      by_cases null : first = .null
      · obtain rfl := null
        obtain rfl := alike.1.mp rfl
        exact .missing
      · have present : second ≠ .null := fun isNull => null (alike.1.mpr isNull)
        simp only [Option.bind_eq_bind, Option.bind_some, Json.nonNull?_of_ne null,
          Json.nonNull?_of_ne present]
        exact .present alike

/-- An optional text that is known to the schema is read alike. -/
theorem SlotsAlike.optionalString? {slots : List (String × Schema)} {left right : Json}
    (alike : SlotsAlike slots left right) {key : String} (known : slots.lookup key = some .text) :
    left.optionalString? key = right.optionalString? key := by
  rw [Json.optionalString?_eq, Json.optionalString?_eq]
  obtain ⟨left, right⟩ | ⟨first, second, left, right, alike⟩ :=
    (alike key .text known).nonNull?.missing_or_present
  · rw [left, right]
  · rw [left, right]
    exact congrArg (Option.map some) alike.2

/-!
### Readers ask for the fields that they know
-/

/-- A reference is decoded from its three fields and from nothing else. -/
theorem PropertyRef.ofJson?_congr {left right : Json} (alike : SlotsAlike refSlots left right) :
    ofJson? left = ofJson? right := by
  unfold ofJson?
  rw [alike.stringField? rfl, alike.stringField? rfl, alike.stringField? rfl]

/-- An alternative without content is found by its name. -/
theorem SlotsAlike.named? {slots : List (String × Schema)} {left right : Json}
    (alike : SlotsAlike slots left right) {key : String} {place : Place}
    (known : slots.lookup key = some (.word place)) {α : Type} (all : List α) (name : α → String) :
    (left.field? key >>= fun json => json.named? place all name) =
      (right.field? key >>= fun json => json.named? place all name) := by
  obtain ⟨left, right⟩ | ⟨first, second, left, right, alike⟩ := (alike key _ known).missing_or_present
  · rw [left, right]
  · have same : first.name? place = second.name? place := alike.2
    rw [left, right]
    simp only [Option.bind_eq_bind, Option.bind_some, Json.named?, same]

/-- A locator is decoded from the slots of a path and from nothing else. -/
theorem Locator.ofJson?_congr {place : Place} {left right : Json}
    (alike : SlotsAlike (pathSlots place) left right) : ofJson? place left = ofJson? place right := by
  have kind : (left.field? "kind" >>= LocatorKind.ofJson? place) =
      (right.field? "kind" >>= LocatorKind.ofJson? place) :=
    alike.named? rfl LocatorKind.all LocatorKind.name
  unfold ofJson?
  rw [alike.stringField? rfl, kind, alike.optionalString? rfl]
  obtain ⟨left, right⟩ | ⟨first, second, left, right, alike⟩ :=
    (alike "position" .position rfl).missing_or_present
  · simp only [left, right]
  · have same : first.int32? = second.int32? := alike.2
    simp only [left, right, same]

/-- So is a whole path, parent by parent. -/
theorem ElementPath.ofJson?_congr {place : Place} {left right : Json}
    (alike : SlotsAlike (pathSlots place) left right) : ofJson? place left = ofJson? place right := by
  rw [ofJson?_eq, ofJson?_eq, Locator.ofJson?_congr alike]
  obtain ⟨left, right⟩ | ⟨first, second, left, right, alike⟩ :=
    (alike "parent" (.elementPath place) rfl).nonNull?.missing_or_present
  · rw [left, right]
  · have same : ofJson? place first = ofJson? place second := alike.2
    simp only [left, right, same]

/-- An attribute is decoded from the slots of its path and its name. -/
theorem AttributePath.ofJson?_congr {place : Place} {left right : Json}
    (alike : SlotsAlike (attributeSlots place) left right) :
    ofJson? place left = ofJson? place right := by
  have element : (left.field? "element" >>= ElementPath.ofJson? place) =
      (right.field? "element" >>= ElementPath.ofJson? place) :=
    (alike "element" (.elementPath place) rfl).bind
  unfold ofJson?
  rw [element, alike.stringField? rfl]

/-- No content has a field with the key of the tag. -/
theorem Schema.lookup_type_contentSlots (schema : Schema) (tag : Option String) :
    (schema.contentSlots tag).lookup "type" = none := by
  unfold contentSlots
  split <;> rfl

/-- A reader that goes by the tag reads documents alike if it does so for each tag. -/
theorem SlotsAlike.bind_tag {schema : Schema} {left right : Json}
    (alike : SlotsAlike (schema.slots left.tag?) left right) (tagged : schema.isTagged = true)
    {α : Type} {read : String → Json → Option α}
    (content : ∀ tag, SlotsAlike (schema.contentSlots (some tag)) left right →
      read tag left = read tag right) :
    (left.stringField? "type" >>= fun tag => read tag left) =
      (right.stringField? "type" >>= fun tag => read tag right) := by
  -- The tag is itself a known field, so both documents take the same branch.
  unfold slots at alike
  rw [if_pos tagged] at alike
  have same : left.stringField? "type" = right.stringField? "type" := alike.stringField? rfl
  have rest := alike.tail (schema.lookup_type_contentSlots _)
  rw [← same]
  unfold Json.tag? at rest
  cases tag : left.stringField? "type" with
  | none => rfl
  | some name =>
      rw [tag] at rest
      exact content name rest

/-- A value is decoded from the slots of its own constructor. -/
theorem Value.ofJson?_congr {left right : Json}
    (alike : SlotsAlike (Schema.value.slots left.tag?) left right) : ofJson? left = ofJson? right := by
  apply alike.bind_tag rfl
  intro tag content
  split
  · exact congrArg _ (content.stringField? rfl)
  · exact congrArg _ (ElementPath.ofJson?_congr content)
  · exact congrArg _ (AttributePath.ofJson?_congr content)
  · exact congrArg _ (PropertyRef.ofJson?_congr content)
  · exact congrArg _ (PropertyRef.ofJson?_congr content)
  · exact congrArg _ (PropertyRef.ofJson?_congr content)
  · exact congrArg _ (PropertyRef.ofJson?_congr content)
  · exact congrArg _ (PropertyRef.ofJson?_congr content)
  · exact congrArg _ (PropertyRef.ofJson?_congr content)
  · rfl

theorem Identifier.ofJson?_congr {left right : Json}
    (alike : SlotsAlike (Schema.identifier.slots left.tag?) left right) :
    ofJson? left = ofJson? right := by
  apply alike.bind_tag rfl
  intro tag content
  split
  · exact congrArg _ (ElementPath.ofJson?_congr content)
  · exact congrArg _ (AttributePath.ofJson?_congr content)
  · exact congrArg _ (PropertyRef.ofJson?_congr content)
  · exact congrArg _ (PropertyRef.ofJson?_congr content)
  · rfl

theorem Action.ofJson?_congr {left right : Json}
    (alike : SlotsAlike (Schema.action.slots left.tag?) left right) :
    ofJson? left = ofJson? right := by
  apply alike.bind_tag rfl
  intro tag content
  have value {key : String} (known : (Schema.action.contentSlots (some tag)).lookup key = some .value) :
      (left.field? key >>= Value.ofJson?) = (right.field? key >>= Value.ofJson?) :=
    (content key .value known).bind
  have identifier {key : String}
      (known : (Schema.action.contentSlots (some tag)).lookup key = some .identifier) :
      (left.field? key >>= Identifier.ofJson?) = (right.field? key >>= Identifier.ofJson?) :=
    (content key .identifier known).bind
  split
  · rw [value rfl]
  · have kind : (left.field? "kind" >>= Navigation.ofJson? .tagged) =
        (right.field? "kind" >>= Navigation.ofJson? .tagged) :=
      content.named? rfl Navigation.all Navigation.name
    rw [kind]
  · have kind : (left.field? "kind" >>= Interaction.ofJson? .tagged) =
        (right.field? "kind" >>= Interaction.ofJson? .tagged) :=
      content.named? rfl Interaction.all Interaction.name
    rw [kind, identifier rfl]
  · rw [identifier rfl, value rfl]
  · rw [content.stringField? rfl]
  · rfl

theorem Assertion.ofJson?_congr {left right : Json}
    (alike : SlotsAlike (Schema.assertion.slots left.tag?) left right) :
    ofJson? left = ofJson? right := by
  apply alike.bind_tag rfl
  intro tag content
  have value {key : String}
      (known : (Schema.assertion.contentSlots (some tag)).lookup key = some .value) :
      (left.field? key >>= Value.ofJson?) = (right.field? key >>= Value.ofJson?) :=
    (content key .value known).bind
  have comparison
      (known : (Schema.assertion.contentSlots (some tag)).lookup "comparison" =
        some (.word .tagged)) :
      (left.field? "comparison" >>= Comparison.ofJson? .tagged) =
        (right.field? "comparison" >>= Comparison.ofJson? .tagged) :=
    content.named? known Comparison.all Comparison.name
  split
  · rw [value rfl, comparison rfl]
  · rw [value rfl, comparison rfl, value rfl]
  · rfl

/-- A list that is known to the schema is decoded item by item. -/
theorem Step.listOfJson?_congr {slots : List (String × Schema)} {left right : Json}
    (alike : SlotsAlike slots left right) {key : String} (item : Schema)
    (known : slots.lookup key = some (.list item)) :
    listOfJson? left key item.ofJson? = listOfJson? right key item.ofJson? := by
  unfold listOfJson?
  obtain ⟨left, right⟩ | ⟨first, second, left, right, alike⟩ := (alike key _ known).missing_or_present
  · rw [left, right]
  · have same : (first.items? >>= List.mapM item.ofJson?) = (second.items? >>= List.mapM item.ofJson?) :=
      alike.2
    simp only [left, right, same]

/-- A step is decoded from its two lists and from nothing else. -/
theorem Step.ofJson?_congr {fields others : List (String × Json)}
    (alike : SlotsAlike (Schema.step.slots none) (.obj fields) (.obj others)) :
    ofJson? (.obj fields) = ofJson? (.obj others) := by
  have actions : listOfJson? (.obj fields) "actions" Action.ofJson? =
      listOfJson? (.obj others) "actions" Action.ofJson? := listOfJson?_congr alike .action rfl
  have assertions : listOfJson? (.obj fields) "assertions" Assertion.ofJson? =
      listOfJson? (.obj others) "assertions" Assertion.ofJson? :=
    listOfJson?_congr alike .assertion rfl
  simp only [ofJson?, actions, assertions]

namespace Schema

/-- Whether objects of this schema may have fields that nobody knows. An object that stands for the name
    of an alternative, or for its missing content, may not. -/
def isOpen : Schema → Bool
  | word _ | void _ => false
  | _ => true

/-- Objects are read alike if the fields that the reader knows are. -/
theorem ofJson?_obj_congr {schema : Schema} (isOpen : schema.isOpen = true)
    {fields others : List (String × Json)}
    (alike : SlotsAlike (schema.slots (Json.obj fields).tag?) (.obj fields) (.obj others)) :
    schema.ofJson? (.obj fields) = schema.ofJson? (.obj others) := by
  cases schema with
  | foreign | text | position | list item => rfl
  | word place | void place => cases isOpen
  | elementPath place => exact ElementPath.ofJson?_congr alike
  | attributePath place => exact AttributePath.ofJson?_congr alike
  | value => exact Value.ofJson?_congr alike
  | identifier => exact Identifier.ofJson?_congr alike
  | action => exact Action.ofJson?_congr alike
  | assertion => exact Assertion.ofJson?_congr alike
  | step => exact Step.ofJson?_congr alike

/-- An array is read as nothing but a list. -/
theorem ofJson?_arr_congr {schema : Schema} (noList : ∀ item, schema ≠ .list item)
    (items others : List Json) : schema.ofJson? (.arr items) = schema.ofJson? (.arr others) := by
  have nothing (slots : List (String × Schema)) : SlotsAlike slots (.arr items) (.arr others) :=
    fun _ _ _ => .missing
  cases schema with
  | foreign | text | position | word place | step => rfl
  | void place => cases place <;> rfl
  | elementPath place => exact ElementPath.ofJson?_congr (nothing _)
  | attributePath place => exact AttributePath.ofJson?_congr (nothing _)
  | value => exact Value.ofJson?_congr (nothing _)
  | identifier => exact Identifier.ofJson?_congr (nothing _)
  | action => exact Action.ofJson?_congr (nothing _)
  | assertion => exact Assertion.ofJson?_congr (nothing _)
  | list item => exact absurd rfl (noList item)

end Schema

end StepWeaver
