/-
Module: StepWeaver.Proofs.Documents
Layer: Proofs
Purpose: Documents say what they say in whatever order their fields stand and whatever else they hold.
  Reordering the fields of an object, at any depth, changes nothing for any reader; neither does a field
  that the reader does not know. What is written is read back, so writing a node that has been read
  gives a document of the same content.
Main exports: Json.Reordered, Schema.Extended, Schema.SameContent, Schema.ofJson?_toJson,
  Schema.read_of_sameContent, Action.unread_name_beside_field
-/
import Mathlib.Logic.Relation
import StepWeaver.Proofs.Schema

namespace StepWeaver

/-!
### Changes to a document
-/

/-- One object somewhere in a document lists its fields in another order. No two of them have the same
    key. -/
inductive Json.Reordered : Json → Json → Prop
  | fields {fields others : List (String × Json)} (distinct : (fields.map Prod.fst).Nodup)
      (perm : fields.Perm others) : Reordered (.obj fields) (.obj others)
  | field (before after : List (String × Json)) (key : String) {value other : Json}
      (inner : Reordered value other) :
      Reordered (.obj (before ++ (key, value) :: after)) (.obj (before ++ (key, other) :: after))
  | item (before after : List Json) {item other : Json} (inner : Reordered item other) :
      Reordered (.arr (before ++ item :: after)) (.arr (before ++ other :: after))

namespace Schema

/-- What a field of an object is read as. -/
def fieldSchema (schema : Schema) (tag : Option String) (key : String) : Schema :=
  match schema with
  | word place => void place
  | schema => ((schema.slots tag).lookup key).getD foreign

/-- What an item of an array is read as. -/
def itemSchema : Schema → Schema
  | list item => item
  | _ => foreign

/-- Whether a field of this key would matter to a reader. -/
def knows (schema : Schema) (tag : Option String) (key : String) : Bool :=
  !schema.isOpen || ((schema.slots tag).lookup key).isSome

/-- One object somewhere in a document gets a field that its reader does not know. An object that stands
    where a name has no content gets one only if it holds something already. -/
inductive Extended : Schema → Json → Json → Prop
  | insert {schema : Schema} (before after : List (String × Json)) {key : String} (value : Json)
      (unknown : schema.knows (Json.obj (before ++ after)).tag? key = false) :
      Extended schema (.obj (before ++ after)) (.obj (before ++ (key, value) :: after))
  | beneath {place : Place} (before after : List (String × Json)) (key : String) (value : Json)
      (nonempty : before ++ after ≠ []) :
      Extended (void place) (.obj (before ++ after)) (.obj (before ++ (key, value) :: after))
  | field {schema : Schema} (before after : List (String × Json)) (key : String) {value other : Json}
      (inner : Extended (schema.fieldSchema (Json.obj (before ++ (key, value) :: after)).tag? key)
        value other) :
      Extended schema (.obj (before ++ (key, value) :: after)) (.obj (before ++ (key, other) :: after))
  | item {schema : Schema} (before after : List Json) {item other : Json}
      (inner : Extended schema.itemSchema item other) :
      Extended schema (.arr (before ++ item :: after)) (.arr (before ++ other :: after))

/-- Two documents differ at most in the order of fields and in fields that nobody knows, at any
    depth. -/
def SameContent (schema : Schema) : Json → Json → Prop :=
  Relation.EqvGen fun left right => left.Reordered right ∨ schema.Extended left right

end Schema

/-!
### What the changes do to the fields
-/

namespace Json

/-- A field hides those of the same key after it. -/
theorem lookup_cons_eq_ite (key : String) (value : Json) (fields : List (String × Json))
    (asked : String) :
    ((key, value) :: fields).lookup asked = if asked = key then some value else fields.lookup asked := by
  rw [List.lookup_cons]
  by_cases same : asked = key
  · rw [if_pos same, beq_iff_eq.mpr same]
  · rw [if_neg same, beq_false_of_ne same]

/-- A key is looked up in the front part of an object first. -/
theorem field?_obj_append (before after : List (String × Json)) (asked : String) :
    (obj (before ++ after)).field? asked = (before.lookup asked).or (after.lookup asked) :=
  List.lookup_append

/-- An object with a field is not free of content. -/
theorem isVoid_of_ne_nil {fields : List (String × Json)} (nonempty : fields ≠ []) (place : Place) :
    (obj fields).isVoid place = false := by
  match fields with
  | [] => exact absurd rfl nonempty
  | _ :: _ => cases place <;> rfl

/-- Reordering distinct fields keeps what is found under each key. -/
theorem lookup_of_perm {fields others : List (String × Json)} (perm : fields.Perm others)
    (distinct : (fields.map Prod.fst).Nodup) (asked : String) :
    fields.lookup asked = others.lookup asked := by
  induction perm with
  | nil => rfl
  | cons field _ ih =>
      rw [List.map_cons, List.nodup_cons] at distinct
      rw [lookup_cons_eq_ite, lookup_cons_eq_ite, ih distinct.2]
  | swap first second rest =>
      simp only [List.map_cons, List.nodup_cons, List.mem_cons, not_or] at distinct
      have different : second.1 ≠ first.1 := distinct.1.1
      rw [lookup_cons_eq_ite, lookup_cons_eq_ite, lookup_cons_eq_ite, lookup_cons_eq_ite]
      split
      · next one =>
        have other : asked ≠ first.1 := one ▸ different
        rw [if_neg other]
      · rfl
  | trans first _ ihFirst ihSecond =>
      rw [ihFirst distinct]
      exact ihSecond ((first.map Prod.fst).nodup_iff.mp distinct)

end Json

namespace Schema

variable {schema : Schema}

/-!
### One field or item is read alike
-/

/-- In an open object a field is read as its slot says, and not at all if it has none. -/
theorem fieldSchema_of_isOpen (isOpen : schema.isOpen = true) (tag : Option String) (key : String) :
    schema.fieldSchema tag key = ((schema.slots tag).lookup key).getD foreign := by
  unfold fieldSchema
  split
  · cases isOpen
  · rfl

/-- Documents that are read alike as no content both are none, or neither is. -/
theorem ReadsAlike.isVoid {place : Place} {left right : Json}
    (alike : (void place).ReadsAlike left right) : left.isVoid place = right.isVoid place := by
  have same : (if left.isVoid place then some () else none) =
      if right.isVoid place then some () else none := alike.2
  cases first : left.isVoid place <;> cases second : right.isVoid place <;> simp_all

/-- An object that stands for a name has no other field than the one that holds no content. -/
theorem name?_obj_congr (before after : List (String × Json)) (key : String) {place : Place}
    {value other : Json} (voids : value.isVoid place = other.isVoid place) :
    (Json.obj (before ++ (key, value) :: after)).name? place =
      (Json.obj (before ++ (key, other) :: after)).name? place := by
  match before, after with
  | [], [] => simp only [List.nil_append, Json.name?, voids]
  | [], _ :: _ => rfl
  | [_], _ => rfl
  | _ :: _ :: _, _ => rfl

/-- An object whose fields are read alike but for one, which is read alike by its own schema. -/
theorem readsAlike_field (before after : List (String × Json)) (key : String) {value other : Json}
    (alike : (schema.fieldSchema (Json.obj (before ++ (key, value) :: after)).tag? key).ReadsAlike
      value other) :
    schema.ReadsAlike (.obj (before ++ (key, value) :: after))
      (.obj (before ++ (key, other) :: after)) := by
  constructor
  · simp
  · by_cases isOpen : schema.isOpen = true
    · rw [fieldSchema_of_isOpen isOpen] at alike
      apply ofJson?_obj_congr isOpen
      intro asked inner known
      rw [Json.field?_obj_append, Json.field?_obj_append, Json.lookup_cons_eq_ite,
        Json.lookup_cons_eq_ite]
      -- A field of the same key further up hides the one that differs.
      cases before.lookup asked with
      | some found => exact .refl inner _
      | none =>
          split
          · next same =>
            rw [same] at known
            rw [known] at alike
            exact .present alike
          · exact .refl inner _
    · cases schema with
      | word place => exact name?_obj_congr before after key alike.isVoid
      | void place =>
          have nonempty (json : Json) : before ++ (key, json) :: after ≠ [] := by simp
          simp only [ofJson?, Json.isVoid_of_ne_nil (nonempty _)]
      | _ => exact absurd rfl isOpen

/-- An array whose items are equal but for one, which is read alike by the schema of items. -/
theorem readsAlike_item (before after : List Json) {item other : Json}
    (alike : schema.itemSchema.ReadsAlike item other) :
    schema.ReadsAlike (.arr (before ++ item :: after)) (.arr (before ++ other :: after)) := by
  constructor
  · simp
  · cases schema with
    | list inner =>
        have same : inner.ofJson? item = inner.ofJson? other := alike.2
        show List.mapM inner.ofJson? _ = List.mapM inner.ofJson? _
        rw [List.mapM_append, List.mapM_append, List.mapM_cons, List.mapM_cons, same]
    | _ =>
        apply ofJson?_arr_congr
        intro inner isList
        cases isList

end Schema

/-!
### Changed documents are read alike
-/

namespace Json

/-- Only an object with two fields or more can be reordered. -/
theorem eq_or_two_of_perm {fields others : List (String × Json)} (perm : fields.Perm others) :
    fields = others ∨ 2 ≤ fields.length ∧ 2 ≤ others.length := by
  have lengths := perm.length_eq
  match fields with
  | [] => exact .inl perm.nil_eq
  | [field] => exact .inl (List.perm_singleton.mp perm.symm).symm
  | _ :: _ :: _ =>
      rw [← lengths]
      exact .inr (by simp)

end Json

/-- An object with two fields stands neither for a name nor for missing content. -/
theorem Schema.ofJson?_of_two {schema : Schema} (closed : ¬ schema.isOpen = true)
    {fields : List (String × Json)} (two : 2 ≤ fields.length) :
    schema.ofJson? (.obj fields) = none := by
  match fields with
  | [] | [_] => simp at two
  | _ :: _ :: _ =>
      cases schema with
      | word place => rfl
      | void place => cases place <;> rfl
      | _ => exact absurd rfl closed

/-- The order of fields matters to no reader. -/
theorem Json.Reordered.readsAlike {left right : Json} (reordered : left.Reordered right)
    (schema : Schema) : schema.ReadsAlike left right := by
  induction reordered generalizing schema with
  | @fields fields others distinct perm =>
      constructor
      · simp
      · by_cases isOpen : schema.isOpen = true
        · apply Schema.ofJson?_obj_congr isOpen
          intro key inner known
          have same : (obj fields).field? key = (obj others).field? key :=
            lookup_of_perm perm distinct key
          rw [same]
          exact .refl inner _
        · -- The one field of a name has only one order, and with two fields there is no name.
          rcases eq_or_two_of_perm perm with rfl | ⟨two, others⟩
          · rfl
          · exact (Schema.ofJson?_of_two isOpen two).trans (Schema.ofJson?_of_two isOpen others).symm
  | field before after key _ ih => exact Schema.readsAlike_field before after key (ih _)
  | item before after _ ih => exact Schema.readsAlike_item before after (ih _)

/-- A field that a reader does not know does not matter to it. -/
theorem Schema.Extended.readsAlike {schema : Schema} {left right : Json}
    (extended : schema.Extended left right) : schema.ReadsAlike left right := by
  induction extended with
  | @insert schema before after key value unknown =>
      simp only [knows, Bool.or_eq_false_iff, Bool.not_eq_false', Option.isSome_eq_false_iff,
        Option.isNone_iff_eq_none] at unknown
      obtain ⟨isOpen, unknown⟩ := unknown
      constructor
      · simp
      · apply ofJson?_obj_congr isOpen
        intro asked inner known
        have different : asked ≠ key := by
          rintro rfl
          rw [unknown] at known
          cases known
        rw [Json.field?_obj_append, Json.field?_obj_append, Json.lookup_cons_eq_ite, if_neg different]
        exact .refl inner _
  | beneath before after key value nonempty =>
      have longer : before ++ (key, value) :: after ≠ [] := by simp
      constructor
      · simp
      · simp only [ofJson?, Json.isVoid_of_ne_nil nonempty, Json.isVoid_of_ne_nil longer]
  | field before after key _ ih => exact readsAlike_field before after key ih
  | item before after _ ih => exact readsAlike_item before after ih

/-- Documents of the same content are read alike. -/
theorem Schema.SameContent.ofJson?_eq {schema : Schema} {left right : Json}
    (same : schema.SameContent left right) : schema.ofJson? left = schema.ofJson? right := by
  induction same with
  | rel left right change =>
      rcases change with reordered | extended
      · exact (reordered.readsAlike schema).2
      · exact extended.readsAlike.2
  | refl => rfl
  | symm _ _ _ ih => exact ih.symm
  | trans _ _ _ _ _ ihFirst ihSecond => exact ihFirst.trans ihSecond

/-!
### What is written is read back
-/

/-- A position is written as an integer in the range of positions. -/
theorem Json.int32?_toInt (position : Int32) : (Json.int position.toInt).int32? = some position := by
  have inRange : Int32.minValue.toInt ≤ position.toInt ∧ position.toInt ≤ Int32.maxValue.toInt :=
    ⟨position.minValue_le_toInt, position.toInt_le⟩
  rw [int32?, if_pos inRange, Int32.ofInt_toInt]

theorem LocatorKind.ofJson?_toJson (place : Place) (kind : LocatorKind) :
    ofJson? place kind.toJson = some kind := by
  cases kind <;> rfl

theorem Navigation.ofJson?_toJson (place : Place) (kind : Navigation) :
    ofJson? place kind.toJson = some kind := by
  cases kind <;> rfl

theorem Interaction.ofJson?_toJson (place : Place) (kind : Interaction) :
    ofJson? place kind.toJson = some kind := by
  cases kind <;> rfl

theorem Comparison.ofJson?_toJson (place : Place) (comparison : Comparison) :
    ofJson? place comparison.toJson = some comparison := by
  cases comparison <;> rfl

/-- A locator is read from its fields, whatever comes after them, unless that is a name. -/
theorem Locator.ofJson?_fields (place : Place) (locator : Locator) (rest : List (String × Json))
    (unnamed : rest.lookup "name" = none) :
    ofJson? place (.obj (locator.fields ++ rest)) = some locator := by
  obtain ⟨text, kind, position, name⟩ := locator
  have kindRead := LocatorKind.ofJson?_toJson place kind
  have positionRead := Json.int32?_toInt position
  cases name <;>
    simp [ofJson?, fields, Json.stringField?, Json.optionalString?, Json.optionalField,
      List.lookup_cons, kindRead, positionRead, unnamed]

/-- The fields of a locator do not say what it is looked for in. -/
theorem Locator.lookup_fields_parent (locator : Locator) : locator.fields.lookup "parent" = none := by
  obtain ⟨text, kind, position, name⟩ := locator
  cases name <;> rfl

/-- A path is read back from the inside out, one locator for each level. -/
theorem ElementPath.ofJson?_lineage (place : Place) (own : Locator) (ancestors : List Locator) :
    ofJson? place (.obj (lineageFields own ancestors)) = some ⟨own, ancestors⟩ := by
  induction ancestors generalizing own with
  | nil =>
      have read := own.ofJson?_fields place [] rfl
      rw [List.append_nil] at read
      rw [ofJson?_eq, lineageFields, read]
      simp [own.lookup_fields_parent]
  | cons parent ancestors ih =>
      have read := own.ofJson?_fields place [("parent", .obj (lineageFields parent ancestors))] rfl
      rw [ofJson?_eq, lineageFields, read]
      simp [List.lookup_append, own.lookup_fields_parent, Json.nonNull?, ih, within]

theorem ElementPath.ofJson?_toJson (place : Place) (path : ElementPath) :
    ofJson? place path.toJson = some path :=
  ofJson?_lineage place path.own path.ancestors

theorem AttributePath.ofJson?_toJson (place : Place) (path : AttributePath) :
    ofJson? place path.toJson = some path := by
  simp [ofJson?, toJson, fields, Json.stringField?, List.lookup_cons, ElementPath.ofJson?_toJson]

theorem PropertyRef.ofJson?_toJson (ref : PropertyRef) : ofJson? ref.toJson = some ref := by
  simp [ofJson?, toJson, fields, Json.stringField?, List.lookup_cons]

/-- The tag does not matter to the reader of a content. -/
theorem slotsAlike_tagged {slots : List (String × Schema)} (untagged : slots.lookup "type" = none)
    (tag : String) (fields : List (String × Json)) :
    SlotsAlike slots (Json.tagged tag fields) (.obj fields) := by
  intro key inner known
  have different : key ≠ "type" := by
    rintro rfl
    rw [untagged] at known
    cases known
  have same : (Json.tagged tag fields).field? key = (Json.obj fields).field? key := by
    rw [Json.tagged, Json.field?_obj, Json.field?_obj, Json.lookup_cons_eq_ite, if_neg different]
  rw [same]
  exact .refl inner _

theorem ElementPath.ofJson?_tagged (place : Place) (tag : String) (path : ElementPath) :
    ofJson? place (Json.tagged tag path.fields) = some path :=
  (ofJson?_congr (slotsAlike_tagged rfl tag path.fields)).trans (path.ofJson?_toJson place)

theorem AttributePath.ofJson?_tagged (place : Place) (tag : String) (path : AttributePath) :
    ofJson? place (Json.tagged tag path.fields) = some path :=
  (ofJson?_congr (slotsAlike_tagged rfl tag path.fields)).trans (path.ofJson?_toJson place)

theorem PropertyRef.ofJson?_tagged (tag : String) (ref : PropertyRef) :
    ofJson? (Json.tagged tag ref.fields) = some ref :=
  (ofJson?_congr (slotsAlike_tagged rfl tag ref.fields)).trans ref.ofJson?_toJson

/-- A value is read back by its tag, and the content does not mind the tag beside it. -/
theorem Value.ofJson?_toJson (value : Value) : ofJson? value.toJson = some value := by
  cases value with
  | literal text => rfl
  | element path =>
      exact congrArg (Option.map element) (path.ofJson?_tagged .tagged "element_reference")
  | elementAttribute path =>
      exact congrArg (Option.map elementAttribute) (path.ofJson?_tagged .tagged "attribute_reference")
  | environment ref =>
      exact congrArg (Option.map environment) (ref.ofJson?_tagged "environment_parameter")
  | browser ref => exact congrArg (Option.map browser) (ref.ofJson?_tagged "browser_property")
  | page ref => exact congrArg (Option.map page) (ref.ofJson?_tagged "page_property")
  | dataParameter ref =>
      exact congrArg (Option.map dataParameter) (ref.ofJson?_tagged "data_parameter")
  | elementParameter ref =>
      exact congrArg (Option.map elementParameter) (ref.ofJson?_tagged "element_parameter")
  | pageElement ref =>
      exact congrArg (Option.map pageElement) (ref.ofJson?_tagged "page_element_reference")

/-- So is an identifier. -/
theorem Identifier.ofJson?_toJson (identifier : Identifier) :
    ofJson? identifier.toJson = some identifier := by
  cases identifier with
  | element path => exact congrArg (Option.map element) (path.ofJson?_tagged .tagged "element")
  | elementAttribute path =>
      exact congrArg (Option.map elementAttribute) (path.ofJson?_tagged .tagged "attribute")
  | pageElement ref =>
      exact congrArg (Option.map pageElement) (ref.ofJson?_tagged "page_element_reference")
  | elementParameter ref =>
      exact congrArg (Option.map elementParameter) (ref.ofJson?_tagged "element_parameter")

theorem Action.ofJson?_toJson (action : Action) : ofJson? action.toJson = some action := by
  cases action <;>
    simp [ofJson?, toJson, Json.tagged, Json.stringField?, List.lookup_cons,
      Value.ofJson?_toJson, Identifier.ofJson?_toJson, Navigation.ofJson?_toJson,
      Interaction.ofJson?_toJson]

theorem Assertion.ofJson?_toJson (assertion : Assertion) :
    ofJson? assertion.toJson = some assertion := by
  cases assertion <;>
    simp [ofJson?, toJson, Json.tagged, Json.stringField?, List.lookup_cons,
      Value.ofJson?_toJson, Comparison.ofJson?_toJson]

/-- A list is read back if its members are. -/
theorem mapM_map_of_leftInverse {α : Type} {read : Json → Option α} {write : α → Json}
    (back : ∀ a, read (write a) = some a) (nodes : List α) :
    (nodes.map write).mapM read = some nodes := by
  induction nodes with
  | nil => rfl
  | cons node nodes ih => simp [List.mapM_cons, back, ih]

theorem Step.ofJson?_toJson (step : Step) : ofJson? step.toJson = some step := by
  have actions := mapM_map_of_leftInverse Action.ofJson?_toJson step.actions
  have assertions := mapM_map_of_leftInverse Assertion.ofJson?_toJson step.assertions
  simp [ofJson?, toJson, listOfJson?, List.lookup_cons, actions, assertions]

namespace Schema

/-- What is written is read back. -/
theorem ofJson?_toJson (schema : Schema) (node : schema.Node) :
    schema.ofJson? (schema.toJson node) = some node := by
  induction schema with
  | foreign => cases node
  | text | word place => rfl
  | position => exact Json.int32?_toInt node
  | void place => cases place <;> rfl
  | elementPath place => exact ElementPath.ofJson?_toJson place node
  | attributePath place => exact AttributePath.ofJson?_toJson place node
  | value => exact Value.ofJson?_toJson node
  | identifier => exact Identifier.ofJson?_toJson node
  | action => exact Action.ofJson?_toJson node
  | assertion => exact Assertion.ofJson?_toJson node
  | step => exact Step.ofJson?_toJson node
  | list item ih => exact mapM_map_of_leftInverse ih node

/-- What is written is read back. Reading does not depend on the order of the fields of any object, nor
    on fields that are unknown in the object they stand in; only an object that stands for a name, and
    the empty one for the content that it does not have, take no unknown field. So what has been read can
    be written and read again. -/
theorem read_of_sameContent (schema : Schema) :
    (∀ node, schema.ofJson? (schema.toJson node) = some node) ∧
    (∀ left right, schema.SameContent left right → schema.ofJson? left = schema.ofJson? right) ∧
    ∀ json node, schema.ofJson? json = some node →
      schema.ofJson? (schema.toJson node) = schema.ofJson? json := by
  refine ⟨schema.ofJson?_toJson, fun left right same => same.ofJson?_eq, ?_⟩
  intro json node read
  rw [read, schema.ofJson?_toJson]

-- The identifier gets a field that only inputs know, and then the action puts its tag second.
theorem read_of_sameContent_click :
    let path : ElementPath := ⟨.ofText ".a", [.ofText "//b"]⟩
    let node : Action := .interact .click (.element path)
    let noted := ("type", .str "element") :: ("value", .null) :: path.fields
    let moved : Json :=
      .obj [("kind", .str "click"), ("type", .str "interaction"), ("identifier", .obj noted)]
    action.SameContent node.toJson moved ∧ Action.ofJson? node.toJson = some node ∧
      Action.ofJson? moved = some node := by
  intro path node noted moved
  have extended : action.Extended node.toJson
      (.obj [("type", .str "interaction"), ("kind", .str "click"), ("identifier", .obj noted)]) :=
    .field [("type", .str "interaction"), ("kind", .str "click")] [] "identifier"
      (.insert [("type", .str "element")] path.fields .null rfl)
  have reordered : Json.Reordered
      (.obj [("type", .str "interaction"), ("kind", .str "click"), ("identifier", .obj noted)]) moved :=
    .fields (by decide) (List.Perm.swap _ _ _)
  have same : action.SameContent node.toJson moved :=
    .trans _ _ _ (.rel _ _ (.inr extended)) (.rel _ _ (.inl reordered))
  obtain ⟨back, alike, _⟩ := read_of_sameContent action
  exact ⟨same, back node, (alike _ _ same).symm.trans (back node)⟩

end Schema

/-- A name that is written as an object is not read if the object has another field. -/
theorem Action.unread_name_beside_field :
    let action (kind : List (String × Json)) : Json := Json.tagged "no_arguments" [("kind", .obj kind)]
    ofJson? (action [("reload", .null)]) = some (navigate .reload) ∧
      ofJson? (action [("reload", .null), ("extra", .int 1)]) = none := by
  exact ⟨rfl, rfl⟩

end StepWeaver
