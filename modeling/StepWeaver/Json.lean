/-
Module: StepWeaver.Json
Layer: Data
Purpose: JSON documents as data, and the lookups that decoders are made of.
Main exports: Json, Json.field?, Json.string?, Json.names?
-/
namespace StepWeaver

/-- A JSON document. An object keeps the order of its keys. -/
inductive Json where
  | null
  | bool (value : Bool)
  /-- A number written without fraction and exponent. -/
  | int (value : Int)
  /-- Any other number, as it is written. -/
  | decimal (written : String)
  | str (value : String)
  | arr (items : List Json)
  | obj (fields : List (String × Json))
deriving Repr, Inhabited

namespace Json

/-- The value under a key of an object. -/
def field? : Json → String → Option Json
  | obj fields, key => fields.lookup key
  | _, _ => none

/-- The text of a string. -/
def string? : Json → Option String
  | str value => some value
  | _ => none

/-- The truth value of a boolean. -/
def bool? : Json → Option Bool
  | bool value => some value
  | _ => none

/-- The items of an array. -/
def items? : Json → Option (List Json)
  | arr items => some items
  | _ => none

/-- The value of a number without fraction and exponent that fits into 32 bits with sign. -/
def int32? : Json → Option Int32
  | int value =>
    if Int32.minValue.toInt ≤ value ∧ value ≤ Int32.maxValue.toInt then
      some (Int32.ofInt value)
    else
      none
  | _ => none

/-- The text under a key that has to be there. -/
def stringField? (json : Json) (key : String) : Option String :=
  json.field? key >>= string?

/-- The text under a key that may be missing or null. Fails on a value that is neither text nor
    null. -/
def optionalString? (json : Json) (key : String) : Option (Option String) :=
  match json.field? key with
  | none | some null => some none
  | some value => value.string?.map some

/-- Fields that are written only if they have a value. -/
def optionalField (key : String) : Option Json → List (String × Json)
  | none => []
  | some value => [(key, value)]

/-!
### Lookups lead to smaller documents
-/

theorem sizeOf_lt_of_lookup {fields : List (String × Json)} {key : String} {value : Json}
    (h : fields.lookup key = some value) : sizeOf value < sizeOf fields := by
  induction fields with
  | nil => simp at h
  | cons field fields ih =>
    obtain ⟨name, other⟩ := field
    rw [List.lookup_cons] at h
    split at h
    · cases h
      simp only [List.cons.sizeOf_spec, Prod.mk.sizeOf_spec]
      omega
    · have := ih h
      simp only [List.cons.sizeOf_spec]
      omega

/-- A field is smaller than its document, so decoding goes down. -/
theorem sizeOf_lt_of_field? {json value : Json} {key : String}
    (h : json.field? key = some value) : sizeOf value < sizeOf json := by
  cases json with
  | obj fields =>
    have := sizeOf_lt_of_lookup h
    simp only [obj.sizeOf_spec]
    omega
  | _ => simp [field?] at h

end Json

end StepWeaver
