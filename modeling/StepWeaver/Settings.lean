/-
Module: StepWeaver.Settings
Layer: Rules
Purpose: Which rules are switched on, and the few texts of the generated source that can be chosen.
Main exports: Settings, Settings.isEnabled, Settings.ofSkipList, Settings.ofJson?
-/
import StepWeaver.Json
import StepWeaver.Rejection
import StepWeaver.Rule.Name

namespace StepWeaver

/-- The rules that are switched on, and the texts that can be chosen. -/
structure Settings where
  /-- Which rules are switched on. -/
  enabled : RuleName → Bool := fun _ => true
  /-- The type to which a stored value is cast. -/
  valueCast : String := "string"
  /-- What stands for a parameter of the environment that is not there. -/
  absentDefault : String := "null"
  /-- The type to which the duration of a wait is cast. -/
  durationCast : String := "int"

namespace Settings

/-- All rules are switched on. -/
def standard : Settings := {}

instance : Inhabited Settings := ⟨standard⟩

instance : DecidableEq Settings := fun left right =>
  decidable_of_iff
    ((∀ rule ∈ RuleName.all, left.enabled rule = right.enabled rule) ∧
      left.valueCast = right.valueCast ∧ left.absentDefault = right.absentDefault ∧
      left.durationCast = right.durationCast)
    (by
      cases left
      cases right
      simp [RuleName.mem_all, funext_iff])

/-- Switches a rule off. -/
def disable (settings : Settings) (rule : RuleName) : Settings :=
  { settings with enabled := fun other => other ≠ rule && settings.enabled other }

/-- Whether the rule of a name is switched on. A name that no rule has is not. -/
def isEnabled (settings : Settings) (name : String) : Bool :=
  match name with
  | "literal-value" => settings.enabled .literalValue
  | "browser-property" => settings.enabled .browserProperty
  | "page-property" => settings.enabled .pageProperty
  | "environment-parameter" => settings.enabled .environmentParameter
  | "element-identifier" => settings.enabled .elementIdentifier
  | "attribute-identifier" => settings.enabled .attributeIdentifier
  | "wait" => settings.enabled .wait
  | "navigation" => settings.enabled .navigation
  | "click" => settings.enabled .click
  | "submit" => settings.enabled .submit
  | "wait-for" => settings.enabled .waitFor
  | "set" => settings.enabled .set
  | "exists-comparison" => settings.enabled .existsComparison
  | "value-comparison" => settings.enabled .valueComparison
  | _ => false

/-- Switches off the rules of some names, and fails at the first name that no rule has. -/
def ofSkipList (names : List String) : Except Rejection Settings :=
  names.foldlM
    (fun settings name =>
      match RuleName.ofName? name with
      | some rule => .ok (settings.disable rule)
      | none => .error (.unknownRule name))
    standard

/-!
### Documents

Settings are an object. What is missing has its default, null is no value, and unknown keys are
ignored.
-/

/-- Reads the switch for each of some rules; all others are on. -/
def switchesOfJson? (json : Json) (rules : List RuleName) : Option (RuleName → Bool) :=
  rules.foldlM
    (fun enabled rule =>
      match json.field? rule.settingKey with
      | none => some enabled
      | some value => value.bool?.map fun on other => if other = rule then on else enabled other)
    fun _ => true

/-- Reads a text that has a default. -/
def textOfJson? (json : Json) (key fallback : String) : Option String :=
  match json.field? key with
  | none => some fallback
  | some value => value.string?

/-- Reads settings. -/
def ofJson? (json : Json) : Option Settings := do
  match json with
  | .obj _ =>
    let enabled ← switchesOfJson? json RuleName.all
    let valueCast ← textOfJson? json "value-cast" standard.valueCast
    let absentDefault ← textOfJson? json "absent-default" standard.absentDefault
    let durationCast ← textOfJson? json "duration-cast" standard.durationCast
    return { enabled, valueCast, absentDefault, durationCast }
  | _ => none

end Settings

end StepWeaver
