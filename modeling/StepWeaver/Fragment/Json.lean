/-
Module: StepWeaver.Fragment.Json
Layer: Fragments
Purpose: Writing placeholders, fragments and assignments as JSON documents.
Main exports: Placeholder.toJson, Pool.toJson, Linkage.toJson, Fragment.toJson, Assignment.toJson
-/
import StepWeaver.Fragment.Assignment
import StepWeaver.Json

namespace StepWeaver

/-- Writes a placeholder; a number is written only if there is one. -/
def Placeholder.toJson (placeholder : Placeholder) : Json :=
  .obj (("name", .str placeholder.name) ::
    Json.optionalField "disambiguator" (placeholder.number.map fun number => .int number.toNat))

/-- Writes the placeholders of a pool, earliest first. -/
def Pool.toJson (pool : Pool) : Json :=
  .arr (pool.toList.map Placeholder.toJson)

namespace Linkage

/-- Writes the names of classes, earliest first. -/
def dependenciesToJson (dependencies : OrderedSet String) : Json :=
  .arr (dependencies.toList.map .str)

/-- The fields of what some statements ask for. -/
def fields (linkage : Linkage) : List (String × Json) :=
  [("dependencies", dependenciesToJson linkage.dependencies), ("exports", linkage.exports.toJson)]

/-- Writes what some statements ask for. -/
def toJson (linkage : Linkage) : Json := .obj linkage.fields

end Linkage

namespace Fragment

/-- The fields of a fragment: those of what it asks for stand beside its statements. -/
def fields (fragment : Fragment) : List (String × Json) :=
  ("statements", .arr (fragment.statements.map .str)) :: fragment.linkage.fields

/-- Writes a fragment. -/
def toJson (fragment : Fragment) : Json := .obj fragment.fields

end Fragment

/-- Writes an assignment. -/
def Assignment.toJson (assignment : Assignment) : Json :=
  .obj [("target", assignment.target.toJson), ("wrapped", assignment.source.toJson),
    ("predecessors", .arr (assignment.predecessors.map Fragment.toJson))]

end StepWeaver
