/-
Module: StepWeaver.Fragment.Linkage
Layer: Fragments
Purpose: What a piece of generated source asks of its surroundings: the classes it depends on and
  the placeholders that its statements mention.
Main exports: Linkage, Linkage.merge, Linkage.addExports, Linkage.Equiv
-/
import StepWeaver.Placeholder.Pool

namespace StepWeaver

/-- The classes that some statements depend on, and the placeholders that they expose for someone
    else to fill. -/
structure Linkage where
  /-- Names of classes, in the order in which they were first needed. -/
  dependencies : OrderedSet String := ∅
  /-- The placeholders, in the order in which they were first exposed. -/
  exports : Pool := ∅
deriving Inhabited

namespace Linkage

instance : EmptyCollection Linkage := ⟨{}⟩

/-- Depends on some classes and exposes nothing. -/
def ofDependencies (names : List String) : Linkage :=
  { dependencies := OrderedSet.ofList names }

/-- Exposes some placeholders and depends on nothing. -/
def ofExports (placeholders : List Placeholder) : Linkage :=
  { exports := Pool.ofList placeholders }

/-- Exposes further placeholders. -/
def addExports (linkage : Linkage) (placeholders : List Placeholder) : Linkage :=
  { linkage with exports := linkage.exports.insertAll placeholders }

/-- The union with other linkages, first-seen order in both parts. -/
def merge (linkage : Linkage) (others : List Linkage) : Linkage where
  dependencies := linkage.dependencies.merge (others.map dependencies)
  exports := linkage.exports.merge (others.map exports)

/-- The same classes and the same placeholders, in whatever order. -/
def Equiv (left right : Linkage) : Prop :=
  left.dependencies.Equiv right.dependencies ∧ left.exports.Equiv right.exports

instance (left right : Linkage) : Decidable (Equiv left right) :=
  inferInstanceAs (Decidable (_ ∧ _))

end Linkage

end StepWeaver
