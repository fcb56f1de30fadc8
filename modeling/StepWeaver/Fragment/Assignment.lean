/-
Module: StepWeaver.Fragment.Assignment
Layer: Fragments
Purpose: Assignments, which store the value of a fragment in a placeholder.
Main exports: Assignment, Assignment.ofFragment, Assignment.toFragment
-/
import StepWeaver.Fragment.Basic

namespace StepWeaver

/-- Stores the value of a fragment in a placeholder, after some other fragments have run. -/
structure Assignment where
  /-- Where the value goes. -/
  target : Placeholder
  /-- Whose value is stored; it exposes the target. -/
  source : Fragment
  /-- What runs first. -/
  predecessors : List Fragment
deriving Inhabited

namespace Assignment

/-- Stores the value of a fragment, which exposes the target from now on. -/
def ofFragment (target : Placeholder) (source : Fragment) : Assignment where
  target
  source := source.addExports [target]
  predecessors := []

/-- Runs further fragments first, after those that are there already. -/
def precededBy (assignment : Assignment) (predecessors : List Fragment) : Assignment :=
  { assignment with predecessors := assignment.predecessors ++ predecessors }

/-- The statements of the source, whose last one becomes the assignment line. A source without
    statements has no value to store, and no line. -/
def sourceStatements (assignment : Assignment) : List String :=
  match assignment.source.final? with
  | none => []
  | some value =>
    assignment.source.statements.dropLast ++ [assignment.target.token ++ " = " ++ value]

/-- All statements: those of the predecessors, then those of the source. -/
def statements (assignment : Assignment) : List String :=
  assignment.predecessors.flatMap Fragment.statements ++ assignment.sourceStatements

/-- What source and predecessors ask for, the source first. -/
def linkage (assignment : Assignment) : Linkage :=
  assignment.source.linkage.merge (assignment.predecessors.map Fragment.linkage)

/-- The assignment as a fragment. -/
def toFragment (assignment : Assignment) : Fragment where
  statements := assignment.statements
  linkage := assignment.linkage

/-- The statements as one text, a line each. -/
def text (assignment : Assignment) : String := assignment.toFragment.text

/-- The same target, and equivalent source and predecessors, place by place. -/
def Equiv (left right : Assignment) : Prop :=
  left.target = right.target ∧ left.source.Equiv right.source ∧
    left.predecessors.length = right.predecessors.length ∧
      ∀ pair ∈ left.predecessors.zip right.predecessors, pair.1.Equiv pair.2

instance (left right : Assignment) : Decidable (Equiv left right) :=
  inferInstanceAs (Decidable (_ ∧ _ ∧ _ ∧ _))

end Assignment

end StepWeaver
