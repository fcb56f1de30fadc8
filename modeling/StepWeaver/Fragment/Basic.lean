/-
Module: StepWeaver.Fragment.Basic
Layer: Fragments
Purpose: Fragments of generated source and the operations that compose them.
Main exports: Fragment, Fragment.concat, Fragment.precededBy, Fragment.wrap, Fragment.mapFinal,
  Fragment.dangling
-/
import StepWeaver.Fragment.Linkage
import StepWeaver.Placeholder.Scan

namespace StepWeaver

/-- Statements in the order in which they run, with what they ask of their surroundings. The last
    statement is the expression whose value the fragment stands for; those before it prepare it. -/
structure Fragment where
  /-- The statements, first to run first. -/
  statements : List String := []
  /-- What the statements ask of their surroundings. -/
  linkage : Linkage := ∅
deriving Inhabited

namespace Fragment

instance : EmptyCollection Fragment := ⟨{}⟩

/-- Statements that ask nothing of their surroundings. -/
def ofStatements (statements : List String) : Fragment := { statements }

/-- One statement that exposes some placeholders. -/
def ofStatement (statement : String) (exports : List Placeholder := []) : Fragment where
  statements := [statement]
  linkage := Linkage.ofExports exports

/-- The classes that the fragment depends on. -/
abbrev dependencies (fragment : Fragment) : OrderedSet String := fragment.linkage.dependencies

/-- The placeholders that the fragment exposes. -/
abbrev exports (fragment : Fragment) : Pool := fragment.linkage.exports

/-- The last statement. -/
def final? (fragment : Fragment) : Option String := fragment.statements.getLast?

/-- Whether there is no statement. -/
def isEmpty (fragment : Fragment) : Bool := fragment.statements.isEmpty

/-- The statements as one text, a line each. -/
def text (fragment : Fragment) : String := "\n".intercalate fragment.statements

/-!
### Composition
-/

/-- Adds statements at the end. -/
def addStatements (fragment : Fragment) (statements : List String) : Fragment :=
  { fragment with statements := fragment.statements ++ statements }

/-- Asks for something more. -/
def addLinkage (fragment : Fragment) (extra : Linkage) : Fragment :=
  { fragment with linkage := fragment.linkage.merge [extra] }

/-- Exposes further placeholders. -/
def addExports (fragment : Fragment) (placeholders : List Placeholder) : Fragment :=
  { fragment with linkage := fragment.linkage.addExports placeholders }

/-- Asks for all that other fragments ask for, without taking their statements. -/
def merge (fragment : Fragment) (others : List Fragment) : Fragment :=
  { fragment with linkage := fragment.linkage.merge (others.map linkage) }

/-- Puts the text of the whole fragment into a template, which gives the only statement left. -/
def wrap (fragment : Fragment) (template : String → String) (extra : Linkage := ∅) : Fragment where
  statements := [template fragment.text]
  linkage := fragment.linkage.merge [extra]

/-- Changes the last statement; a fragment without statements stays as it is. -/
def mapFinal (fragment : Fragment) (change : String → String) : Fragment :=
  match fragment.final? with
  | none => fragment
  | some last => { fragment with statements := fragment.statements.dropLast ++ [change last] }

/-- Runs other fragments first. Their demands are merged after those of the fragment itself. -/
def precededBy (fragment : Fragment) (predecessors : List Fragment) : Fragment where
  statements := predecessors.flatMap statements ++ fragment.statements
  linkage := fragment.linkage.merge (predecessors.map linkage)

/-- One fragment and then another. -/
def append (first second : Fragment) : Fragment :=
  (first.addStatements second.statements).addLinkage second.linkage

/-- Fragments one after the other. -/
def concat (fragments : List Fragment) : Fragment :=
  fragments.foldl append ∅

/-!
### Observation
-/

/-- The tokens that the statements hold and that no exposed placeholder accounts for, each once, in
    order of appearance. -/
def dangling (fragment : Fragment) : List String :=
  let exposed := fragment.exports.toList.map Placeholder.token
  ((fragment.statements.flatMap Placeholder.scan).filter (· ∉ exposed)).eraseDups

/-- The same statements with equivalent demands. -/
def Equiv (left right : Fragment) : Prop :=
  left.statements = right.statements ∧ left.linkage.Equiv right.linkage

instance (left right : Fragment) : Decidable (Equiv left right) :=
  inferInstanceAs (Decidable (_ ∧ _))

/-!
### What each operation does to the statements
-/

@[simp] theorem statements_append (first second : Fragment) :
    (first.append second).statements = first.statements ++ second.statements := rfl

/-- Fragments that are appended keep their order. -/
theorem statements_foldl_append (fragment : Fragment) (fragments : List Fragment) :
    (fragments.foldl append fragment).statements =
      fragment.statements ++ fragments.flatMap statements := by
  induction fragments generalizing fragment with
  | nil => simp
  | cons next fragments ih => simp [ih]

@[simp] theorem statements_concat (fragments : List Fragment) :
    (concat fragments).statements = fragments.flatMap statements :=
  statements_foldl_append ∅ fragments

@[simp] theorem statements_precededBy (fragment : Fragment) (predecessors : List Fragment) :
    (fragment.precededBy predecessors).statements =
      (concat predecessors).statements ++ fragment.statements := by
  rw [statements_concat]
  rfl

end Fragment

end StepWeaver
