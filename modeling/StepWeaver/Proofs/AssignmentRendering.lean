/-
Module: StepWeaver.Proofs.AssignmentRendering
Layer: Proofs
Purpose: An assignment is a composition. To store a value and to run some fragments first is to rewrite the
  last statement of the source and to put the fragments in front of it. The statements are those of a
  sequence that ends with the rewritten source. The demands are those of the sequence and the target,
  although they are listed in another order.
Main exports: Assignment.line, Assignment.build, Assignment.build_eq, Assignment.toFragment_eq_precededBy,
  Fragment.statements_mapFinal, Assignment.rendering_is_composition
-/
import StepWeaver.Proofs.Conservation

namespace StepWeaver

namespace Fragment

/-- Only the last statement changes. -/
theorem statements_mapFinal (fragment : Fragment) (change : String → String) :
    (fragment.mapFinal change).statements =
      fragment.statements.dropLast ++ (fragment.final?.map change).toList := by
  unfold mapFinal
  cases final : fragment.final? with
  | none =>
      have nothing : fragment.statements = [] := List.getLast?_eq_none_iff.mp final
      rw [nothing]
      rfl
  | some last => rfl

/-- A sequence that ends with a fragment asks for what the fragment asks for, and for what is asked for
    before it. -/
theorem mem_dependencies_concat_snoc {fragments : List Fragment} {last : Fragment} {name : String} :
    name ∈ (concat (fragments ++ [last])).dependencies ↔
      name ∈ last.dependencies ∨ ∃ fragment ∈ fragments, name ∈ fragment.dependencies := by
  have nothing : name ∉ (∅ : Linkage).dependencies := OrderedSet.not_mem_empty name
  rw [dependencies, linkage_concat, Linkage.mem_dependencies_merge, or_iff_right nothing]
  simp only [List.map_append, List.map_singleton, Linkage.exists_mem_append_iff,
    Linkage.exists_mem_singleton_iff, List.mem_map, exists_exists_and_eq_and]
  exact or_comm

/-- The last part of a sequence counts like any other. -/
theorem mem_exports_concat_snoc {fragments : List Fragment} {last : Fragment}
    {placeholder : Placeholder} :
    placeholder ∈ (concat (fragments ++ [last])).exports ↔
      placeholder ∈ last.exports ∨ ∃ fragment ∈ fragments, placeholder ∈ fragment.exports := by
  rw [mem_exports_concat]
  simp only [List.mem_append, List.mem_singleton, or_and_right, exists_or, exists_eq_left]
  exact or_comm

end Fragment

namespace Assignment

/-- The line that stores a value in a placeholder. -/
def line (target : Placeholder) (value : String) : String := target.token ++ " = " ++ value

/-- The assignment of a fragment's value, with predecessors added batch after batch. -/
def build (target : Placeholder) (source : Fragment) (batches : List (List Fragment)) : Assignment :=
  batches.foldl precededBy (ofFragment target source)

/-- Batches of predecessors may be added one after the other or at once. -/
theorem foldl_precededBy (assignment : Assignment) (batches : List (List Fragment)) :
    batches.foldl precededBy assignment = assignment.precededBy batches.flatten := by
  induction batches generalizing assignment with
  | nil => simp [precededBy]
  | cons batch batches ih =>
      rw [List.foldl_cons, ih, List.flatten_cons, precededBy, precededBy, precededBy,
        List.append_assoc]

/-- It does not matter in which batches the predecessors come. -/
theorem build_eq (target : Placeholder) (source : Fragment) (batches : List (List Fragment)) :
    build target source batches = (ofFragment target source).precededBy batches.flatten :=
  foldl_precededBy _ batches

/-- Storing a source changes its final statement and nothing else. -/
theorem sourceStatements_eq (assignment : Assignment) :
    assignment.sourceStatements =
      (assignment.source.mapFinal (line assignment.target)).statements := by
  unfold sourceStatements Fragment.mapFinal
  cases final : assignment.source.final? with
  | none => exact (List.getLast?_eq_none_iff.mp final).symm
  | some value => rfl

/-- An assignment is its source with the last statement rewritten, after its predecessors. -/
theorem toFragment_eq_precededBy (assignment : Assignment) :
    assignment.toFragment =
      (assignment.source.mapFinal (line assignment.target)).precededBy assignment.predecessors := by
  rw [toFragment, statements, sourceStatements_eq, linkage, Fragment.precededBy,
    Fragment.linkage_mapFinal]

/-- An assignment depends on what its source and its predecessors depend on. -/
theorem mem_dependencies_toFragment {target : Placeholder} {source : Fragment}
    {predecessors : List Fragment} {name : String} :
    name ∈ ((ofFragment target source).precededBy predecessors).toFragment.dependencies ↔
      name ∈ source.dependencies ∨ ∃ fragment ∈ predecessors, name ∈ fragment.dependencies := by
  have asked : ((ofFragment target source).precededBy predecessors).toFragment.linkage =
      (source.addExports [target]).linkage.merge (predecessors.map Fragment.linkage) := rfl
  rw [Fragment.dependencies, asked, Linkage.mem_dependencies_merge]
  simp only [List.mem_map, exists_exists_and_eq_and]
  rfl

/-- The demands of an assignment are those of its predecessors and of its source, in this or any other
    order, and the target. -/
theorem linkage_equiv_sequence {source last : Fragment} (same : last.linkage = source.linkage)
    (target : Placeholder) (predecessors : List Fragment) :
    ((ofFragment target source).precededBy predecessors).toFragment.linkage.Equiv
      ((Fragment.concat (predecessors ++ [last])).linkage.addExports [target]) := by
  constructor
  · intro name
    have sequence : name ∈ (Fragment.concat (predecessors ++ [last])).dependencies ↔
        name ∈ source.dependencies ∨ ∃ fragment ∈ predecessors, name ∈ fragment.dependencies := by
      rw [Fragment.mem_dependencies_concat_snoc, Fragment.dependencies, same]
    exact mem_dependencies_toFragment.trans sequence.symm
  · intro placeholder
    have sequence : placeholder ∈ (Fragment.concat (predecessors ++ [last])).exports ↔
        placeholder ∈ source.exports ∨ ∃ fragment ∈ predecessors, placeholder ∈ fragment.exports := by
      rw [Fragment.mem_exports_concat_snoc, Fragment.exports, same]
    calc placeholder ∈ ((ofFragment target source).precededBy predecessors).toFragment.exports
        ↔ placeholder = target ∨ placeholder ∈ (Fragment.concat (predecessors ++ [last])).exports :=
          mem_exports_toFragment.trans (or_congr_right sequence.symm)
      _ ↔ placeholder ∈ (Fragment.concat (predecessors ++ [last])).exports.insertAll [target] := by
          rw [Pool.mem_insertAll, List.mem_singleton, or_comm]

/-!
### Assignments that are built step by step
-/

section Built

variable (target : Placeholder) (source : Fragment) (batches : List (List Fragment))

/-- An assignment is rendered as its source with the final statement changed, after all batches. -/
theorem toFragment_build :
    (build target source batches).toFragment =
      ((source.addExports [target]).mapFinal (line target)).precededBy batches.flatten := by
  rw [build_eq]
  exact toFragment_eq_precededBy _

/-- The setup of the source stands right before the line that stores its value. -/
theorem statements_build :
    (build target source batches).toFragment.statements =
      batches.flatten.flatMap Fragment.statements ++ source.statements.dropLast ++
        (source.final?.map (line target)).toList := by
  rw [toFragment_build, List.append_assoc]
  exact congrArg (batches.flatten.flatMap Fragment.statements ++ ·)
    ((source.addExports [target]).statements_mapFinal (line target))

/-- The statements of an assignment are those of the sequence of its parts. -/
theorem statements_sequence :
    (Fragment.concat (batches.flatten ++ [source.mapFinal (line target)])).statements =
      batches.flatten.flatMap Fragment.statements ++ source.statements.dropLast ++
        (source.final?.map (line target)).toList := by
  rw [Fragment.statements_concat, List.flatMap_append, List.flatMap_singleton,
    Fragment.statements_mapFinal, List.append_assoc]

end Built

/-- However its predecessors were added, an assignment is what composition makes of its parts: the source
    exposes the target, its last statement becomes the line that stores it, and the predecessors run first.
    The statements are those of a sequence, the setup of the source right before the line. The demands are
    those of the same sequence and the target. -/
theorem rendering_is_composition (target : Placeholder) (source : Fragment)
    (batches : List (List Fragment)) :
    let stored := (build target source batches).toFragment
    let sequence := Fragment.concat (batches.flatten ++ [source.mapFinal (line target)])
    stored = ((source.addExports [target]).mapFinal (line target)).precededBy batches.flatten ∧
      stored.statements = sequence.statements ∧
      stored.linkage.Equiv (sequence.linkage.addExports [target]) ∧
      stored.statements =
        batches.flatten.flatMap Fragment.statements ++ source.statements.dropLast ++
          (source.final?.map (line target)).toList := by
  have lines := statements_build target source batches
  have demands := linkage_equiv_sequence (source.linkage_mapFinal (line target)) target batches.flatten
  rw [← build_eq] at demands
  exact ⟨toFragment_build target source batches,
    lines.trans (statements_sequence target source batches).symm, demands, lines⟩

end Assignment

end StepWeaver
