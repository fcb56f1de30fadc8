/-
Module: StepWeaver.Proofs.Composition
Layer: Proofs
Purpose: What composing fragments does to the classes they depend on and the placeholders they expose,
  and which statements an assignment consists of.
Main exports: Linkage.mem_dependencies_merge, Linkage.mem_exports_merge, Fragment.linkage_concat,
  Fragment.mem_exports_concat, Assignment.mem_exports_toFragment, Assignment.statements_toFragment,
  Assignment.symbols_line, Assignment.scan_line
-/
import StepWeaver.Fragment.Assignment
import StepWeaver.Proofs.Reading

namespace StepWeaver

open Placeholder (IsPlain plain scan scan_eq_tokens symbols isPlain_of_not_mem reads_token)

@[simp] theorem Linkage.not_mem_exports_empty (placeholder : Placeholder) :
    placeholder ∉ (∅ : Linkage).exports :=
  Pool.not_mem_empty placeholder

/-- Linkages may be merged one after the other. -/
theorem Linkage.merge_cons (linkage other : Linkage) (others : List Linkage) :
    linkage.merge (other :: others) = (linkage.merge [other]).merge others := rfl

theorem Linkage.mem_dependencies_merge {linkage : Linkage} {others : List Linkage} {name : String} :
    name ∈ (linkage.merge others).dependencies ↔
      name ∈ linkage.dependencies ∨ ∃ other ∈ others, name ∈ other.dependencies := by
  rw [Linkage.merge, OrderedSet.mem_merge]
  simp only [List.mem_map, exists_exists_and_eq_and]

theorem Linkage.mem_exports_merge {linkage : Linkage} {others : List Linkage}
    {placeholder : Placeholder} :
    placeholder ∈ (linkage.merge others).exports ↔
      placeholder ∈ linkage.exports ∨ ∃ other ∈ others, placeholder ∈ other.exports := by
  rw [Linkage.merge, ← Pool.mem_members, Pool.members_merge, OrderedSet.mem_merge, Pool.mem_members]
  simp only [List.mem_map, exists_exists_and_eq_and, Pool.mem_members]

theorem Linkage.mem_exports_ofExports {placeholders : List Placeholder} {placeholder : Placeholder} :
    placeholder ∈ (Linkage.ofExports placeholders).exports ↔ placeholder ∈ placeholders :=
  OrderedSet.mem_ofList

namespace Fragment

/-- Linkages are joined in the order of the fragments. -/
theorem linkage_foldl_append (fragment : Fragment) (fragments : List Fragment) :
    (fragments.foldl append fragment).linkage = fragment.linkage.merge (fragments.map linkage) := by
  induction fragments generalizing fragment with
  | nil => rfl
  | cons next fragments ih =>
      rw [List.foldl_cons, ih, List.map_cons, Linkage.merge_cons]
      rfl

/-- The linkage of a sequence is the union of those of its parts. -/
theorem linkage_concat (fragments : List Fragment) :
    (concat fragments).linkage = (∅ : Linkage).merge (fragments.map linkage) :=
  linkage_foldl_append ∅ fragments

theorem mem_exports_concat {fragments : List Fragment} {placeholder : Placeholder} :
    placeholder ∈ (concat fragments).exports ↔
      ∃ fragment ∈ fragments, placeholder ∈ fragment.exports := by
  rw [exports, linkage_concat, Linkage.mem_exports_merge]
  simp

end Fragment

namespace Assignment

/-- What runs first comes first, and the last statement of the source is the one that is stored. -/
theorem statements_toFragment {target : Placeholder} {source : Fragment} {setup : List String}
    {last : String} (predecessors : List Fragment) (split : source.statements = setup ++ [last]) :
    ((ofFragment target source).precededBy predecessors).toFragment.statements =
      predecessors.flatMap Fragment.statements ++ (setup ++ [target.token ++ " = " ++ last]) := by
  simp [ofFragment, precededBy, toFragment, statements, sourceStatements, Fragment.final?,
    Fragment.addExports, split]

/-- An assignment exports its target, and what its source and its predecessors export. -/
theorem mem_exports_toFragment {target : Placeholder} {source : Fragment}
    {predecessors : List Fragment} {placeholder : Placeholder} :
    placeholder ∈ ((ofFragment target source).precededBy predecessors).toFragment.exports ↔
      placeholder = target ∨ placeholder ∈ source.exports ∨
        ∃ fragment ∈ predecessors, placeholder ∈ fragment.exports := by
  simp only [ofFragment, precededBy, toFragment, linkage, Fragment.exports, Linkage.mem_exports_merge,
    Fragment.addExports, Linkage.addExports, Pool.mem_insertAll, List.mem_singleton, List.nil_append,
    List.mem_map, exists_exists_and_eq_and]
  constructor
  · rintro ((inSource | rfl) | inPredecessor)
    · exact Or.inr (Or.inl inSource)
    · exact Or.inl rfl
    · exact Or.inr (Or.inr inPredecessor)
  · rintro (rfl | inSource | inPredecessor)
    · exact Or.inl (Or.inr rfl)
    · exact Or.inl (Or.inl inSource)
    · exact Or.inr inPredecessor

/-- The line that stores a value reads as the target, the sign, and the value. -/
theorem symbols_line {target : Placeholder} (legible : target.Legible) (value : String) :
    symbols (target.token ++ " = " ++ value).toList =
      .token target.token :: plain " = " ++ symbols value.toList := by
  have sign : IsPlain " = " := isPlain_of_not_mem (by decide)
  exact ((reads_token legible).append sign).symbols_append value

/-- Whatever the value is, the line that stores it holds the tokens of the value after that of the target. -/
theorem scan_line {target : Placeholder} (legible : target.Legible) (value : String) :
    scan (target.token ++ " = " ++ value) = target.token :: scan value := by
  rw [scan_eq_tokens, scan_eq_tokens, symbols_line legible]
  simp

end Assignment

end StepWeaver
