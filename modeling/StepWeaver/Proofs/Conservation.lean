/-
Module: StepWeaver.Proofs.Conservation
Layer: Proofs
Purpose: Composition loses no demand and invents none. A tree of compositions has fragments at its leaves
  and the operations on fragments and assignments at its inner nodes. Whatever the tree, its result
  depends on exactly the classes that a leaf or an extra linkage depends on. It exposes exactly the
  placeholders that one of these exposes, or that were announced on the way.
Main exports: Composition, Composition.build, Composition.given, Composition.announced,
  Linkage.Conserves, Composition.mem_linkage_build
-/
import StepWeaver.Proofs.Composition

namespace StepWeaver

/-!
### Trees of compositions
-/

mutual

/-- A way of composing fragments. -/
inductive Composition where
  /-- A fragment that is there already. -/
  | leaf (fragment : Fragment)
  | merge (base : Composition) (others : List Composition)
  | concat (parts : List Composition)
  | precededBy (base : Composition) (predecessors : List Composition)
  | addStatements (base : Composition) (statements : List String)
  | addLinkage (base : Composition) (extra : Linkage)
  | addExports (base : Composition) (placeholders : List Placeholder)
  | wrap (base : Composition) (template : String → String) (extra : Linkage)
  | mapFinal (base : Composition) (change : String → String)
  | assign (storing : Storing)

/-- A way of composing an assignment. Predecessors may be added any number of times. -/
inductive Storing where
  | ofFragment (target : Placeholder) (source : Composition)
  | precededBy (storing : Storing) (predecessors : List Composition)

end

mutual

/-- The fragment that a composition results in. -/
def Composition.build : Composition → Fragment
  | .leaf fragment => fragment
  | .merge base others => base.build.merge (Composition.buildAll others)
  | .concat parts => Fragment.concat (Composition.buildAll parts)
  | .precededBy base predecessors => base.build.precededBy (Composition.buildAll predecessors)
  | .addStatements base statements => base.build.addStatements statements
  | .addLinkage base extra => base.build.addLinkage extra
  | .addExports base placeholders => base.build.addExports placeholders
  | .wrap base template extra => base.build.wrap template extra
  | .mapFinal base change => base.build.mapFinal change
  | .assign storing => storing.build.toFragment

/-- The assignment that a composition results in. -/
def Storing.build : Storing → Assignment
  | .ofFragment target source => Assignment.ofFragment target source.build
  | .precededBy storing predecessors => storing.build.precededBy (Composition.buildAll predecessors)

/-- The fragments that compositions result in, one by one. -/
def Composition.buildAll : List Composition → List Fragment
  | [] => []
  | part :: parts => part.build :: Composition.buildAll parts

end

/-!
### What goes into a tree

Demands come from linkages, those of the leaves and the extra ones, and from placeholders that are
announced: the targets of assignments and the placeholders that are exposed by name.
-/

mutual

/-- The linkages of the leaves, and the extra ones. -/
def Composition.given : Composition → List Linkage
  | .leaf fragment => [fragment.linkage]
  | .merge base others => base.given ++ Composition.givenAll others
  | .concat parts => Composition.givenAll parts
  | .precededBy base predecessors => base.given ++ Composition.givenAll predecessors
  | .addStatements base _ | .addExports base _ | .mapFinal base _ => base.given
  | .addLinkage base extra | .wrap base _ extra => base.given ++ [extra]
  | .assign storing => storing.given

/-- The linkages of the leaves, and the extra ones. -/
def Storing.given : Storing → List Linkage
  | .ofFragment _ source => source.given
  | .precededBy storing predecessors => storing.given ++ Composition.givenAll predecessors

/-- The linkages that are given to some compositions. -/
def Composition.givenAll : List Composition → List Linkage
  | [] => []
  | part :: parts => part.given ++ Composition.givenAll parts

end

mutual

/-- The targets of the assignments, and the placeholders that are exposed by name. -/
def Composition.announced : Composition → List Placeholder
  | .leaf _ => []
  | .merge base others => base.announced ++ Composition.announcedAll others
  | .concat parts => Composition.announcedAll parts
  | .precededBy base predecessors => base.announced ++ Composition.announcedAll predecessors
  | .addStatements base _ | .mapFinal base _ | .addLinkage base _ | .wrap base _ _ => base.announced
  | .addExports base placeholders => base.announced ++ placeholders
  | .assign storing => storing.announced

/-- The targets of the assignments, and the placeholders that are exposed by name. -/
def Storing.announced : Storing → List Placeholder
  | .ofFragment target source => source.announced ++ [target]
  | .precededBy storing predecessors => storing.announced ++ Composition.announcedAll predecessors

/-- The placeholders that some compositions announce. -/
def Composition.announcedAll : List Composition → List Placeholder
  | [] => []
  | part :: parts => part.announced ++ Composition.announcedAll parts

end

/-!
### What one operation conserves

The results of an operation are a list, so that the arguments of the next one can be taken together.
-/

/-- Taken together, the results ask for what was given or announced, and for nothing else. -/
structure Linkage.Conserves (results given : List Linkage) (announced : List Placeholder) : Prop where
  dependencies : ∀ name, (∃ result ∈ results, name ∈ result.dependencies) ↔
    ∃ linkage ∈ given, name ∈ linkage.dependencies
  exports : ∀ placeholder, (∃ result ∈ results, placeholder ∈ result.exports) ↔
    (∃ linkage ∈ given, placeholder ∈ linkage.exports) ∨ placeholder ∈ announced

namespace Linkage

variable {results given : List Linkage} {announced : List Placeholder}

/-- What is passed on unchanged is conserved. -/
theorem conserves_given (given : List Linkage) : Conserves given given [] where
  dependencies _ := Iff.rfl
  exports placeholder := by simp

theorem exists_mem_append_iff {first second : List Linkage} {property : Linkage → Prop} :
    (∃ linkage ∈ first ++ second, property linkage) ↔
      (∃ linkage ∈ first, property linkage) ∨ ∃ linkage ∈ second, property linkage := by
  simp only [List.mem_append, or_and_right, exists_or]

/-- What is conserved in two parts is conserved in both together. -/
theorem Conserves.append {results' given' : List Linkage} {announced' : List Placeholder}
    (first : Conserves results given announced) (second : Conserves results' given' announced') :
    Conserves (results ++ results') (given ++ given') (announced ++ announced') where
  dependencies name := by
    rw [exists_mem_append_iff, exists_mem_append_iff, first.dependencies, second.dependencies]
  exports placeholder := by
    rw [exists_mem_append_iff, exists_mem_append_iff, first.exports, second.exports, List.mem_append]
    exact or_or_or_comm

theorem exists_mem_singleton_iff {linkage : Linkage} {property : Linkage → Prop} :
    (∃ result ∈ [linkage], property result) ↔ property linkage := by
  simp only [List.mem_singleton, exists_eq_left]

/-- Merging keeps the demands of all that is merged. -/
theorem Conserves.merge {linkage : Linkage} {others : List Linkage}
    (conserves : Conserves (linkage :: others) given announced) :
    Conserves [linkage.merge others] given announced where
  dependencies name := by
    rw [← conserves.dependencies, exists_mem_singleton_iff, mem_dependencies_merge]
    simp only [List.mem_cons, exists_eq_or_imp]
  exports placeholder := by
    rw [← conserves.exports, exists_mem_singleton_iff, mem_exports_merge]
    simp only [List.mem_cons, exists_eq_or_imp]

/-- Announced placeholders are exported beside what is conserved. -/
theorem Conserves.addExports {linkage : Linkage} (conserves : Conserves [linkage] given announced)
    (placeholders : List Placeholder) :
    Conserves [linkage.addExports placeholders] given (announced ++ placeholders) where
  dependencies name := by
    rw [← conserves.dependencies, exists_mem_singleton_iff, exists_mem_singleton_iff]
    exact Iff.rfl
  exports placeholder := by
    have before := conserves.exports placeholder
    rw [exists_mem_singleton_iff] at before
    rw [exists_mem_singleton_iff, Linkage.addExports, Pool.mem_insertAll, before, List.mem_append,
      or_assoc]

/-- A sequence keeps the demands of all its parts. -/
theorem Conserves.concat {fragments : List Fragment}
    (conserves : Conserves (fragments.map Fragment.linkage) given announced) :
    Conserves [(Fragment.concat fragments).linkage] given announced := by
  rw [Fragment.linkage_concat]
  apply Conserves.merge
  -- The empty linkage, from which the sequence starts, asks for nothing.
  constructor
  · intro name
    rw [← conserves.dependencies]
    simp only [List.mem_cons, exists_eq_or_imp]
    exact or_iff_right (OrderedSet.not_mem_empty name)
  · intro placeholder
    rw [← conserves.exports]
    simp only [List.mem_cons, exists_eq_or_imp]
    exact or_iff_right (not_mem_exports_empty placeholder)

end Linkage

/-- A change to the final statement does not touch the linkage. -/
theorem Fragment.linkage_mapFinal (fragment : Fragment) (change : String → String) :
    (fragment.mapFinal change).linkage = fragment.linkage := by
  unfold mapFinal
  split
  · rfl
  · rfl

/-!
### Whole trees

The induction follows the three kinds of trees. Of an assignment it says that source and predecessors
conserve together, which is what lets further predecessors be added.
-/

open Linkage (Conserves)

mutual

/-- However a fragment is composed, its linkage has what its leaves had and what was announced. -/
theorem Composition.conserves_build : (composition : Composition) →
    Conserves [composition.build.linkage] composition.given composition.announced
  | .leaf fragment => Linkage.conserves_given [fragment.linkage]
  | .merge base others => (base.conserves_build.append (Composition.conserves_buildAll others)).merge
  | .concat parts => (Composition.conserves_buildAll parts).concat
  | .precededBy base predecessors =>
      (base.conserves_build.append (Composition.conserves_buildAll predecessors)).merge
  | .addStatements base _ => base.conserves_build
  | .addLinkage base extra => by
      have both := (base.conserves_build.append (Linkage.conserves_given [extra])).merge
      rw [List.append_nil] at both
      exact both
  | .addExports base placeholders => base.conserves_build.addExports placeholders
  | .wrap base _ extra => by
      have both := (base.conserves_build.append (Linkage.conserves_given [extra])).merge
      rw [List.append_nil] at both
      exact both
  | .mapFinal base change => by
      rw [Composition.build, Fragment.linkage_mapFinal]
      exact base.conserves_build
  | .assign storing => storing.conserves_build.merge

/-- The same for an assignment, whose target is announced. -/
theorem Storing.conserves_build : (storing : Storing) →
    Conserves (storing.build.source.linkage :: storing.build.predecessors.map Fragment.linkage)
      storing.given storing.announced
  | .ofFragment target source => source.conserves_build.addExports [target]
  | .precededBy storing predecessors => by
      have both := storing.conserves_build.append (Composition.conserves_buildAll predecessors)
      rw [List.cons_append, ← List.map_append] at both
      exact both

theorem Composition.conserves_buildAll : (parts : List Composition) →
    Conserves ((Composition.buildAll parts).map Fragment.linkage) (Composition.givenAll parts)
      (Composition.announcedAll parts)
  | [] => Linkage.conserves_given []
  | part :: parts => part.conserves_build.append (Composition.conserves_buildAll parts)

end

/-- The result of a tree of compositions depends on a class exactly if a leaf or an extra linkage does,
    and it exposes a placeholder exactly if one of these does, or if the placeholder is the target of an
    assignment of the tree or was exposed by name. -/
theorem Composition.mem_linkage_build (composition : Composition) :
    (∀ name, name ∈ composition.build.dependencies ↔
      ∃ linkage ∈ composition.given, name ∈ linkage.dependencies) ∧
    ∀ placeholder, placeholder ∈ composition.build.exports ↔
      (∃ linkage ∈ composition.given, placeholder ∈ linkage.exports) ∨
        placeholder ∈ composition.announced := by
  have conserves := composition.conserves_build
  constructor
  · intro name
    rw [← conserves.dependencies, Linkage.exists_mem_singleton_iff]
  · intro placeholder
    rw [← conserves.exports, Linkage.exists_mem_singleton_iff]

end StepWeaver
