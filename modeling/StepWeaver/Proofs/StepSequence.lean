/-
Module: StepWeaver.Proofs.StepSequence
Layer: Proofs
Purpose: A step is the sequence of its parts. Each part is woven on its own; the step is refused for the
  first part that is refused, and otherwise its source lists what its parts list, in order. A step can
  therefore be cut between any two of its actions.
Main exports: Fragment.IsSequence, Fragment.isSequence_concat, Fragment.concat_append,
  Weaver.outcomes, Weaver.weaveStep_eq_map, Weaver.weaveStep_is_sequence
-/
import StepWeaver.Proofs.Composition
import StepWeaver.Proofs.Merging
import StepWeaver.Weaver

namespace StepWeaver

/-!
### Sequences of fragments
-/

namespace Fragment

/-- A fragment has the statements of its parts one after the other, and it lists the classes and the
    placeholders of its parts where they come up first. -/
structure IsSequence (fragment : Fragment) (parts : List Fragment) : Prop where
  statements : fragment.statements = parts.flatMap Fragment.statements
  dependencies : fragment.dependencies.toList =
    (parts.flatMap fun part => part.dependencies.toList).eraseDups
  exports : fragment.exports.toList = (parts.flatMap fun part => part.exports.toList).eraseDups

/-- Parts one after the other form a sequence. -/
theorem isSequence_concat (parts : List Fragment) : (concat parts).IsSequence parts where
  statements := statements_concat parts
  dependencies := by
    rw [dependencies, linkage_concat, Linkage.merge, OrderedSet.toList_merge, List.map_map,
      List.flatMap_map]
    rfl
  exports := by
    rw [exports, linkage_concat, Linkage.merge, Pool.toList_merge, List.map_map, List.flatMap_map]
    rfl

theorem append_append (first second third : Fragment) :
    (first.append second).append third = first.append (second.append third) := by
  simp only [append, addStatements, addLinkage, Linkage.merge_merge, List.append_assoc]

theorem empty_append (fragment : Fragment) : (∅ : Fragment).append fragment = fragment := by
  have linkage : (∅ : Fragment).linkage.merge [fragment.linkage] = fragment.linkage :=
    fragment.linkage.empty_merge
  rw [append, addStatements, addLinkage, linkage]
  rfl

theorem append_empty (fragment : Fragment) : fragment.append ∅ = fragment := by
  have linkage : fragment.linkage.merge [(∅ : Fragment).linkage] = fragment.linkage :=
    fragment.linkage.merge_empty
  rw [append, addStatements, addLinkage, linkage]
  exact congrArg (Fragment.mk · fragment.linkage) (List.append_nil fragment.statements)

/-- Fragments may be appended one by one or all at once. -/
theorem foldl_append (fragment : Fragment) (fragments : List Fragment) :
    fragments.foldl append fragment = fragment.append (concat fragments) := by
  induction fragments generalizing fragment with
  | nil => exact (append_empty fragment).symm
  | cons next fragments ih =>
      rw [concat, List.foldl_cons, List.foldl_cons, empty_append, ih, ih next, append_append]

/-- A sequence may be cut anywhere. -/
theorem concat_append (first second : List Fragment) :
    concat (first ++ second) = concat [concat first, concat second] := by
  calc concat (first ++ second)
      = (concat first).append (concat second) := by
        rw [concat, List.foldl_append, foldl_append]
        rfl
    _ = concat [concat first, concat second] := by
        rw [concat.eq_def [_, _], List.foldl_cons, List.foldl_cons, List.foldl_nil, empty_append]

end Fragment

/-!
### Steps
-/

/-- Either all results are there, or there is a first failure, which is then the answer. -/
theorem mapM_id_cases {ε α : Type} (results : List (Except ε α)) :
    (∃ values : List α, results = values.map .ok ∧ results.mapM id = .ok values) ∨
    ∃ (before : List α) (reason : ε) (after : List (Except ε α)),
      results = before.map .ok ++ .error reason :: after ∧ results.mapM id = .error reason := by
  induction results with
  | nil => exact Or.inl ⟨[], rfl, rfl⟩
  | cons result results ih =>
      rw [List.mapM_cons]
      cases result with
      | error reason => exact Or.inr ⟨[], reason, results, rfl, rfl⟩
      | ok value =>
          rcases ih with ⟨values, rfl, answer⟩ | ⟨before, reason, after, rfl, answer⟩
          · rw [answer]
            exact Or.inl ⟨value :: values, rfl, rfl⟩
          · rw [answer]
            exact Or.inr ⟨value :: before, reason, after, rfl, rfl⟩

namespace Weaver

/-- What becomes of each part of a step on its own: of its actions, then of its assertions. -/
def outcomes (weaver : Weaver) (step : Step) : List (Except Rejection Fragment) :=
  step.actions.map weaver.actions.weave ++ step.assertions.map weaver.assertions.weave

/-- A step is woven part by part, and the parts are put one after the other. -/
theorem weaveStep_eq_map (weaver : Weaver) (step : Step) :
    weaver.weaveStep step = Fragment.concat <$> (weaver.outcomes step).mapM id := by
  rw [outcomes, List.mapM_append, List.mapM_map, List.mapM_map]
  simp only [weaveStep, map_bind, map_pure, Function.id_comp]

/-- Actions of a step may be split off and woven as a step of their own. -/
theorem outcomes_append (weaver : Weaver) (first second : List Action) (assertions : List Assertion) :
    weaver.outcomes ⟨first ++ second, assertions⟩ =
      weaver.outcomes ⟨first, []⟩ ++ weaver.outcomes ⟨second, assertions⟩ := by
  simp only [outcomes, List.map_append, List.map_nil, List.append_nil, List.append_assoc]

/-- The source of a step that is cut between two actions. -/
theorem weaveStep_append (weaver : Weaver) (first second : List Action) (assertions : List Assertion) :
    weaver.weaveStep ⟨first ++ second, assertions⟩ = (do
      let earlier ← weaver.weaveStep ⟨first, []⟩
      let later ← weaver.weaveStep ⟨second, assertions⟩
      return Fragment.concat [earlier, later]) := by
  simp only [weaveStep_eq_map, outcomes_append, List.mapM_append, map_bind, map_pure,
    Fragment.concat_append, bind_map_left]

/-- A step of which every part can be woven is woven into the sequence of its parts, and any other step
    is refused as the first of its parts that is refused. A step that is cut between two actions is
    woven exactly if both pieces are, and it is the sequence of the two. -/
theorem weaveStep_is_sequence (weaver : Weaver) :
    (∀ step,
      (∃ (parts : List Fragment) (fragment : Fragment), weaver.outcomes step = parts.map .ok ∧
        weaver.weaveStep step = .ok fragment ∧ fragment.IsSequence parts) ∨
      ∃ (before : List Fragment) (reason : Rejection) (after : List (Except Rejection Fragment)),
        weaver.outcomes step = before.map .ok ++ .error reason :: after ∧
          weaver.weaveStep step = .error reason) ∧
    ∀ first second assertions fragment,
      weaver.weaveStep ⟨first ++ second, assertions⟩ = .ok fragment ↔
        ∃ earlier later, weaver.weaveStep ⟨first, []⟩ = .ok earlier ∧
          weaver.weaveStep ⟨second, assertions⟩ = .ok later ∧
          fragment = Fragment.concat [earlier, later] := by
  constructor
  · intro step
    rw [weaveStep_eq_map]
    rcases mapM_id_cases (weaver.outcomes step) with
      ⟨parts, all, answer⟩ | ⟨before, reason, after, first, answer⟩
    · rw [answer]
      exact Or.inl ⟨parts, Fragment.concat parts, all, rfl, Fragment.isSequence_concat parts⟩
    · rw [answer]
      exact Or.inr ⟨before, reason, after, first, rfl⟩
  · intro first second assertions fragment
    rw [weaveStep_append]
    constructor
    · intro woven
      cases one : weaver.weaveStep ⟨first, []⟩ with
      | error reason =>
          rw [one] at woven
          cases woven
      | ok earlier =>
          cases two : weaver.weaveStep ⟨second, assertions⟩ with
          | error reason =>
              rw [one, two] at woven
              cases woven
          | ok later =>
              rw [one, two] at woven
              exact ⟨earlier, later, rfl, rfl, (Except.ok.inj woven).symm⟩
    · intro pieces
      obtain ⟨earlier, later, one, two, rfl⟩ := pieces
      rw [one, two]
      rfl

end Weaver

end StepWeaver
