/-
Module: StepWeaver.Proofs.Closure
Layer: Proofs
Purpose: Composition leaves no new token dangling. Each operation that puts fragments together keeps their
  statements, but for the line that stores a value, and exposes what they expose. So a token that dangles
  in the result dangles in one of the parts, and closed fragments make closed fragments, however often they
  are composed. This holds for any statements, also for those with half a token in them.
Main exports: Fragment.mem_dangling, Fragment.DanglesWithin, Fragment.danglesWithin_of_covered,
  Assignment.danglesWithin_line, Assignment.danglesWithin_build, Fragment.Assembled,
  Fragment.Assembled.dangling, Fragment.dangling_of_composition
-/
import StepWeaver.Proofs.AssignmentRendering
import StepWeaver.Proofs.ExportExactness

namespace StepWeaver

namespace Fragment

theorem mem_dangling {fragment : Fragment} {token : String} :
    token ∈ fragment.dangling ↔ token ∈ fragment.mentioned ∧ token ∉ fragment.exposed := by
  rw [dangling, List.mem_eraseDups, List.mem_filter, List.mem_flatMap, decide_eq_true_iff, List.mem_map]
  exact Iff.rfl

/-- Every token that dangles in the result dangles in one of the parts. -/
def DanglesWithin (result : Fragment) (parts : List Fragment) : Prop :=
  ∀ token ∈ result.dangling, ∃ part ∈ parts, token ∈ part.dangling

/-- It is enough that the result mentions nothing but what it exposes or a part mentions, and that it
    exposes what its parts expose. -/
theorem danglesWithin_of_covered {result : Fragment} {parts : List Fragment}
    (mentioned : ∀ token ∈ result.mentioned, token ∈ result.exposed ∨ ∃ part ∈ parts, token ∈ part.mentioned)
    (exposed : ∀ part ∈ parts, ∀ placeholder ∈ part.exports, placeholder ∈ result.exports) :
    result.DanglesWithin parts := by
  intro token dangles
  obtain ⟨found, unexposed⟩ := mem_dangling.mp dangles
  rcases mentioned token found with shown | ⟨part, member, inPart⟩
  · exact absurd shown unexposed
  · refine ⟨part, member, mem_dangling.mpr ⟨inPart, ?_⟩⟩
    rintro ⟨placeholder, exported, named⟩
    exact unexposed ⟨placeholder, exposed part member placeholder exported, named⟩

/-!
### What one operation leaves dangling
-/

/-- A sequence mentions only what its parts mention, and exposes all that they expose. -/
theorem danglesWithin_concat (fragments : List Fragment) : (concat fragments).DanglesWithin fragments := by
  apply danglesWithin_of_covered
  · rintro token ⟨statement, member, found⟩
    rw [statements_concat] at member
    obtain ⟨fragment, listed, within⟩ := List.mem_flatMap.mp member
    exact Or.inr ⟨fragment, listed, statement, within, found⟩
  · intro fragment listed placeholder exported
    exact mem_exports_concat.mpr ⟨fragment, listed, exported⟩

/-- Merging loses no placeholder. -/
theorem mem_exports_merge_of_mem {fragment part : Fragment} {others : List Fragment}
    (listed : part ∈ fragment :: others) {placeholder : Placeholder} (exported : placeholder ∈ part.exports) :
    placeholder ∈ (fragment.linkage.merge (others.map linkage)).exports := by
  rw [Linkage.mem_exports_merge]
  rcases List.mem_cons.mp listed with rfl | later
  · exact Or.inl exported
  · exact Or.inr ⟨part.linkage, List.mem_map_of_mem later, exported⟩

/-- What runs first is one more part. -/
theorem danglesWithin_precededBy (fragment : Fragment) (predecessors : List Fragment) :
    (fragment.precededBy predecessors).DanglesWithin (fragment :: predecessors) := by
  apply danglesWithin_of_covered
  · rintro token ⟨statement, member, found⟩
    rcases List.mem_append.mp member with earlier | own
    · obtain ⟨predecessor, listed, within⟩ := List.mem_flatMap.mp earlier
      exact Or.inr ⟨predecessor, List.mem_cons_of_mem _ listed, statement, within, found⟩
    · exact Or.inr ⟨fragment, List.mem_cons_self, statement, own, found⟩
  · intro part listed placeholder exported
    exact mem_exports_merge_of_mem listed exported

/-- Merging takes no statement of the others. -/
theorem danglesWithin_merge (fragment : Fragment) (others : List Fragment) :
    (fragment.merge others).DanglesWithin (fragment :: others) := by
  apply danglesWithin_of_covered
  · rintro token ⟨statement, own, found⟩
    exact Or.inr ⟨fragment, List.mem_cons_self, statement, own, found⟩
  · intro part listed placeholder exported
    exact mem_exports_merge_of_mem listed exported

/-- Further exports leave no more tokens dangling. -/
theorem danglesWithin_addExports (fragment : Fragment) (placeholders : List Placeholder) :
    (fragment.addExports placeholders).DanglesWithin [fragment] := by
  apply danglesWithin_of_covered
  · intro token found
    exact Or.inr ⟨fragment, List.mem_singleton_self _, found⟩
  · intro part only placeholder exported
    cases List.mem_singleton.mp only
    exact Pool.mem_insertAll.mpr (Or.inl exported)

/-- One part of a composition may itself come from another fragment. -/
theorem DanglesWithin.trans_head {result middle first : Fragment} {parts : List Fragment}
    (outer : result.DanglesWithin (middle :: parts)) (inner : middle.DanglesWithin [first]) :
    result.DanglesWithin (first :: parts) := by
  intro token dangles
  obtain ⟨part, listed, inPart⟩ := outer token dangles
  rcases List.mem_cons.mp listed with rfl | later
  · obtain ⟨_, only, inFirst⟩ := inner token inPart
    cases List.mem_singleton.mp only
    exact ⟨first, List.mem_cons_self, inFirst⟩
  · exact ⟨part, List.mem_cons_of_mem _ later, inPart⟩

end Fragment

namespace Assignment

/-- The line may be put in place of the value wherever the target is exposed. -/
theorem danglesWithin_line {target : Placeholder} (legible : target.Legible) {fragment : Fragment}
    (exposed : target ∈ fragment.exports) :
    (fragment.mapFinal (line target)).DanglesWithin [fragment] := by
  have kept : (fragment.mapFinal (line target)).linkage = fragment.linkage := fragment.linkage_mapFinal _
  apply Fragment.danglesWithin_of_covered
  · rintro token ⟨statement, member, found⟩
    rw [Fragment.statements_mapFinal, List.mem_append, Option.mem_toList,
      Option.map_eq_some_iff] at member
    rcases member with setup | ⟨value, last, rfl⟩
    · have within : statement ∈ fragment.statements := List.mem_of_mem_dropLast setup
      exact Or.inr ⟨fragment, List.mem_singleton_self _, statement, within, found⟩
    · -- The line adds a token in front of those of the value, and the target is exposed.
      rw [line, scan_line legible] at found
      rcases List.mem_cons.mp found with rfl | inValue
      · left
        refine ⟨target, ?_, rfl⟩
        rwa [Fragment.exports, kept]
      · have within : value ∈ fragment.statements := List.mem_of_getLast? last
        exact Or.inr ⟨fragment, List.mem_singleton_self _, value, within, inValue⟩
  · intro part only placeholder exported
    cases List.mem_singleton.mp only
    rwa [Fragment.exports, kept]

/-- The target that is put before the final statement is exposed along with it. -/
theorem danglesWithin_build {target : Placeholder} (legible : target.Legible) (source : Fragment)
    (batches : List (List Fragment)) :
    (build target source batches).toFragment.DanglesWithin
      (source.addExports [target] :: batches.flatten) := by
  have exposed : target ∈ (source.addExports [target]).exports :=
    Pool.mem_insertAll.mpr (Or.inr (List.mem_singleton_self target))
  rw [toFragment_build]
  exact (Fragment.danglesWithin_precededBy _ _).trans_head (danglesWithin_line legible exposed)

end Assignment

/-!
### Compositions of compositions
-/

namespace Fragment

/-- What can be made of given fragments. A role that stores a value must not close its own token. -/
inductive Assembled (given : Fragment → Prop) : Fragment → Prop where
  | given {fragment : Fragment} (here : given fragment) : Assembled given fragment
  | concat {fragments : List Fragment} (parts : ∀ part ∈ fragments, Assembled given part) :
      Assembled given (concat fragments)
  | precededBy {fragment : Fragment} {predecessors : List Fragment}
      (parts : ∀ part ∈ fragment :: predecessors, Assembled given part) :
      Assembled given (fragment.precededBy predecessors)
  | merge {fragment : Fragment} {others : List Fragment}
      (parts : ∀ part ∈ fragment :: others, Assembled given part) :
      Assembled given (fragment.merge others)
  | assign {target : Placeholder} {source : Fragment} {batches : List (List Fragment)}
      (legible : target.Legible) (parts : ∀ part ∈ source :: batches.flatten, Assembled given part) :
      Assembled given (Assignment.build target source batches).toFragment

/-- Nothing dangles but what dangled in a fragment that was given. -/
theorem Assembled.dangling {given : Fragment → Prop} {fragment : Fragment}
    (assembled : Assembled given fragment) {token : String} (dangles : token ∈ fragment.dangling) :
    ∃ part, given part ∧ token ∈ part.dangling := by
  -- Each case is what one operation leaves dangling, followed by the same for the part where it dangles.
  induction assembled with
  | given here => exact ⟨_, here, dangles⟩
  | concat parts ih =>
      obtain ⟨part, listed, inPart⟩ := danglesWithin_concat _ token dangles
      exact ih part listed inPart
  | precededBy parts ih =>
      obtain ⟨part, listed, inPart⟩ := danglesWithin_precededBy _ _ token dangles
      exact ih part listed inPart
  | merge parts ih =>
      obtain ⟨part, listed, inPart⟩ := danglesWithin_merge _ _ token dangles
      exact ih part listed inPart
  | @assign target source batches legible parts ih =>
      have within := (Assignment.danglesWithin_build legible source batches).trans_head
        (danglesWithin_addExports source [target])
      obtain ⟨part, listed, inPart⟩ := within token dangles
      exact ih part listed inPart

/-- A token that dangles in a composition dangles in one of its parts: in a sequence, in a fragment with
    predecessors, in a merged fragment, and in an assignment whose target does not close its own token.
    Hence whatever is made of closed fragments is closed. -/
theorem dangling_of_composition :
    (∀ fragments, (Fragment.concat fragments).DanglesWithin fragments) ∧
    (∀ fragment predecessors,
      (Fragment.precededBy fragment predecessors).DanglesWithin (fragment :: predecessors)) ∧
    (∀ fragment others, (Fragment.merge fragment others).DanglesWithin (fragment :: others)) ∧
    (∀ (target : Placeholder) source batches, target.Legible →
      let assignment := Assignment.build target source batches
      assignment.toFragment.DanglesWithin (assignment.source :: assignment.predecessors)) ∧
    ∀ given fragment, Assembled given fragment → (∀ part, given part → part.dangling = []) →
      fragment.dangling = [] := by
  refine ⟨danglesWithin_concat, danglesWithin_precededBy, danglesWithin_merge, ?_, ?_⟩
  · intro target source batches legible
    have within := Assignment.danglesWithin_build legible source batches
    rw [Assignment.build_eq] at within ⊢
    exact within
  · intro given fragment assembled closed
    apply List.eq_nil_iff_forall_not_mem.mpr
    intro token dangles
    obtain ⟨part, here, inPart⟩ := assembled.dangling dangles
    rw [closed part here] at inPart
    exact List.not_mem_nil inPart

-- The value ends with half a token, and the statement before it starts with the other half. A token that
-- the first statement mentions dangles if it is not exposed there, and only then.
theorem dangling_of_composition_halves :
    let target : Placeholder := .numbered "T" 2
    let source := ofStatement "\x7b\x7b A \x7d\x7d \x7b\x7b B" [.canonical "A"]
    let setup (exports : List Placeholder) := ofStatement " \x7d\x7d \x7b\x7b C \x7d\x7d" exports
    let stored (exports : List Placeholder) := Assignment.build target source [[], [setup exports]]
    target.Legible ∧
      ("\x7b\x7b C \x7d\x7d" ∈ (stored []).toFragment.dangling ∧
        ∃ part ∈ [source.addExports [target], setup []], "\x7b\x7b C \x7d\x7d" ∈ part.dangling) ∧
      (∀ part, part = source ∨ part = setup [.canonical "C"] → part.dangling = []) ∧
      (stored [.canonical "C"]).toFragment.dangling = [] := by
  intro target source setup stored
  have legible : target.Legible := by decide
  have dangles : "\x7b\x7b C \x7d\x7d" ∈ (stored []).toFragment.dangling := by decide +kernel
  have closed : ∀ part, part = source ∨ part = setup [.canonical "C"] → part.dangling = [] := by
    rintro part (rfl | rfl)
    · decide +kernel
    · decide +kernel
  have assembled : Assembled (fun part => part = source ∨ part = setup [.canonical "C"])
      (stored [.canonical "C"]).toFragment := by
    apply Assembled.assign legible
    intro part listed
    simp only [List.flatten_cons, List.flatten_nil, List.nil_append, List.append_nil, List.mem_cons,
      List.not_mem_nil, or_false] at listed
    exact Assembled.given listed
  obtain ⟨_, _, _, assignments, whole⟩ := dangling_of_composition
  exact ⟨legible, ⟨dangles, assignments target source [[], [setup []]] legible _ dangles⟩, closed,
    whole _ _ assembled closed⟩

end Fragment

end StepWeaver
