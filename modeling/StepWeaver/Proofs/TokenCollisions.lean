/-
Module: StepWeaver.Proofs.TokenCollisions
Layer: Proofs
Purpose: Which placeholders share a token. What stands after the last colon of a label is a number only if
  the placeholder carries one or its role is spelled as if it did, so there is one way for two placeholders
  to be taken for each other. It needs a role with a colon in its name. Pools put no colon into a name, so
  whatever is created, allocated and merged for roles without one has tokens of its own.
Main exports: Pool.MadeFor, Pool.MadeFor.name_of_mem, Pool.token_eq_iff_collides
-/
import StepWeaver.Proofs.PoolHistory

namespace StepWeaver.Pool

/-- What creations, fresh allocations and unions make of the empty pool, one after the other, if they are
    all about certain roles. The other pools of a union have been made in the same way. -/
inductive MadeFor (roles : String → Prop) : Pool → Prop
  | empty : MadeFor roles ∅
  | create {pool : Pool} (made : MadeFor roles pool) {name : String} (role : roles name) :
      MadeFor roles (pool.create name).2
  | fresh {pool : Pool} (made : MadeFor roles pool) {name : String} (role : roles name) :
      MadeFor roles (pool.fresh name).2
  | merge {pool : Pool} (made : MadeFor roles pool) {others : List Pool}
      (othersMade : ∀ other ∈ others, MadeFor roles other) : MadeFor roles (pool.merge others)

/-- No call puts a placeholder of another role into the pool. -/
theorem MadeFor.name_of_mem {roles : String → Prop} {pool : Pool} (made : pool.MadeFor roles)
    {placeholder : Placeholder} (member : placeholder ∈ pool) : roles placeholder.name := by
  induction made with
  | empty => exact absurd member (not_mem_empty placeholder)
  | create _ role ih =>
      rcases mem_create.mp member with earlier | rfl
      · exact ih earlier
      · exact role
  | fresh _ role ih =>
      rcases mem_fresh.mp member with earlier | rfl
      · exact ih earlier
      · rw [fresh_name]
        exact role
  | merge _ _ ih othersIh =>
      rcases mem_merge.mp member with own | ⟨other, listed, there⟩
      · exact ih own
      · exact othersIh other listed there

/-- Two different placeholders have the same token exactly when one carries a number and the other is the
    canonical placeholder of the role that is spelled like it: name, colon, decimal digits. Hence the
    placeholders of a pool that was made for roles without a colon have pairwise different tokens. -/
theorem token_eq_iff_collides :
    (∀ left right : Placeholder, left ≠ right →
      (left.token = right.token ↔ left.CollidesWith right ∨ right.CollidesWith left)) ∧
    ∀ pool : Pool, pool.MadeFor (fun name => ':' ∉ name.toList) →
      ∀ left ∈ pool, ∀ right ∈ pool, left ≠ right → left.token ≠ right.token := by
  constructor
  · intro left right apart
    exact Placeholder.token_eq_iff apart
  · intro pool made left leftMember right rightMember apart same
    apply apart
    exact Placeholder.eq_of_token_eq (made.name_of_mem leftMember) (made.name_of_mem rightMember) same

-- The role `A:2` is spelled like the second placeholder of the role `A`.
theorem token_eq_iff_collides_spelled :
    let plain := Placeholder.canonical "A:2"
    let counted := Placeholder.numbered "A" 2
    let mixed := ((ofNames ["A:2", "A"]).fresh "A").2
    let clean := ((ofNames []).merge [((ofNames ["A"]).fresh "A").2, ofNames ["B"]])
    (plain ∈ mixed ∧ counted ∈ mixed ∧ plain ≠ counted ∧ plain.token = counted.token) ∧
      clean.MadeFor (fun name => ':' ∉ name.toList) ∧
      Placeholder.canonical "A" ∈ clean ∧ counted ∈ clean ∧
      (Placeholder.canonical "A").token ≠ counted.token := by
  intro plain counted mixed clean
  obtain ⟨collisions, apart⟩ := token_eq_iff_collides
  have shared : plain.token = counted.token := by
    apply (collisions plain counted (by decide)).mpr
    exact Or.inr ⟨"A", 2, rfl, by decide⟩
  have made : clean.MadeFor (fun name => ':' ∉ name.toList) := by
    apply MadeFor.merge .empty
    intro other listed
    rcases List.mem_pair.mp listed with rfl | rfl
    · exact ((MadeFor.empty.create (by decide)).fresh (by decide))
    · exact MadeFor.empty.create (by decide)
  have canonicalMember : Placeholder.canonical "A" ∈ clean := by decide +kernel
  have countedMember : counted ∈ clean := by decide +kernel
  exact ⟨⟨by decide +kernel, by decide +kernel, by decide, shared⟩, made, canonicalMember, countedMember,
    apart clean made _ canonicalMember _ countedMember (by decide)⟩

end StepWeaver.Pool
