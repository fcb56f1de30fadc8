/-
Module: StepWeaver.Proofs.Allocation
Layer: Proofs
Purpose: What allocation in a pool promises. A fresh placeholder was not in the pool, as long as the
  pool is smaller than the range of numbers; computations in a scope only add to its end; and different
  placeholders share a token only if the role of one has a colon in its name, which no known role has.
Main exports: Placeholder.PlaysRole, Placeholder.CollidesWith, Placeholder.token_eq_iff,
  Placeholder.eq_of_token_eq, Pool.fresh_not_mem, Pool.mem_fresh, Pool.Extends, Pool.extends_fresh,
  Pool.extends_create
-/
import Mathlib.Data.List.Nodup
import Std.Data.String.ToNat
import StepWeaver.Proofs.Reading
import StepWeaver.Scope

namespace StepWeaver

namespace Placeholder

/-!
### Roles and their tokens

A number stands after a colon, so a role with a colon in its name may be spelled like another role with a
number. No known role has one, so the number can be read off their tokens.
-/

/-- The placeholder plays one of the known roles. -/
def PlaysRole (placeholder : Placeholder) : Prop := ∃ role : Role, placeholder.name = role.name

/-- The placeholder of a role can be read back from its token. -/
theorem PlaysRole.legible {placeholder : Placeholder} (plays : placeholder.PlaysRole) :
    placeholder.Legible := by
  obtain ⟨role, named⟩ := plays
  unfold Legible
  rw [named]
  cases role <;> decide

/-- No role has a colon in its name, so none looks as if it carried a number. -/
theorem PlaysRole.colon_not_mem {placeholder : Placeholder} (plays : placeholder.PlaysRole) :
    ':' ∉ placeholder.name.toList := by
  obtain ⟨role, named⟩ := plays
  rw [named]
  cases role <;> decide

/-- Tokens differ exactly if what they are labelled with does. -/
theorem token_inj {left right : Placeholder} : left.token = right.token ↔ left.label = right.label := by
  constructor
  · intro same
    rw [← String.toList_inj] at same ⊢
    simpa [token] using same
  · intro same
    rw [token, token, same]

/-- The first placeholder carries a number. The second carries none, and its role is spelled like the
    first one with its number: name, colon, decimal digits. -/
def CollidesWith (counted plain : Placeholder) : Prop :=
  ∃ name number, counted = numbered name number ∧
    plain = canonical (name ++ ":" ++ String.ofList (Nat.toDigits 10 number.toNat))

theorem label_numbered (name : String) (number : UInt32) :
    (numbered name number).label =
      name ++ ":" ++ String.ofList (Nat.toDigits 10 number.toNat) := by
  rw [← Nat.repr_eq_ofList_toDigits]
  rfl

/-- A name may hold colons, but digits hold none, so the last colon is the one before the number. -/
theorem numbered_inj_of_label_eq {name otherName : String} {number otherNumber : UInt32}
    (same : (numbered name number).label = (numbered otherName otherNumber).label) :
    numbered name number = numbered otherName otherNumber := by
  have clean (n : Nat) : ':' ∉ (toString n).toList :=
    fun colon => absurd (isDigit_of_mem_toString colon) (by decide)
  rw [← String.toList_inj] at same
  simp only [numbered, label, String.toList_append, List.append_assoc] at same
  obtain ⟨names, digits⟩ := Text.append_cons_inj (clean _) (clean _) same
  have numbers : number.toNat = otherNumber.toNat := Nat.repr_injective (String.toList_inj.mp digits)
  rw [String.toList_inj.mp names, UInt32.toNat_inj.mp numbers]

/-- Different placeholders share a token only if one is spelled like the other. -/
theorem token_eq_iff {left right : Placeholder} (apart : left ≠ right) :
    left.token = right.token ↔ left.CollidesWith right ∨ right.CollidesWith left := by
  rw [token_inj]
  constructor
  · intro same
    obtain ⟨leftName, _ | leftNumber⟩ := left <;> obtain ⟨rightName, _ | rightNumber⟩ := right
    · exact absurd (congrArg canonical same) apart
    · exact Or.inr ⟨rightName, rightNumber, rfl, congrArg canonical (same.trans (label_numbered _ _))⟩
    · exact Or.inl ⟨leftName, leftNumber, rfl, congrArg canonical (same.symm.trans (label_numbered _ _))⟩
    · exact absurd (numbered_inj_of_label_eq same) apart
  · rintro (⟨name, number, rfl, rfl⟩ | ⟨name, number, rfl, rfl⟩)
    · exact label_numbered name number
    · exact (label_numbered name number).symm

/-- Only a name with a colon can be mistaken for a numbered one. -/
theorem CollidesWith.colon_mem {counted plain : Placeholder} (collides : counted.CollidesWith plain) :
    ':' ∈ plain.name.toList := by
  obtain ⟨name, number, _, rfl⟩ := collides
  simp [canonical]

/-- Placeholders whose names have no colon are told apart by their tokens. -/
theorem eq_of_token_eq {left right : Placeholder} (leftClean : ':' ∉ left.name.toList)
    (rightClean : ':' ∉ right.name.toList) (same : left.token = right.token) : left = right := by
  by_contra apart
  rcases (token_eq_iff apart).mp same with collides | collides
  · exact rightClean collides.colon_mem
  · exact leftClean collides.colon_mem

/-- Among roles a token belongs to one placeholder. -/
theorem PlaysRole.eq_of_token_eq {left right : Placeholder} (leftPlays : left.PlaysRole)
    (rightPlays : right.PlaysRole) (same : left.token = right.token) : left = right :=
  Placeholder.eq_of_token_eq leftPlays.colon_not_mem rightPlays.colon_not_mem same

end Placeholder

namespace Pool

/-!
### Fresh placeholders
-/

/-- If even the number that the search settles for is taken, all numbers it has seen are. -/
theorem nextFree_taken {members : OrderedSet Placeholder} {name : String} {candidates : Nat}
    {last : UInt32}
    (taken : Placeholder.numbered name (nextFree members name candidates last) ∈ members) :
    ∀ skipped ≤ candidates,
      Placeholder.numbered name (last + 1 + UInt32.ofNat skipped) ∈ members := by
  induction candidates generalizing last with
  | zero =>
      intro skipped bound
      obtain rfl : skipped = 0 := Nat.le_zero.mp bound
      simpa [nextFree] using taken
  | succ candidates ih =>
      intro skipped bound
      rw [nextFree] at taken
      split at taken
      · next here =>
        cases skipped with
        | zero => simpa using here
        | succ skipped =>
            have later := ih taken skipped (Nat.le_of_succ_le_succ bound)
            have shifted : last + 1 + UInt32.ofNat (skipped + 1) =
                last + 1 + 1 + UInt32.ofNat skipped := by
              rw [UInt32.ofNat_add]
              ac_rfl
            rwa [shifted]
      · next free => exact absurd taken free

/-- A pool that is smaller than the range of numbers leaves the next number free. -/
theorem numbered_nextNumber_not_mem {pool : Pool} (name : String) (room : pool.size < UInt32.size) :
    Placeholder.numbered name (pool.nextNumber name) ∉ pool := by
  intro taken
  let last := pool.lastNumbers.getD name 1
  let seen := (List.range (pool.size + 1)).map fun skipped =>
    Placeholder.numbered name (last + 1 + UInt32.ofNat skipped)
  have distinct : seen.Nodup := by
    refine List.Nodup.map_on ?_ List.nodup_range
    intro i iBound j jBound same
    rw [List.mem_range] at iBound jBound
    simp only [Placeholder.numbered, Placeholder.mk.injEq, Option.some.injEq, true_and] at same
    have words := congrArg UInt32.toNat (UInt32.add_right_inj _ |>.mp same)
    simp only [UInt32.toNat_ofNat'] at words
    rw [UInt32.size] at room
    omega
  have inside : seen ⊆ pool.members.toList := by
    intro placeholder here
    obtain ⟨skipped, bound, rfl⟩ := List.mem_map.mp here
    exact nextFree_taken taken skipped (Nat.le_of_lt_succ (List.mem_range.mp bound))
  have count := List.Nodup.length_le_of_subset distinct inside
  simp only [seen, List.length_map, List.length_range, Pool.size, OrderedSet.size] at count
  omega

@[simp] theorem fresh_name (pool : Pool) (name : String) : (pool.fresh name).1.name = name := by
  unfold fresh
  split <;> rfl

/-- A fresh placeholder was not in the pool. -/
theorem fresh_not_mem {pool : Pool} (name : String) (room : pool.size < UInt32.size) :
    (pool.fresh name).1 ∉ pool := by
  unfold fresh
  split
  · exact numbered_nextNumber_not_mem name room
  · next free => exact free

/-- Unless a pool is as large as the range of numbers, what it hands out is not in it. -/
theorem ne_fresh_of_mem {pool : Pool} {placeholder : Placeholder} (name : String)
    (room : pool.size < UInt32.size) (member : placeholder ∈ pool) : placeholder ≠ (pool.fresh name).1 := by
  rintro rfl
  exact fresh_not_mem name room member

@[simp] theorem mem_fresh {pool : Pool} {name : String} {placeholder : Placeholder} :
    placeholder ∈ (pool.fresh name).2 ↔ placeholder ∈ pool ∨ placeholder = (pool.fresh name).1 := by
  unfold fresh
  split
  · exact OrderedSet.mem_insert
  · exact OrderedSet.mem_insert

@[simp] theorem mem_create {pool : Pool} {name : String} {placeholder : Placeholder} :
    placeholder ∈ (pool.create name).2 ↔
      placeholder ∈ pool ∨ placeholder = Placeholder.canonical name :=
  OrderedSet.mem_insert

/-!
### Growth

A computation in a scope puts what it allocates after everything that was there.
-/

/-- The later pool is the earlier one with at most `count` placeholders added at its end. -/
def Extends (earlier later : Pool) (count : Nat) : Prop :=
  ∃ added, later.toList = earlier.toList ++ added ∧ added.length ≤ count

theorem Extends.refl (pool : Pool) : pool.Extends pool 0 := ⟨[], by simp, Nat.le_refl 0⟩

/-- Growth adds up. -/
theorem Extends.trans {first second third : Pool} {few more : Nat} (start : first.Extends second few)
    (finish : second.Extends third more) : first.Extends third (few + more) := by
  obtain ⟨added, same, bound⟩ := start
  obtain ⟨further, same', bound'⟩ := finish
  refine ⟨added ++ further, ?_, ?_⟩
  · rw [same', same, List.append_assoc]
  · rw [List.length_append]
    exact Nat.add_le_add bound bound'

theorem Extends.mono {earlier later : Pool} {few more : Nat} (grown : earlier.Extends later few)
    (bound : few ≤ more) : earlier.Extends later more := by
  obtain ⟨added, same, count⟩ := grown
  exact ⟨added, same, Nat.le_trans count bound⟩

theorem Extends.mem {earlier later : Pool} {count : Nat} (grown : earlier.Extends later count)
    {placeholder : Placeholder} (here : placeholder ∈ earlier) : placeholder ∈ later := by
  obtain ⟨added, same, _⟩ := grown
  have there : placeholder ∈ later.toList := same ▸ List.mem_append_left added here
  exact there

theorem Extends.size_le {earlier later : Pool} {count : Nat} (grown : earlier.Extends later count) :
    later.size ≤ earlier.size + count := by
  obtain ⟨added, same, bound⟩ := grown
  have lengths := congrArg List.length same
  rw [List.length_append] at lengths
  simp only [Pool.size, OrderedSet.size, Pool.toList] at lengths ⊢
  omega

/-- Room for what has been added is room that is left to the later pool. -/
theorem Extends.room {earlier later : Pool} {count more limit : Nat}
    (grown : earlier.Extends later count) (room : earlier.size + count + more < limit) :
    later.size + more < limit := by
  have bound := grown.size_le
  omega

theorem extends_insert (pool : Pool) (placeholder : Placeholder) :
    pool.Extends (pool.insert placeholder) 1 := by
  unfold Extends
  simp only [toList, insert, OrderedSet.toList_insert]
  split
  · exact ⟨[], by simp, Nat.zero_le 1⟩
  · exact ⟨[placeholder], rfl, Nat.le_refl 1⟩

theorem extends_create (pool : Pool) (name : String) : pool.Extends (pool.create name).2 1 :=
  extends_insert pool (Placeholder.canonical name)

theorem extends_fresh (pool : Pool) (name : String) : pool.Extends (pool.fresh name).2 1 := by
  unfold fresh
  split
  · exact extends_insert pool (Placeholder.numbered name (pool.nextNumber name))
  · exact extends_create pool name

end Pool

end StepWeaver
