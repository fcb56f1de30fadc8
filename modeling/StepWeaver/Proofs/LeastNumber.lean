/-
Module: StepWeaver.Proofs.LeastNumber
Layer: Proofs
Purpose: Which number a fresh placeholder gets. A counter of a pool only remembers how far a search has
  come: every number up to it is taken (`Pool.Sound`). All operations keep this, also a union, which
  takes the later of two counters, and an insertion, which leaves the counters alone. So the search,
  wherever it starts, ends at the first free number, and what a pool allocates is determined by its
  members.
Main exports: Pool.turn, Pool.Filled, Pool.numberedOf, Pool.Sound, Pool.Reachable,
  Pool.Reachable.sound, Pool.nextNumber_eq, Pool.CountsTo, Pool.Sound.isLeast_nextNumber,
  Pool.Sound.countsTo_nextNumber, Pool.HasFree, Pool.fresh_congr
-/
import Mathlib.Data.List.Nodup
import Mathlib.Order.Bounds.Basic
import Mathlib.Order.WellFounded
import StepWeaver.Proofs.Allocation
import StepWeaver.Proofs.Merging

namespace StepWeaver.Pool

/-!
### The order in which numbers are tried

The first search for a role starts at 2. It would come to 0 and 1 only after all other words of 32 bits,
so a number is best compared with others by the turn at which it is tried.
-/

/-- The turn at which a number is tried. -/
def turn (number : UInt32) : Nat := (number - 2).toNat

theorem turn_lt (number : UInt32) : turn number < UInt32.size := (number - 2).toNat_lt_size

theorem turn_injective : Function.Injective turn := by
  intro left right same
  exact UInt32.sub_left_inj 2 |>.mp (UInt32.toNat_inj.mp same)

/-- A search that has not come round yet tries the next number at the next turn. -/
theorem turn_add_one {number : UInt32} (before : turn number + 1 < UInt32.size) :
    turn (number + 1) = turn number + 1 := by
  simp only [turn, UInt32.toNat_sub, UInt32.toNat_add, UInt32.reduceToNat, UInt32.size] at before ⊢
  omega

theorem turn_ofNat {n : Nat} (bound : n < UInt32.size) : turn (UInt32.ofNat n + 2) = n := by
  simp only [turn, UInt32.add_sub_cancel, UInt32.toNat_ofNat']
  exact Nat.mod_eq_of_lt bound

/-- From 2 on, numbers are tried in ascending order, and before 0 and 1. -/
theorem turn_of_le {number : UInt32} (regular : 2 ≤ number) : turn number = number.toNat - 2 := by
  rw [UInt32.le_iff_toNat_le] at regular
  have bound := number.toNat_lt
  simp only [turn, UInt32.toNat_sub, UInt32.reduceToNat] at regular ⊢
  omega

/-- Only 0 and 1 are tried at the last two turns. -/
theorem le_of_turn_lt {number : UInt32} (early : turn number < UInt32.size - 2) : 2 ≤ number := by
  have bound := number.toNat_lt
  rw [UInt32.le_iff_toNat_le]
  simp only [turn, UInt32.toNat_sub, UInt32.reduceToNat, UInt32.size] at early ⊢
  omega

/-!
### Numbers that are taken
-/

/-- The numbers of the first `count` turns are all taken. -/
def Filled (pool : Pool) (name : String) (count : Nat) : Prop :=
  ∀ number, turn number < count → Placeholder.numbered name number ∈ pool

/-- The placeholders of a role that carry a number. -/
def numberedOf (pool : Pool) (name : String) : List Placeholder :=
  pool.toList.filter fun placeholder => placeholder.name = name ∧ placeholder.number.isSome

theorem mem_numberedOf {pool : Pool} {name : String} {number : UInt32} :
    Placeholder.numbered name number ∈ pool.numberedOf name ↔
      Placeholder.numbered name number ∈ pool := by
  have carries : (Placeholder.numbered name number).name = name ∧
      (Placeholder.numbered name number).number.isSome := ⟨rfl, rfl⟩
  rw [numberedOf, List.mem_filter, decide_eq_true carries, and_iff_left rfl]
  exact Iff.rfl

theorem Filled.mono {earlier later : Pool} {name : String} {count : Nat}
    (filled : earlier.Filled name count) (grown : ∀ placeholder ∈ earlier, placeholder ∈ later) :
    later.Filled name count :=
  fun number early => grown _ (filled number early)

/-- A free number comes after all turns that are filled. -/
theorem Filled.turn_le {pool : Pool} {name : String} {count : Nat} (filled : pool.Filled name count)
    {number : UInt32} (free : Placeholder.numbered name number ∉ pool) : count ≤ turn number :=
  Nat.le_of_not_lt fun early => free (filled number early)

/-- Different turns need different placeholders. -/
theorem Filled.le_length {pool : Pool} {name : String} {count : Nat} (filled : pool.Filled name count)
    (bound : count ≤ UInt32.size) : count ≤ (pool.numberedOf name).length := by
  let taken := (List.range count).map fun n => Placeholder.numbered name (UInt32.ofNat n + 2)
  have distinct : taken.Nodup := by
    refine List.Nodup.map_on ?_ List.nodup_range
    intro i iBound j jBound same
    rw [List.mem_range] at iBound jBound
    have numbers : UInt32.ofNat i + 2 = UInt32.ofNat j + 2 := by
      simpa [Placeholder.numbered] using same
    have turns := congrArg turn numbers
    rwa [turn_ofNat (Nat.lt_of_lt_of_le iBound bound),
      turn_ofNat (Nat.lt_of_lt_of_le jBound bound)] at turns
  have inside : taken ⊆ pool.numberedOf name := by
    intro placeholder member
    obtain ⟨n, early, rfl⟩ := List.mem_map.mp member
    rw [List.mem_range] at early
    refine mem_numberedOf.mpr (filled _ ?_)
    rwa [turn_ofNat (Nat.lt_of_lt_of_le early bound)]
  have fits := distinct.length_le_of_subset inside
  rwa [List.length_map, List.length_range] at fits

/-- If any number is free, one of them is tried first. -/
theorem exists_first_free {pool : Pool} {name : String} {number : UInt32}
    (free : Placeholder.numbered name number ∉ pool) :
    ∃ first, Placeholder.numbered name first ∉ pool ∧ pool.Filled name (turn first) := by
  obtain ⟨first, isFree, least⟩ := (measure turn).wf.has_min
    { number | Placeholder.numbered name number ∉ pool } ⟨number, free⟩
  refine ⟨first, isFree, ?_⟩
  intro other earlier
  by_contra otherFree
  exact least other otherFree earlier

/-!
### The search

The induction is on the numbers still to be looked at. What carries it is that the first free number is
not behind the search, and not further ahead than there are numbers to look at.
-/

/-- From any place before it, the search ends at the first free number. -/
theorem nextFree_eq {pool : Pool} {name : String} {candidates : Nat} {last number : UInt32}
    (free : Placeholder.numbered name number ∉ pool) (filled : pool.Filled name (turn number))
    (ahead : turn (last + 1) ≤ turn number) (near : turn number ≤ turn (last + 1) + candidates) :
    nextFree pool.members name candidates last = number := by
  induction candidates generalizing last with
  | zero => exact turn_injective (Nat.le_antisymm ahead near)
  | succ candidates ih =>
      rw [nextFree]
      simp only [mem_members]
      by_cases here : last + 1 = number
      · rw [here, if_neg free]
      · have passed : turn (last + 1) < turn number :=
          Nat.lt_of_le_of_ne ahead fun same => here (turn_injective same)
        have next : turn (last + 1 + 1) = turn (last + 1) + 1 := by
          apply turn_add_one
          have bound := turn_lt number
          omega
        rw [if_pos (filled (last + 1) passed)]
        apply ih
        · omega
        · omega

/-!
### Counters
-/

/-- Every number up to the last one handed out for a role is taken. -/
def Sound (pool : Pool) : Prop :=
  ∀ name last, pool.lastNumbers[name]? = some last → pool.Filled name (turn last + 1)

/-- A search never starts behind the first free number. -/
theorem Sound.ahead {pool : Pool} (sound : pool.Sound) {name : String} {number : UInt32}
    (free : Placeholder.numbered name number ∉ pool) :
    turn (pool.lastNumbers.getD name 1 + 1) ≤ turn number := by
  rw [Std.ExtTreeMap.getD_eq_getD_getElem?]
  cases counter : pool.lastNumbers[name]? with
  | none => exact Nat.zero_le (turn number)
  | some last =>
      have later := (sound name last counter).turn_le free
      have bound := turn_lt number
      rw [Option.getD_some, turn_add_one (by omega)]
      exact later

/-- The counter of a sound pool only skips numbers that are taken, so it has no influence on the result. -/
theorem nextNumber_eq {pool : Pool} (sound : pool.Sound) {name : String} {number : UInt32}
    (free : Placeholder.numbered name number ∉ pool) (filled : pool.Filled name (turn number)) :
    pool.nextNumber name = number := by
  refine nextFree_eq free filled (sound.ahead free) ?_
  have taken := filled.le_length (Nat.le_of_lt (turn_lt number))
  have some : (pool.numberedOf name).length ≤ pool.members.size := List.length_filter_le _ _
  omega

/-- A number that is tried before the next one, or is that one, is taken or about to be. -/
theorem Sound.eq_or_mem {pool : Pool} (sound : pool.Sound) {name : String} {number : UInt32}
    (early : turn number ≤ turn (pool.nextNumber name)) :
    number = pool.nextNumber name ∨ Placeholder.numbered name number ∈ pool := by
  by_contra neither
  obtain ⟨other, free⟩ := not_or.mp neither
  obtain ⟨first, firstFree, filled⟩ := exists_first_free free
  rw [nextNumber_eq sound firstFree filled] at early other
  have apart : turn number ≠ turn first := fun same => other (turn_injective same)
  exact free (filled number (by omega))

/-!
### What the operations do to the counters
-/

/-- More members under the same counters do no harm. -/
theorem Sound.of_lastNumbers_eq {earlier later : Pool} (sound : earlier.Sound)
    (same : later.lastNumbers = earlier.lastNumbers)
    (grown : ∀ placeholder ∈ earlier, placeholder ∈ later) : later.Sound := by
  intro name last counter
  rw [same] at counter
  exact (sound name last counter).mono grown

/-- A pool that has not counted yet has skipped nothing. -/
theorem sound_of_isEmpty {pool : Pool} (none : pool.lastNumbers = ∅) : pool.Sound := by
  intro name last counter
  rw [none, Std.ExtTreeMap.getElem?_empty] at counter
  cases counter

theorem lastNumbers_ofNames (names : List String) : (ofNames names).lastNumbers = ∅ := by
  have kept (pool : Pool) :
      (names.foldl (fun pool name => (pool.create name).2) pool).lastNumbers = pool.lastNumbers := by
    induction names generalizing pool with
    | nil => rfl
    | cons name names ih => exact ih (pool.create name).2
  exact kept ∅

/-- An insertion leaves the counters alone. -/
theorem Sound.insert {pool : Pool} (sound : pool.Sound) (placeholder : Placeholder) :
    (pool.insert placeholder).Sound :=
  sound.of_lastNumbers_eq rfl fun _ member => mem_insert.mpr (Or.inl member)

/-- The number that a search ends at is the first free one, so all numbers up to the new counter are
    taken. -/
theorem Sound.fresh {pool : Pool} (sound : pool.Sound) (name : String) :
    (pool.fresh name).2.Sound := by
  have grown : ∀ placeholder ∈ pool, placeholder ∈ (pool.fresh name).2 :=
    fun _ member => mem_fresh.mpr (Or.inl member)
  by_cases canonical : Placeholder.canonical name ∈ pool
  · have result : pool.fresh name = (Placeholder.numbered name (pool.nextNumber name), _) :=
      if_pos canonical
    intro other last counter
    rw [result, Std.ExtTreeMap.getElem?_insert] at counter
    split at counter
    · next same =>
      obtain rfl := Std.LawfulEqCmp.eq_of_compare same
      obtain rfl := Option.some.inj counter
      intro number early
      rcases sound.eq_or_mem (Nat.le_of_lt_succ early) with rfl | taken
      · exact mem_fresh.mpr (Or.inr (by rw [result]))
      · exact grown _ taken
    · exact (sound other last counter).mono grown
  · have kept : (pool.fresh name).2.lastNumbers = pool.lastNumbers := by
      rw [Pool.fresh, if_neg canonical]
      rfl
    exact sound.of_lastNumbers_eq kept grown

theorem max_eq_or (left right : UInt32) : max left right = left ∨ max left right = right := by
  by_cases ordered : left ≤ right
  · exact Or.inr (if_pos ordered)
  · exact Or.inl (if_neg ordered)

/-- The later of two counters is one of the two. -/
theorem getElem?_of_laterNumbers {left right : Std.ExtTreeMap String UInt32} {name : String}
    {last : UInt32} (counter : (laterNumbers left right)[name]? = some last) :
    left[name]? = some last ∨ right[name]? = some last := by
  rw [getElem?_laterNumbers] at counter
  cases own : left[name]? with
  | none =>
      rw [own, Option.merge_none_left] at counter
      exact Or.inr counter
  | some first =>
      cases added : right[name]? with
      | none =>
          rw [own, added, Option.merge_none_right] at counter
          exact Or.inl counter
      | some second =>
          rw [own, added, Option.merge_some_some] at counter
          obtain rfl := Option.some.inj counter
          rcases max_eq_or first second with old | new
          · exact Or.inl (congrArg some old.symm)
          · exact Or.inr (congrArg some new.symm)

/-- A union takes the later of two counters, and has the members of the pool that counted so far. -/
theorem Sound.merge {pool : Pool} (sound : pool.Sound) {others : List Pool}
    (othersSound : ∀ other ∈ others, other.Sound) : (pool.merge others).Sound := by
  induction others generalizing pool with
  | nil => exact sound
  | cons other others ih =>
      obtain ⟨otherSound, rest⟩ := List.forall_mem_cons.mp othersSound
      refine ih ?_ rest
      intro name last counter
      rcases getElem?_of_laterNumbers counter with own | added
      · exact (sound name last own).mono fun _ member =>
          OrderedSet.mem_insertAll.mpr (Or.inl member)
      · exact (otherSound name last added).mono fun _ member =>
          OrderedSet.mem_insertAll.mpr (Or.inr member)

/-- The pools that can be made, whatever placeholders are put into them. -/
inductive Reachable : Pool → Prop
  | empty : Reachable ∅
  | ofNames (names : List String) : Reachable (ofNames names)
  | ofList (placeholders : List Placeholder) : Reachable (ofList placeholders)
  | create {pool : Pool} (reachable : Reachable pool) (name : String) :
      Reachable (pool.create name).2
  | fresh {pool : Pool} (reachable : Reachable pool) (name : String) :
      Reachable (pool.fresh name).2
  | insert {pool : Pool} (reachable : Reachable pool) (placeholder : Placeholder) :
      Reachable (pool.insert placeholder)
  | merge {pool : Pool} (reachable : Reachable pool) {others : List Pool}
      (othersReachable : ∀ other ∈ others, Reachable other) : Reachable (pool.merge others)

/-- Nothing that can be done to pools makes a counter skip a free number. -/
theorem Reachable.sound {pool : Pool} (reachable : pool.Reachable) : pool.Sound := by
  induction reachable with
  | empty => exact sound_of_isEmpty rfl
  | ofNames names => exact sound_of_isEmpty (lastNumbers_ofNames names)
  | ofList placeholders => exact sound_of_isEmpty rfl
  | create _ name ih => exact ih.insert (Placeholder.canonical name)
  | fresh _ name ih => exact ih.fresh name
  | insert _ placeholder ih => exact ih.insert placeholder
  | merge _ _ ih othersIh => exact ih.merge othersIh

/-!
### The least free number

As long as a role has not used up the numbers from 2 on, the search ends at the least free one of them,
and it only ever adds one to a number that is not the largest.
-/

/-- Counting up from `last` ends at `number`: all numbers on the way are taken, `number` is free, and
    no step goes beyond the largest word. -/
inductive CountsTo (pool : Pool) (name : String) : UInt32 → UInt32 → Prop
  | found {last : UInt32} (below : last.toNat + 1 < UInt32.size)
      (free : Placeholder.numbered name (last + 1) ∉ pool) : CountsTo pool name last (last + 1)
  | passed {last number : UInt32} (below : last.toNat + 1 < UInt32.size)
      (taken : Placeholder.numbered name (last + 1) ∈ pool)
      (rest : CountsTo pool name (last + 1) number) : CountsTo pool name last number

theorem toNat_add_one {number : UInt32} (below : number.toNat + 1 < UInt32.size) :
    (number + 1).toNat = number.toNat + 1 := by
  rw [UInt32.toNat_add, UInt32.toNat_one]
  exact Nat.mod_eq_of_lt below

/-- Below the largest word, a search goes up by one until a number is free. -/
theorem countsTo_of_lt {pool : Pool} {name : String} {last number : UInt32}
    (before : last.toNat < number.toNat) (free : Placeholder.numbered name number ∉ pool)
    (taken : ∀ other, last < other → other < number → Placeholder.numbered name other ∈ pool) :
    pool.CountsTo name last number := by
  obtain ⟨distance, gap⟩ := Nat.exists_eq_add_of_lt before
  have bound := number.toNat_lt_size
  induction distance generalizing last with
  | zero =>
      have below : last.toNat + 1 < UInt32.size := by omega
      have here : last + 1 = number := UInt32.toNat_inj.mp ((toNat_add_one below).trans gap.symm)
      rw [← here] at free ⊢
      exact .found below free
  | succ distance ih =>
      have below : last.toNat + 1 < UInt32.size := by omega
      have next := toNat_add_one below
      have passes : last < last + 1 := UInt32.lt_iff_toNat_lt.mpr (by omega)
      have early : last + 1 < number := UInt32.lt_iff_toNat_lt.mpr (by omega)
      refine .passed below (taken (last + 1) passes early) (ih ?_ ?_ ?_)
      · omega
      · intro other after
        exact taken other (UInt32.lt_trans passes after)
      · omega

/-- Fewer placeholders than turns leave the number of one of these turns free. -/
theorem exists_free_of_length_lt {pool : Pool} {name : String} {count : Nat} (bound : count ≤ UInt32.size)
    (few : (pool.numberedOf name).length < count) :
    ∃ number, turn number < count ∧ Placeholder.numbered name number ∉ pool := by
  by_contra none
  have filled : pool.Filled name count := by
    intro number early
    by_contra free
    exact none ⟨number, early, free⟩
  exact absurd (filled.le_length bound) (Nat.not_le_of_lt few)

/-- A role with few enough numbers has a free one before the search would come to 0 and 1. -/
theorem exists_first_regular {pool : Pool} {name : String}
    (few : (pool.numberedOf name).length < UInt32.size - 2) :
    ∃ first, turn first < UInt32.size - 2 ∧ Placeholder.numbered name first ∉ pool ∧
      pool.Filled name (turn first) := by
  obtain ⟨number, early, free⟩ := exists_free_of_length_lt (by omega) few
  obtain ⟨first, firstFree, filled⟩ := exists_first_free free
  exact ⟨first, Nat.lt_of_le_of_lt (filled.turn_le free) early, firstFree, filled⟩

/-- Among the numbers from 2 on, the earlier turn belongs to the smaller number. -/
theorem Filled.mem_of_lt {pool : Pool} {name : String} {number other : UInt32}
    (filled : pool.Filled name (turn number)) (regular : 2 ≤ other) (before : other < number) :
    Placeholder.numbered name other ∈ pool := by
  refine filled other ?_
  rw [turn_of_le regular, turn_of_le (UInt32.le_trans regular (UInt32.le_of_lt before))]
  have two : 2 ≤ other.toNat := UInt32.le_iff_toNat_le.mp regular
  have less := UInt32.lt_iff_toNat_lt.mp before
  omega

/-- The number of a fresh placeholder is the least free one from 2 on. -/
theorem Sound.isLeast_nextNumber {pool : Pool} (sound : pool.Sound) {name : String}
    (few : (pool.numberedOf name).length < UInt32.size - 2) :
    IsLeast { number | 2 ≤ number ∧ Placeholder.numbered name number ∉ pool }
      (pool.nextNumber name) := by
  obtain ⟨first, early, free, filled⟩ := exists_first_regular few
  rw [nextNumber_eq sound free filled]
  refine ⟨⟨le_of_turn_lt early, free⟩, ?_⟩
  rintro other ⟨regular, otherFree⟩
  by_contra before
  exact otherFree (filled.mem_of_lt regular (UInt32.not_le.mp before))

/-- The search gets there by counting up, and does not come round. -/
theorem Sound.countsTo_nextNumber {pool : Pool} (sound : pool.Sound) {name : String}
    (few : (pool.numberedOf name).length < UInt32.size - 2) :
    pool.CountsTo name (pool.lastNumbers.getD name 1) (pool.nextNumber name) := by
  obtain ⟨first, early, free, filled⟩ := exists_first_regular few
  have ahead := sound.ahead free
  rw [nextNumber_eq sound free filled]
  generalize pool.lastNumbers.getD name 1 = last at ahead ⊢
  -- The number after the counter is from 2 on, so adding one to the counter did not wrap around.
  have startRegular := le_of_turn_lt (Nat.lt_of_le_of_lt ahead early)
  have regular := le_of_turn_lt early
  rw [turn_of_le regular, turn_of_le startRegular, UInt32.toNat_add, UInt32.toNat_one] at ahead
  rw [UInt32.le_iff_toNat_le, UInt32.toNat_add, UInt32.toNat_one] at startRegular
  rw [UInt32.le_iff_toNat_le] at regular
  simp only [UInt32.reduceToNat] at startRegular regular
  have bound := last.toNat_lt
  refine countsTo_of_lt (by omega) free ?_
  intro other after before
  have otherRegular : 2 ≤ other := by
    rw [UInt32.lt_iff_toNat_lt] at after
    rw [UInt32.le_iff_toNat_le]
    simp only [UInt32.reduceToNat]
    omega
  exact filled.mem_of_lt otherRegular before

/-!
### Allocation is determined by the members
-/

/-- Some placeholder of the role is not in the pool: the one without a number, or one of the 2^32 that
    carry one. Without such a placeholder a search has no end. -/
def HasFree (pool : Pool) (name : String) : Prop :=
  Placeholder.canonical name ∉ pool ∨ (pool.numberedOf name).length < UInt32.size

instance (pool : Pool) (name : String) : Decidable (pool.HasFree name) :=
  inferInstanceAs (Decidable (_ ∨ _))

/-- The two pools hold the same placeholders of a role. -/
def SameRole (name : String) (left right : Pool) : Prop :=
  ∀ placeholder : Placeholder, placeholder.name = name → (placeholder ∈ left ↔ placeholder ∈ right)

theorem SameRole.length_eq {name : String} {left right : Pool} (same : SameRole name left right) :
    (left.numberedOf name).length = (right.numberedOf name).length := by
  refine List.Perm.length_eq ((List.perm_ext_iff_of_nodup ?_ ?_).mpr ?_)
  · exact left.members.nodup.filter _
  · exact right.members.nodup.filter _
  · intro placeholder
    simp only [numberedOf, List.mem_filter, decide_eq_true_eq]
    constructor
    · rintro ⟨member, named, numbered⟩
      exact ⟨(same placeholder named).mp member, named, numbered⟩
    · rintro ⟨member, named, numbered⟩
      exact ⟨(same placeholder named).mpr member, named, numbered⟩

/-- Whether a role has a free number is decided by its placeholders. -/
theorem SameRole.hasFree_iff {name : String} {left right : Pool} (same : SameRole name left right) :
    left.HasFree name ↔ right.HasFree name := by
  unfold HasFree
  rw [same.length_eq, same (Placeholder.canonical name) rfl]

/-- What is allocated for a role depends on the placeholders of that role alone, not on how far the
    counters of the pool have come. -/
theorem fresh_congr {name : String} {left right : Pool} (leftSound : left.Sound)
    (rightSound : right.Sound) (same : SameRole name left right) (free : left.HasFree name) :
    (left.fresh name).1 = (right.fresh name).1 := by
  have canonicals := same (Placeholder.canonical name) rfl
  by_cases canonical : Placeholder.canonical name ∈ left
  · have few := free.resolve_left (not_not.mpr canonical)
    obtain ⟨number, _, isFree⟩ := exists_free_of_length_lt (Nat.le_refl _) few
    obtain ⟨first, firstFree, filled⟩ := exists_first_free isFree
    have firstFree' : Placeholder.numbered name first ∉ right :=
      fun member => firstFree ((same _ rfl).mpr member)
    have filled' : right.Filled name (turn first) :=
      fun number early => (same _ rfl).mp (filled number early)
    rw [fresh, if_pos canonical, fresh, if_pos (canonicals.mp canonical),
      nextNumber_eq leftSound firstFree filled, nextNumber_eq rightSound firstFree' filled']
  · have absent : Placeholder.canonical name ∉ right := fun member => canonical (canonicals.mpr member)
    rw [fresh, if_neg canonical, fresh, if_neg absent]
    rfl

end StepWeaver.Pool
