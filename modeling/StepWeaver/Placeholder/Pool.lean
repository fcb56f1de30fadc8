/-
Module: StepWeaver.Placeholder.Pool
Layer: Placeholders
Purpose: Pools of placeholders: insertion-ordered sets that also allocate new members.
Main exports: Pool, Pool.create, Pool.fresh, Pool.merge, Pool.Equiv
-/
import Std.Data.ExtTreeMap
import StepWeaver.OrderedSet
import StepWeaver.Placeholder.Basic

namespace StepWeaver

/-- An insertion-ordered set of placeholders, with the last number handed out for each role. -/
structure Pool where
  /-- The placeholders of the pool, earliest first. -/
  members : OrderedSet Placeholder
  /-- For each role that has been given a number, the last number given. -/
  lastNumbers : Std.ExtTreeMap String UInt32
deriving Inhabited

namespace Pool

/-- The pool without placeholders. -/
def empty : Pool where
  members := ∅
  lastNumbers := ∅

instance : EmptyCollection Pool := ⟨empty⟩
instance : Membership Placeholder Pool := ⟨fun pool placeholder => placeholder ∈ pool.members⟩
instance (placeholder : Placeholder) (pool : Pool) : Decidable (placeholder ∈ pool) :=
  inferInstanceAs (Decidable (placeholder ∈ pool.members))

/-- The placeholders of the pool, earliest first. -/
def toList (pool : Pool) : List Placeholder := pool.members.toList

/-- The number of placeholders. -/
def size (pool : Pool) : Nat := pool.members.size

/-- Whether the pool has no placeholder. -/
def isEmpty (pool : Pool) : Bool := pool.members.isEmpty

/-- The canonical placeholder of a role, if the pool holds it. -/
def get? (pool : Pool) (name : String) : Option Placeholder :=
  if Placeholder.canonical name ∈ pool then some (Placeholder.canonical name) else none

/-- The placeholders of a list, each at its first occurrence, with no number handed out. -/
def ofList (placeholders : List Placeholder) : Pool :=
  { empty with members := OrderedSet.ofList placeholders }

/-- Adds a placeholder at the end unless the pool holds it. -/
def insert (pool : Pool) (placeholder : Placeholder) : Pool :=
  { pool with members := pool.members.insert placeholder }

/-- Adds placeholders one after the other. -/
def insertAll (pool : Pool) (placeholders : List Placeholder) : Pool :=
  { pool with members := pool.members.insertAll placeholders }

/-!
### Allocation

`create` gives the canonical placeholder of a role, the same one every time. `fresh` gives one that
the pool does not hold yet: the canonical placeholder if that is still free, and after that the next
number of the role which is free. Numbers are words of 32 bits, so the search counts modulo 2^32.
-/

/-- The canonical placeholder of a role, which the pool holds afterwards. -/
def create (pool : Pool) (name : String) : Placeholder × Pool :=
  (Placeholder.canonical name, pool.insert (Placeholder.canonical name))

/-- A pool that holds the canonical placeholder of each role. -/
def ofNames (names : List String) : Pool :=
  names.foldl (fun pool name => (pool.create name).2) ∅

/-- The first number after `last` that is free for a role, looking at `candidates` further numbers
    before it takes the one that follows them. -/
def nextFree (members : OrderedSet Placeholder) (name : String) :
    (candidates : Nat) → (last : UInt32) → UInt32
  | 0, last => last + 1
  | candidates + 1, last =>
    if Placeholder.numbered name (last + 1) ∈ members then
      nextFree members name candidates (last + 1)
    else
      last + 1

/-- The number that the next placeholder of a role gets: numbers start at 2 and are handed out in
    ascending order. A set of `n` members leaves one of any `n + 1` numbers free. -/
def nextNumber (pool : Pool) (name : String) : UInt32 :=
  nextFree pool.members name pool.members.size (pool.lastNumbers.getD name 1)

/-- A placeholder of a role that the pool did not hold, and the pool that holds it. -/
def fresh (pool : Pool) (name : String) : Placeholder × Pool :=
  if Placeholder.canonical name ∈ pool then
    let number := pool.nextNumber name
    let placeholder := Placeholder.numbered name number
    (placeholder,
      { members := pool.members.insert placeholder
        lastNumbers := pool.lastNumbers.insert name number })
  else
    pool.create name

-- Numbers start at 2, and a number that is taken is passed over.
example :
    let pool := Pool.ofList [.canonical "A", .numbered "A" 2]
    (pool.fresh "A").1 = .numbered "A" 3 ∧ (pool.fresh "B").1 = .canonical "B" := by decide +kernel

/-!
### Union
-/

/-- The later of the last numbers that two pools have handed out, role by role. -/
def laterNumbers (left right : Std.ExtTreeMap String UInt32) : Std.ExtTreeMap String UInt32 :=
  right.foldl
    (fun numbers name number =>
      numbers.alter name fun known => some (max (known.getD number) number))
    left

/-- Adds the placeholders of other pools, pool after pool; a number that one of them has handed out
    counts as handed out. -/
def merge (pool : Pool) (others : List Pool) : Pool :=
  others.foldl
    (fun merged other =>
      { members := merged.members.insertAll other.members.toList
        lastNumbers := laterNumbers merged.lastNumbers other.lastNumbers })
    pool

/-- The same placeholders, in whatever order and whatever numbers have been handed out. -/
def Equiv (left right : Pool) : Prop :=
  left.members.Equiv right.members

instance (left right : Pool) : Decidable (Equiv left right) :=
  inferInstanceAs (Decidable (left.members.Equiv right.members))

/-!
### What each operation does to the placeholders
-/

@[simp] theorem mem_members {pool : Pool} {placeholder : Placeholder} :
    placeholder ∈ pool.members ↔ placeholder ∈ pool := Iff.rfl

@[simp] theorem not_mem_empty (placeholder : Placeholder) : placeholder ∉ (∅ : Pool) :=
  OrderedSet.not_mem_empty placeholder

@[simp] theorem mem_insert {pool : Pool} {placeholder other : Placeholder} :
    other ∈ pool.insert placeholder ↔ other ∈ pool ∨ other = placeholder :=
  OrderedSet.mem_insert

@[simp] theorem mem_insertAll {pool : Pool} {placeholders : List Placeholder}
    {other : Placeholder} :
    other ∈ pool.insertAll placeholders ↔ other ∈ pool ∨ other ∈ placeholders :=
  OrderedSet.mem_insertAll

/-- The members of a union are the union of the members. -/
@[simp] theorem members_merge (pool : Pool) (others : List Pool) :
    (pool.merge others).members = pool.members.merge (others.map members) := by
  induction others generalizing pool with
  | nil => rfl
  | cons other others ih => exact ih _

end Pool

end StepWeaver
