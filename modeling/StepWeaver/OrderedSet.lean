/-
Module: StepWeaver.OrderedSet
Layer: Data
Purpose: Finite sets that remember the order in which their members arrived.
Main exports: OrderedSet, OrderedSet.insert, OrderedSet.insertAll, OrderedSet.merge,
  OrderedSet.Equiv
-/
namespace StepWeaver

/-- A set listed in order of arrival. Two sets are equal when their lists are; `Equiv` compares the
    members alone. -/
@[ext]
structure OrderedSet (α : Type) where
  /-- The members, earliest first. -/
  toList : List α
  /-- No member is listed twice. -/
  nodup : toList.Nodup

namespace OrderedSet

variable {α : Type}

/-- The set without members. -/
def empty : OrderedSet α where
  toList := []
  nodup := List.nodup_nil

instance : EmptyCollection (OrderedSet α) := ⟨empty⟩
instance : Inhabited (OrderedSet α) := ⟨empty⟩
instance : Membership α (OrderedSet α) := ⟨fun set a => a ∈ set.toList⟩

@[simp] theorem mem_toList {set : OrderedSet α} {a : α} : a ∈ set.toList ↔ a ∈ set := Iff.rfl
@[simp] theorem toList_empty : (∅ : OrderedSet α).toList = [] := rfl
@[simp] theorem not_mem_empty (a : α) : a ∉ (∅ : OrderedSet α) := List.not_mem_nil

/-- The number of members. -/
def size (set : OrderedSet α) : Nat := set.toList.length

/-- Whether the set has no member. -/
def isEmpty (set : OrderedSet α) : Bool := set.toList.isEmpty

variable [DecidableEq α]

instance (a : α) (set : OrderedSet α) : Decidable (a ∈ set) :=
  inferInstanceAs (Decidable (a ∈ set.toList))

/-- Adds a member at the end; a member that is there already keeps its place. -/
def insert (set : OrderedSet α) (a : α) : OrderedSet α :=
  if h : a ∈ set then set
  else
    { toList := set.toList ++ [a]
      nodup := List.nodup_append.mpr
        ⟨set.nodup, by simp, fun x hx y hy hxy => h (by simp_all)⟩ }

/-- Adds members one after the other. -/
def insertAll (set : OrderedSet α) (members : List α) : OrderedSet α :=
  members.foldl insert set

/-- The members of a list, each at its first occurrence. -/
def ofList (members : List α) : OrderedSet α :=
  insertAll ∅ members

/-- Adds the members of other sets, set after set. -/
def merge (set : OrderedSet α) (others : List (OrderedSet α)) : OrderedSet α :=
  others.foldl (fun merged other => merged.insertAll other.toList) set

/-- The same members, in whatever order. -/
def Equiv (left right : OrderedSet α) : Prop :=
  ∀ a, a ∈ left ↔ a ∈ right

instance (left right : OrderedSet α) : Decidable (Equiv left right) :=
  decidable_of_iff ((∀ a ∈ left.toList, a ∈ right) ∧ ∀ a ∈ right.toList, a ∈ left)
    ⟨fun h a => ⟨h.1 a, h.2 a⟩, fun h => ⟨fun a => (h a).mp, fun a => (h a).mpr⟩⟩

/-!
### What each operation does to the list and to the members
-/

/-- A new member is listed last, and an old one keeps its place. -/
theorem toList_insert (set : OrderedSet α) (a : α) :
    (set.insert a).toList = if a ∈ set then set.toList else set.toList ++ [a] := by
  unfold insert
  split <;> rfl

@[simp] theorem mem_insert {set : OrderedSet α} {a b : α} :
    b ∈ set.insert a ↔ b ∈ set ∨ b = a := by
  rw [← mem_toList, toList_insert]
  split <;> simp_all

@[simp] theorem insertAll_nil (set : OrderedSet α) : set.insertAll [] = set := rfl

@[simp] theorem insertAll_cons (set : OrderedSet α) (a : α) (members : List α) :
    set.insertAll (a :: members) = (set.insert a).insertAll members := rfl

@[simp] theorem mem_insertAll {set : OrderedSet α} {members : List α} {b : α} :
    b ∈ set.insertAll members ↔ b ∈ set ∨ b ∈ members := by
  induction members generalizing set with
  | nil => simp
  | cons a members ih => simp [ih, or_assoc]

@[simp] theorem mem_ofList {members : List α} {b : α} : b ∈ ofList members ↔ b ∈ members := by
  simp [ofList]

@[simp] theorem merge_nil (set : OrderedSet α) : set.merge [] = set := rfl

@[simp] theorem merge_cons (set other : OrderedSet α) (others : List (OrderedSet α)) :
    set.merge (other :: others) = (set.insertAll other.toList).merge others := rfl

/-- A union has the members of all its parts. -/
@[simp] theorem mem_merge {set : OrderedSet α} {others : List (OrderedSet α)} {b : α} :
    b ∈ set.merge others ↔ b ∈ set ∨ ∃ other ∈ others, b ∈ other := by
  induction others generalizing set with
  | nil => simp
  | cons other others ih => simp [ih, or_assoc]

end OrderedSet

end StepWeaver
