/-
Module: StepWeaver.Proofs.Merging
Layer: Proofs
Purpose: The algebra of unions in order of arrival. A union lists what the sets list, one after the other,
  each member at its first occurrence. Unions may be grouped at will, also those of pools, whose counters
  end at the latest number that any of the pools has handed out. A union with itself changes nothing, and
  the order of two sets matters for the order of the union only.
Main exports: OrderedSet.toList_insertAll, OrderedSet.toList_merge, OrderedSet.insertAll_insertAll,
  Pool.getElem?_laterNumbers, Pool.merge_merge, Linkage.merge_merge, Linkage.empty_merge,
  Linkage.merge_empty, UnionLaws, unions_in_order_of_arrival
-/
import StepWeaver.Fragment.Linkage

namespace StepWeaver

/-!
### Ordered sets
-/

namespace OrderedSet

variable {α : Type} [DecidableEq α]

theorem eraseDups_of_nodup {members : List α} (nodup : members.Nodup) : members.eraseDups = members := by
  induction members with
  | nil => rfl
  | cons a members ih =>
      obtain ⟨absent, rest⟩ := List.nodup_cons.mp nodup
      have kept : members.filter (fun b => !b == a) = members := by
        apply List.filter_eq_self.mpr
        intro b member
        have differs : b ≠ a := fun same => absent (same ▸ member)
        simpa using differs
      rw [List.eraseDups_cons, kept, ih rest]

/-- A set lists the members that are added to it after its own, each at its first occurrence. -/
theorem toList_insertAll (set : OrderedSet α) (members : List α) :
    (set.insertAll members).toList = (set.toList ++ members).eraseDups := by
  induction members generalizing set with
  | nil => rw [insertAll_nil, List.append_nil, eraseDups_of_nodup set.nodup]
  | cons a members ih =>
      rw [insertAll_cons, ih, toList_insert]
      split
      · next member =>
        have listed : set.toList.contains a = true := List.contains_iff_mem.mpr member
        rw [List.eraseDups_append, List.eraseDups_append, List.cons_removeAll, listed]
        rfl
      · rw [List.append_assoc, List.singleton_append]

theorem insertAll_append (set : OrderedSet α) (first second : List α) :
    set.insertAll (first ++ second) = (set.insertAll first).insertAll second :=
  List.foldl_append

/-- A union inserts the members of the others one by one, in order. -/
theorem merge_eq_insertAll (set : OrderedSet α) (others : List (OrderedSet α)) :
    set.merge others = set.insertAll (others.flatMap toList) := by
  induction others generalizing set with
  | nil => rfl
  | cons other others ih => rw [merge_cons, ih, List.flatMap_cons, insertAll_append]

/-- A union lists members in the order in which they first arrive. -/
theorem toList_merge (set : OrderedSet α) (others : List (OrderedSet α)) :
    (set.merge others).toList = (set.toList ++ others.flatMap toList).eraseDups := by
  rw [merge_eq_insertAll, toList_insertAll]

theorem insert_of_mem {set : OrderedSet α} {a : α} (member : a ∈ set) : set.insert a = set := by
  apply OrderedSet.ext
  rw [toList_insert, if_pos member]

/-- The last member of a set is also the last one to be inserted elsewhere. -/
theorem insertAll_toList_insert (set other : OrderedSet α) (a : α) :
    set.insertAll (other.insert a).toList = (set.insertAll other.toList).insert a := by
  rw [toList_insert]
  split
  · next member =>
    have there : a ∈ set.insertAll other.toList := mem_insertAll.mpr (Or.inr member)
    rw [insert_of_mem there]
  · rw [insertAll_append]
    rfl

/-- What has been added to one set may be added to another one as a whole. -/
theorem insertAll_insertAll (set other : OrderedSet α) (members : List α) :
    set.insertAll (other.insertAll members).toList =
      (set.insertAll other.toList).insertAll members := by
  induction members generalizing other with
  | nil => rfl
  | cons a members ih => rw [insertAll_cons, ih, insertAll_toList_insert, insertAll_cons]

/-- A set is what its own list of members builds up. -/
theorem empty_insertAll (set : OrderedSet α) : (∅ : OrderedSet α).insertAll set.toList = set := by
  apply OrderedSet.ext
  rw [toList_insertAll, toList_empty, List.nil_append, eraseDups_of_nodup set.nodup]

end OrderedSet

/-!
### Counters
-/

namespace Pool

theorem max_eq_ite (left right : UInt32) : max left right = if left ≤ right then right else left := rfl

/-- The later of three counters does not depend on how they are grouped. -/
theorem max_assoc (first second third : UInt32) :
    max (max first second) third = max first (max second third) := by
  simp only [max_eq_ite, UInt32.le_iff_toNat_le]
  grind

/-- Counters of other roles do not matter. -/
theorem getElem?_foldl_alter_of_not_mem {entries : List (String × UInt32)} {name : String}
    (absent : name ∉ entries.map Prod.fst) (numbers : Std.ExtTreeMap String UInt32) :
    (entries.foldl (fun numbers entry => numbers.alter entry.1 fun known =>
      some (max (known.getD entry.2) entry.2)) numbers)[name]? = numbers[name]? := by
  induction entries generalizing numbers with
  | nil => rfl
  | cons entry entries ih =>
      rw [List.map_cons, List.mem_cons, not_or] at absent
      have differs : compare entry.1 name ≠ .eq :=
        fun same => absent.1 (Std.LawfulEqCmp.eq_of_compare same).symm
      rw [List.foldl_cons, ih absent.2, Std.ExtTreeMap.getElem?_alter, if_neg differs]

/-- A name that is listed once is altered once, whatever stands around it. -/
theorem getElem?_foldl_alter_of_mem {entries : List (String × UInt32)}
    (distinct : (entries.map Prod.fst).Nodup) {name : String} {number : UInt32}
    (member : (name, number) ∈ entries) (numbers : Std.ExtTreeMap String UInt32) :
    (entries.foldl (fun numbers entry => numbers.alter entry.1 fun known =>
        some (max (known.getD entry.2) entry.2)) numbers)[name]? =
      some (max (numbers[name]?.getD number) number) := by
  induction entries generalizing numbers with
  | nil => exact absurd member List.not_mem_nil
  | cons entry entries ih =>
      rw [List.map_cons, List.nodup_cons] at distinct
      rw [List.foldl_cons]
      rcases List.mem_cons.mp member with rfl | later
      · rw [getElem?_foldl_alter_of_not_mem distinct.1, Std.ExtTreeMap.getElem?_alter,
          if_pos Std.ReflCmp.compare_self]
      · have differs : compare entry.1 name ≠ .eq := by
          intro same
          rw [Std.LawfulEqCmp.eq_of_compare same] at distinct
          exact distinct.1 (List.mem_map.mpr ⟨_, later, rfl⟩)
        rw [ih distinct.2 later, Std.ExtTreeMap.getElem?_alter, if_neg differs]

/-- Of two counters for a role the later one counts, and the only one if there is only one. -/
theorem getElem?_laterNumbers (left right : Std.ExtTreeMap String UInt32) (name : String) :
    (laterNumbers left right)[name]? = Option.merge max left[name]? right[name]? := by
  -- A map lists each name once, so one step of the fold at most touches the counter of the role.
  have distinct : (right.toList.map Prod.fst).Nodup := by
    apply List.pairwise_map.mpr
    apply right.distinct_keys_toList.imp
    intro one other apart same
    exact apart (same ▸ Std.ReflCmp.compare_self)
  rw [laterNumbers, Std.ExtTreeMap.foldl_eq_foldl_toList]
  cases counter : right[name]? with
  | none =>
      have absent : name ∉ right.toList.map Prod.fst := by
        intro member
        obtain ⟨⟨key, number⟩, listed, rfl⟩ := List.mem_map.mp member
        rw [Std.ExtTreeMap.mem_toList_iff_getElem?_eq_some, counter] at listed
        cases listed
      rw [getElem?_foldl_alter_of_not_mem absent, Option.merge_none_right]
  | some number =>
      have listed : (name, number) ∈ right.toList :=
        Std.ExtTreeMap.mem_toList_iff_getElem?_eq_some.mpr counter
      rw [getElem?_foldl_alter_of_mem distinct listed]
      cases left[name]? with
      | none => rw [Option.getD_none, Option.merge_none_left, max_eq_ite, ite_self]
      | some known => rfl

/-- Counters of three pools may be joined in either grouping. -/
theorem laterNumbers_laterNumbers (first second third : Std.ExtTreeMap String UInt32) :
    laterNumbers (laterNumbers first second) third = laterNumbers first (laterNumbers second third) := by
  apply Std.ExtTreeMap.ext_getElem?
  intro name
  simp only [getElem?_laterNumbers]
  cases first[name]? with
  | none => simp only [Option.merge_none_left]
  | some one =>
      cases second[name]? with
      | none => simp only [Option.merge_none_left, Option.merge_none_right]
      | some two =>
          cases third[name]? with
          | none => simp only [Option.merge_none_right]
          | some three => simp only [Option.merge_some_some, max_assoc]

/-- Where nothing was counted, the counters of the other side are taken over. -/
theorem empty_laterNumbers (numbers : Std.ExtTreeMap String UInt32) :
    laterNumbers ∅ numbers = numbers := by
  apply Std.ExtTreeMap.ext_getElem?
  intro name
  rw [getElem?_laterNumbers, Std.ExtTreeMap.getElem?_empty, Option.merge_none_left]

theorem laterNumbers_empty (numbers : Std.ExtTreeMap String UInt32) :
    laterNumbers numbers ∅ = numbers := by
  apply Std.ExtTreeMap.ext_getElem?
  intro name
  rw [getElem?_laterNumbers, Std.ExtTreeMap.getElem?_empty, Option.merge_none_right]

/-!
### Pools and linkages
-/

/-- A union of two pools, member by member and counter by counter. -/
theorem merge_singleton (pool other : Pool) :
    pool.merge [other] =
      { members := pool.members.insertAll other.members.toList
        lastNumbers := laterNumbers pool.lastNumbers other.lastNumbers } := rfl

/-- Three pools may be joined in either grouping. -/
theorem merge_merge (first second third : Pool) :
    (first.merge [second]).merge [third] = first.merge [second.merge [third]] := by
  simp only [merge_singleton, OrderedSet.insertAll_insertAll, laterNumbers_laterNumbers]

/-- The empty pool on the left of a union changes nothing. -/
theorem empty_merge (pool : Pool) : (∅ : Pool).merge [pool] = pool := by
  have members : (∅ : Pool).members.insertAll pool.members.toList = pool.members :=
    pool.members.empty_insertAll
  have numbers : laterNumbers (∅ : Pool).lastNumbers pool.lastNumbers = pool.lastNumbers :=
    empty_laterNumbers pool.lastNumbers
  rw [merge_singleton, members, numbers]

theorem merge_empty (pool : Pool) : pool.merge [∅] = pool := by
  have numbers : laterNumbers pool.lastNumbers (∅ : Pool).lastNumbers = pool.lastNumbers :=
    laterNumbers_empty pool.lastNumbers
  rw [merge_singleton, numbers]
  rfl

/-- The placeholders of a union are listed in the order in which they first arrive. -/
theorem toList_merge (pool : Pool) (others : List Pool) :
    (pool.merge others).toList = (pool.toList ++ others.flatMap toList).eraseDups := by
  rw [toList, members_merge, OrderedSet.toList_merge, List.flatMap_map]
  rfl

end Pool

namespace Linkage

/-- Three linkages may be joined in either grouping. -/
theorem merge_merge (first second third : Linkage) :
    (first.merge [second]).merge [third] = first.merge [second.merge [third]] := by
  simp only [merge, List.map_cons, List.map_nil, Pool.merge_merge, OrderedSet.merge_cons,
    OrderedSet.merge_nil, OrderedSet.insertAll_insertAll]

theorem empty_merge (linkage : Linkage) : (∅ : Linkage).merge [linkage] = linkage := by
  have classes : (∅ : Linkage).dependencies.merge [linkage.dependencies] = linkage.dependencies :=
    linkage.dependencies.empty_insertAll
  have placeholders : (∅ : Linkage).exports.merge [linkage.exports] = linkage.exports :=
    linkage.exports.empty_merge
  rw [merge, List.map_singleton, List.map_singleton, classes, placeholders]

theorem merge_empty (linkage : Linkage) : linkage.merge [∅] = linkage := by
  have placeholders : linkage.exports.merge [(∅ : Linkage).exports] = linkage.exports :=
    linkage.exports.merge_empty
  rw [merge, List.map_singleton, List.map_singleton, placeholders]
  rfl

end Linkage

/-!
### The laws of unions

The laws hold of whole values: of the lists with their order, and of the counters of pools.
-/

/-- A union may be repeated, grouped and taken one by one without any effect. If two values change places,
    the unions are the same in the sense of `same`, which leaves the order of arrival aside. -/
structure UnionLaws {σ : Type} (merge : σ → List σ → σ) (same : σ → σ → Prop) : Prop where
  idempotent : ∀ value, merge value [value] = value
  associative : ∀ first second third,
    merge first [merge second [third]] = merge (merge first [second]) [third]
  chained : ∀ value others,
    merge value others = others.foldl (fun merged other => merge merged [other]) value
  commutative : ∀ left right, same (merge left [right]) (merge right [left])

namespace OrderedSet

variable {α : Type} [DecidableEq α]

/-- If all of them are members already, nothing changes. -/
theorem insertAll_of_subset {set : OrderedSet α} {members : List α} (present : ∀ a ∈ members, a ∈ set) :
    set.insertAll members = set := by
  induction members with
  | nil => rfl
  | cons a members ih =>
      rw [insertAll_cons, insert_of_mem (present a List.mem_cons_self)]
      exact ih fun b member => present b (List.mem_cons_of_mem a member)

/-- Only the order of arrival depends on which set comes first. -/
theorem equiv_merge_comm (left right : OrderedSet α) :
    (left.merge [right]).Equiv (right.merge [left]) := by
  intro a
  simp [or_comm]

/-- Ordered sets obey the laws of a union. -/
theorem unionLaws : UnionLaws (merge (α := α)) Equiv where
  idempotent _ := insertAll_of_subset fun _ member => member
  associative first second third := insertAll_insertAll first second third.toList
  chained _ _ := rfl
  commutative := equiv_merge_comm

end OrderedSet

namespace Pool

theorem laterNumbers_self (numbers : Std.ExtTreeMap String UInt32) :
    laterNumbers numbers numbers = numbers := by
  apply Std.ExtTreeMap.ext_getElem?
  intro name
  rw [getElem?_laterNumbers]
  cases numbers[name]? with
  | none => rfl
  | some number => rw [Option.merge_some_some, max_eq_ite, ite_self]

/-- A pool joined with itself stays as it is. -/
theorem merge_self (pool : Pool) : pool.merge [pool] = pool := by
  have members : pool.members.insertAll pool.members.toList = pool.members :=
    OrderedSet.unionLaws.idempotent pool.members
  rw [merge_singleton, members, laterNumbers_self]

/-- Only the order of arrival depends on which pool comes first. -/
theorem equiv_merge_comm (left right : Pool) : (left.merge [right]).Equiv (right.merge [left]) :=
  OrderedSet.equiv_merge_comm left.members right.members

/-- Pools obey the laws of a union. -/
theorem unionLaws : UnionLaws merge Equiv where
  idempotent := merge_self
  associative first second third := (merge_merge first second third).symm
  chained _ _ := rfl
  commutative := equiv_merge_comm

end Pool

namespace Linkage

/-- A linkage joined with itself stays as it is. -/
theorem merge_self (linkage : Linkage) : linkage.merge [linkage] = linkage := by
  have classes : linkage.dependencies.merge [linkage.dependencies] = linkage.dependencies :=
    OrderedSet.unionLaws.idempotent linkage.dependencies
  rw [merge, List.map_singleton, List.map_singleton, classes, linkage.exports.merge_self]

/-- A union of many linkages is taken one after the other. -/
theorem merge_eq_foldl (linkage : Linkage) (others : List Linkage) :
    linkage.merge others = others.foldl (fun merged other => merged.merge [other]) linkage := by
  induction others generalizing linkage with
  | nil => rfl
  | cons other others ih => exact ih (linkage.merge [other])

/-- Linkages obey the laws of a union, for what they depend on and for what they export. -/
theorem unionLaws : UnionLaws merge Equiv where
  idempotent := merge_self
  associative first second third := (merge_merge first second third).symm
  chained := merge_eq_foldl
  commutative left right :=
    ⟨OrderedSet.equiv_merge_comm left.dependencies right.dependencies,
      Pool.equiv_merge_comm left.exports right.exports⟩

/-- Dependencies of a union are listed in the order in which they first arrive. -/
theorem toList_dependencies_merge (linkage : Linkage) (others : List Linkage) :
    (linkage.merge others).dependencies.toList =
      (linkage.dependencies.toList ++ others.flatMap (·.dependencies.toList)).eraseDups := by
  rw [merge, OrderedSet.toList_merge, List.flatMap_map]

/-- So are its exports. -/
theorem toList_exports_merge (linkage : Linkage) (others : List Linkage) :
    (linkage.merge others).exports.toList =
      (linkage.exports.toList ++ others.flatMap (·.exports.toList)).eraseDups := by
  rw [merge, Pool.toList_merge, List.flatMap_map]

end Linkage

/-- A union of sets, of pools or of linkages lists what its parts list, one after the other, each member
    at its first occurrence. It obeys the laws of unions, in this order, and up to the order it does not
    matter which of two values is merged into which. -/
theorem unions_in_order_of_arrival {α : Type} [DecidableEq α] :
    ((∀ (set : OrderedSet α) (others : List (OrderedSet α)),
        (set.merge others).toList =
          (set.toList ++ others.flatMap OrderedSet.toList).eraseDups) ∧
      UnionLaws (OrderedSet.merge (α := α)) OrderedSet.Equiv) ∧
    ((∀ (pool : Pool) (others : List Pool),
        (pool.merge others).toList = (pool.toList ++ others.flatMap Pool.toList).eraseDups) ∧
      UnionLaws Pool.merge Pool.Equiv) ∧
    (∀ (linkage : Linkage) (others : List Linkage),
        (linkage.merge others).dependencies.toList =
          (linkage.dependencies.toList ++ others.flatMap (·.dependencies.toList)).eraseDups ∧
        (linkage.merge others).exports.toList =
          (linkage.exports.toList ++ others.flatMap (·.exports.toList)).eraseDups) ∧
      UnionLaws Linkage.merge Linkage.Equiv := by
  refine ⟨⟨OrderedSet.toList_merge, OrderedSet.unionLaws⟩, ⟨Pool.toList_merge, Pool.unionLaws⟩, ?_,
    Linkage.unionLaws⟩
  intro linkage others
  exact ⟨linkage.toList_dependencies_merge others, linkage.toList_exports_merge others⟩

end StepWeaver
