/-
Module: StepWeaver.Proofs.PoolHistory
Layer: Proofs
Purpose: What pools answer in the course of a history of operations. A fresh placeholder carries the
  least number from 2 on that its role has free, and leaves the other roles alone for good. Pools with
  the same members give the same answers for ever, whatever their order, their counters and the
  histories they have behind them.
Main exports: Pool.Operation, Pool.perform?, Pool.run?, Pool.Operation.Alike, Pool.Agree,
  Pool.perform?_agree, Pool.run?_agree, Pool.AllocateAlike, Pool.fresh_eq_least,
  Pool.Indistinguishable, Pool.indistinguishable_of_equiv
-/
import Mathlib.Data.List.Forall2
import StepWeaver.Proofs.LeastNumber

namespace StepWeaver.Pool

/-!
### Operations and what they answer
-/

/-- Something that is done to a pool. -/
inductive Operation where
  | create (name : String)
  | fresh (name : String)
  | insert (placeholder : Placeholder)
  | merge (others : List Pool)

/-- What an operation answers. -/
inductive Answer where
  | allocated (placeholder : Placeholder)
  /-- Whether the placeholder was not there before. -/
  | inserted (isNew : Bool)
  | merged
deriving DecidableEq, Repr

/-- The answer to an operation, and the pool after it. If all placeholders of a role are taken, the
    search for a fresh one never ends, so there is no answer. -/
def perform? (pool : Pool) : Operation → Option (Answer × Pool)
  | .create name => some (.allocated (pool.create name).1, (pool.create name).2)
  | .fresh name =>
    if pool.HasFree name then some (.allocated (pool.fresh name).1, (pool.fresh name).2) else none
  | .insert placeholder => some (.inserted (placeholder ∉ pool), pool.insert placeholder)
  | .merge others => some (.merged, pool.merge others)

/-- The answers to operations one after the other, and the pool after the last one. -/
def run? (pool : Pool) : List Operation → Option (List Answer × Pool)
  | [] => some ([], pool)
  | operation :: operations => do
    let (answer, next) ← pool.perform? operation
    let (answers, last) ← next.run? operations
    return (answer :: answers, last)

/-- The same operation on two sides; what is merged on one side has the members of what is merged on
    the other. -/
inductive Operation.Alike : Operation → Operation → Prop
  | create (name : String) : Alike (.create name) (.create name)
  | fresh (name : String) : Alike (.fresh name) (.fresh name)
  | insert (placeholder : Placeholder) : Alike (.insert placeholder) (.insert placeholder)
  | merge {left right : List Pool} (leftReachable : ∀ pool ∈ left, pool.Reachable)
      (rightReachable : ∀ pool ∈ right, pool.Reachable) (same : List.Forall₂ Equiv left right) :
      Alike (.merge left) (.merge right)

/-- The operation is about one of some roles, or about all. -/
def Operation.Within (roles : String → Prop) : Operation → Prop
  | .create name | .fresh name => roles name
  | .insert placeholder => roles placeholder.name
  | .merge _ => True

/-- Operations lead from reachable pools to reachable ones, as long as what they merge is reachable. -/
theorem Reachable.left_of_alike {pool next : Pool} (reachable : pool.Reachable)
    {operation other : Operation} (alike : operation.Alike other) {answer : Answer}
    (done : pool.perform? operation = some (answer, next)) : next.Reachable := by
  cases alike with
  | create name =>
      obtain ⟨_, rfl⟩ := Prod.mk.inj (Option.some.inj done)
      exact reachable.create name
  | fresh name =>
      obtain ⟨_, same⟩ := Option.ite_none_right_eq_some.mp done
      obtain ⟨_, rfl⟩ := Prod.mk.inj (Option.some.inj same)
      exact reachable.fresh name
  | insert placeholder =>
      obtain ⟨_, rfl⟩ := Prod.mk.inj (Option.some.inj done)
      exact reachable.insert placeholder
  | merge leftReachable _ _ =>
      obtain ⟨_, rfl⟩ := Prod.mk.inj (Option.some.inj done)
      exact reachable.merge leftReachable

theorem forall₂_equiv_symm {left right : List Pool} (same : List.Forall₂ Equiv left right) :
    List.Forall₂ Equiv right left :=
  same.flip.imp fun _ _ equiv placeholder => (equiv placeholder).symm

theorem Operation.Alike.symm {operation other : Operation} (alike : operation.Alike other) :
    other.Alike operation := by
  cases alike with
  | create name => exact .create name
  | fresh name => exact .fresh name
  | insert placeholder => exact .insert placeholder
  | merge leftReachable rightReachable same =>
      exact .merge rightReachable leftReachable (forall₂_equiv_symm same)

/-!
### Two pools side by side

The roles on which two pools agree stay the same under alike operations. An operation about one of these
roles gets the same answer on both sides, or none on either; an operation about another role may be
answered differently, but it leaves the agreement alone.
-/

/-- Two reachable pools that hold the same placeholders of some roles. -/
structure Agree (roles : String → Prop) (left right : Pool) : Prop where
  leftReachable : left.Reachable
  rightReachable : right.Reachable
  same : ∀ name, roles name → SameRole name left right

/-- A union has the same members if its parts have. -/
theorem mem_merge_congr {placeholder : Placeholder} {left right : Pool}
    (here : placeholder ∈ left ↔ placeholder ∈ right) {others others' : List Pool}
    (same : List.Forall₂ Equiv others others') :
    placeholder ∈ left.merge others ↔ placeholder ∈ right.merge others' := by
  induction same generalizing left right with
  | nil => exact here
  | cons equiv _ ih =>
      refine ih ?_
      rw [← mem_members, ← mem_members, OrderedSet.mem_insertAll, OrderedSet.mem_insertAll]
      exact or_congr here (equiv placeholder)

/-- One operation about the roles in question gets the same answer from both pools, and they go on
    agreeing. -/
theorem perform?_agree {roles : String → Prop} {left right : Pool} (agree : Agree roles left right)
    {operation operation' : Operation} (alike : operation.Alike operation')
    (within : operation.Within roles) :
    Option.Rel (fun first second => first.1 = second.1 ∧ Agree roles first.2 second.2)
      (left.perform? operation) (right.perform? operation') := by
  have both {first second : Answer × Pool} (one : left.perform? operation = some first)
      (two : right.perform? operation' = some second) (answers : first.1 = second.1)
      (same : ∀ name, roles name → SameRole name first.2 second.2) :
      Option.Rel (fun first second => first.1 = second.1 ∧ Agree roles first.2 second.2)
        (left.perform? operation) (right.perform? operation') := by
    have leftReachable := agree.leftReachable.left_of_alike alike one
    have rightReachable := agree.rightReachable.left_of_alike alike.symm two
    rw [one, two]
    exact .some ⟨answers, leftReachable, rightReachable, same⟩
  cases alike with
  | create name =>
      refine both rfl rfl rfl ?_
      intro role listed placeholder named
      rw [mem_create, mem_create, agree.same role listed placeholder named]
  | fresh name =>
      have same := agree.same name within
      -- The search ends on both sides or on neither, and only if it ends there are answers to compare.
      by_cases free : left.HasFree name
      · have answers := fresh_congr agree.leftReachable.sound agree.rightReachable.sound same free
        refine both (if_pos free) (if_pos (same.hasFree_iff.mp free))
          (congrArg Answer.allocated answers) ?_
        intro role listed placeholder named
        rw [mem_fresh, mem_fresh, answers, agree.same role listed placeholder named]
      · have taken : ¬ right.HasFree name := fun other => free (same.hasFree_iff.mpr other)
        rw [perform?, perform?, if_neg free, if_neg taken]
        exact .none
  | insert placeholder =>
      have same := agree.same placeholder.name within placeholder rfl
      refine both rfl rfl (by simp only [same]) ?_
      intro role listed other named
      rw [mem_insert, mem_insert, agree.same role listed other named]
  | merge _ _ same =>
      refine both rfl rfl rfl ?_
      intro role listed placeholder named
      exact mem_merge_congr (agree.same role listed placeholder named) same

/-- An operation about one role leaves all other roles as they are. -/
theorem sameRole_perform? {roles : String → Prop} {pool next : Pool} {operation : Operation}
    {answer : Answer} (done : pool.perform? operation = some (answer, next))
    (outside : ¬ operation.Within roles) {name : String} (listed : roles name) :
    SameRole name pool next := by
  have added (placeholder : Placeholder) (unlisted : ¬ roles placeholder.name)
      (grown : ∀ other, other ∈ next ↔ other ∈ pool ∨ other = placeholder) :
      SameRole name pool next := by
    intro other named
    rw [grown, or_iff_left]
    rintro rfl
    exact unlisted (named ▸ listed)
  cases operation with
  | create role =>
      obtain ⟨_, rfl⟩ := Prod.mk.inj (Option.some.inj done)
      exact added (Placeholder.canonical role) outside fun _ => mem_create
  | fresh role =>
      obtain ⟨_, same⟩ := Option.ite_none_right_eq_some.mp done
      obtain ⟨_, rfl⟩ := Prod.mk.inj (Option.some.inj same)
      refine added (pool.fresh role).1 ?_ fun _ => mem_fresh
      rwa [fresh_name]
  | insert placeholder =>
      obtain ⟨_, rfl⟩ := Prod.mk.inj (Option.some.inj done)
      exact added placeholder outside fun _ => mem_insert
  | merge others => exact absurd trivial outside

/-- One operation about any role keeps the agreement, whatever it answers. -/
theorem Agree.perform? {roles : String → Prop} {left right left' right' : Pool}
    (agree : Agree roles left right) {operation operation' : Operation}
    (alike : operation.Alike operation') {answer answer' : Answer}
    (one : left.perform? operation = some (answer, left'))
    (two : right.perform? operation' = some (answer', right')) : Agree roles left' right' := by
  by_cases within : operation.Within roles
  · have related := perform?_agree agree alike within
    rw [one, two] at related
    cases related with
    | some both => exact both.2
  · have outside : ¬ operation'.Within roles := by
      cases alike with
      | create name | fresh name | insert placeholder => exact within
      | merge _ _ _ => exact absurd trivial within
    refine ⟨agree.leftReachable.left_of_alike alike one,
      agree.rightReachable.left_of_alike alike.symm two, ?_⟩
    intro role listed placeholder named
    rw [← sameRole_perform? one within listed placeholder named,
      ← sameRole_perform? two outside listed placeholder named]
    exact agree.same role listed placeholder named

/-!
### Whole histories
-/

theorem run?_cons_eq_some {pool last : Pool} {operation : Operation} {operations : List Operation}
    {answers : List Answer} (done : pool.run? (operation :: operations) = some (answers, last)) :
    ∃ answer next rest, pool.perform? operation = some (answer, next) ∧
      next.run? operations = some (rest, last) := by
  rw [run?] at done
  obtain ⟨⟨answer, next⟩, first, more⟩ := Option.bind_eq_some_iff.mp done
  obtain ⟨⟨rest, final⟩, others, same⟩ := Option.bind_eq_some_iff.mp more
  obtain ⟨_, rfl⟩ := Prod.mk.inj (Option.some.inj same)
  exact ⟨answer, next, rest, first, others⟩

/-- Operations about any roles keep the agreement. -/
theorem Agree.run? {roles : String → Prop} {left right left' right' : Pool}
    (agree : Agree roles left right) {operations operations' : List Operation}
    (alike : List.Forall₂ Operation.Alike operations operations') {answers answers' : List Answer}
    (one : left.run? operations = some (answers, left'))
    (two : right.run? operations' = some (answers', right')) : Agree roles left' right' := by
  induction alike generalizing left right answers answers' with
  | nil =>
      obtain ⟨_, rfl⟩ := Prod.mk.inj (Option.some.inj one)
      obtain ⟨_, rfl⟩ := Prod.mk.inj (Option.some.inj two)
      exact agree
  | cons first _ ih =>
      obtain ⟨_, _, _, one, onward⟩ := run?_cons_eq_some one
      obtain ⟨_, _, _, two, onward'⟩ := run?_cons_eq_some two
      exact ih (agree.perform? first one two) onward onward'

/-- Pools that agree on all roles answer every run alike. -/
theorem run?_agree {left right : Pool} (agree : Agree (fun _ => True) left right)
    {operations operations' : List Operation}
    (alike : List.Forall₂ Operation.Alike operations operations') :
    Option.Rel (fun first second => first.1 = second.1 ∧ Agree (fun _ => True) first.2 second.2)
      (left.run? operations) (right.run? operations') := by
  induction alike generalizing left right with
  | nil => exact .some ⟨rfl, agree⟩
  | @cons operation operation' operations operations' first _ ih =>
      have within : operation.Within fun _ => True := by cases operation <;> trivial
      have related := perform?_agree agree first within
      rw [run?, run?]
      generalize left.perform? operation = one at related ⊢
      generalize right.perform? operation' = two at related ⊢
      cases related with
      | none => exact .none
      | @some one two both =>
          obtain ⟨answer, next⟩ := one
          obtain ⟨answer', next'⟩ := two
          obtain ⟨rfl, onward⟩ := both
          have rest := ih onward
          simp only [Option.bind_eq_bind, Option.bind_some]
          generalize next.run? operations = one at rest ⊢
          generalize next'.run? operations' = two at rest ⊢
          cases rest with
          | none => exact .none
          | some both => exact .some ⟨by rw [both.1], both.2⟩

/-!
### Fresh placeholders
-/

/-- Whatever is done to both pools from now on, they give the same answer when they are next asked for
    a fresh placeholder of the role. -/
def AllocateAlike (name : String) (left right : Pool) : Prop :=
  ∀ operations operations', List.Forall₂ Operation.Alike operations operations' →
    ∀ answers answers' left' right', left.run? operations = some (answers, left') →
      right.run? operations' = some (answers', right') →
        (left'.perform? (.fresh name)).map Prod.fst = (right'.perform? (.fresh name)).map Prod.fst

/-- A role on which two pools agree is never allocated differently. -/
theorem Agree.allocateAlike {roles : String → Prop} {left right : Pool}
    (agree : Agree roles left right) {name : String} (listed : roles name) :
    AllocateAlike name left right := by
  intro operations operations' alike answers answers' left' right' one two
  have related := perform?_agree (agree.run? alike one two) (.fresh name) listed
  generalize left'.perform? (.fresh name) = one at related ⊢
  generalize right'.perform? (.fresh name) = two at related ⊢
  cases related with
  | none => rfl
  | some both => exact congrArg some both.1

/-- A placeholder that is new is listed last. -/
theorem toList_fresh {pool : Pool} {name : String} (new : (pool.fresh name).1 ∉ pool) :
    (pool.fresh name).2.toList = pool.toList ++ [(pool.fresh name).1] := by
  unfold fresh at new ⊢
  split at new
  · next canonical =>
    rw [if_pos canonical]
    exact (OrderedSet.toList_insert _ _).trans (if_neg new)
  · next canonical =>
    rw [if_neg canonical]
    exact (OrderedSet.toList_insert _ _).trans (if_neg new)

/-- A fresh placeholder of a role that has not used up its numbers is the one without a number if that
    is free, and otherwise the one with the least free number from 2 on, which the search reaches without
    going beyond the largest word. It is new, it is listed last, and no other role ever notices. -/
theorem fresh_eq_least {pool : Pool} (reachable : pool.Reachable) {name : String}
    (few : (pool.numberedOf name).length < UInt32.size - 2) :
    (Placeholder.canonical name ∉ pool → (pool.fresh name).1 = Placeholder.canonical name) ∧
    (Placeholder.canonical name ∈ pool → ∃ number,
      (pool.fresh name).1 = Placeholder.numbered name number ∧
      pool.CountsTo name (pool.lastNumbers.getD name 1) number ∧
      IsLeast { number | 2 ≤ number ∧ Placeholder.numbered name number ∉ pool } number) ∧
    (pool.fresh name).1 ∉ pool ∧
    (pool.fresh name).2.toList = pool.toList ++ [(pool.fresh name).1] ∧
    ∀ other, other ≠ name → AllocateAlike other pool (pool.fresh name).2 := by
  have sound := reachable.sound
  have least := sound.isLeast_nextNumber few
  have first (free : Placeholder.canonical name ∉ pool) :
      (pool.fresh name).1 = Placeholder.canonical name := by
    rw [fresh, if_neg free]
    rfl
  have later (taken : Placeholder.canonical name ∈ pool) :
      (pool.fresh name).1 = Placeholder.numbered name (pool.nextNumber name) := by
    rw [fresh, if_pos taken]
  have new : (pool.fresh name).1 ∉ pool := by
    by_cases taken : Placeholder.canonical name ∈ pool
    · rw [later taken]
      exact least.1.2
    · rwa [first taken]
  refine ⟨first, ?_, new, toList_fresh new, ?_⟩
  · intro taken
    exact ⟨pool.nextNumber name, later taken, sound.countsTo_nextNumber few, least⟩
  · intro other apart
    have agree : Agree (· ≠ name) pool (pool.fresh name).2 := by
      refine ⟨reachable, reachable.fresh name, ?_⟩
      intro role unlike placeholder named
      rw [mem_fresh, or_iff_left]
      rintro rfl
      exact unlike (named.symm.trans (fresh_name pool name))
    exact agree.allocateAlike apart

-- The counter stands at 2, and 3 was put into the pool without it.
theorem fresh_eq_least_inserted :
    let pool := ((ofNames ["A"]).fresh "A").2.insert (.numbered "A" 3)
    pool.Reachable ∧ (pool.numberedOf "A").length < UInt32.size - 2 ∧
      (pool.fresh "A").1 = .numbered "A" 4 ∧ (pool.fresh "A").1 ∉ pool ∧
      (pool.fresh "A").2.toList = pool.toList ++ [.numbered "A" 4] ∧
      AllocateAlike "B" pool (pool.fresh "A").2 := by
  intro pool
  have reachable : pool.Reachable := ((Reachable.ofNames ["A"]).fresh "A").insert (.numbered "A" 3)
  have few : (pool.numberedOf "A").length < UInt32.size - 2 := by decide +kernel
  have four : (pool.fresh "A").1 = .numbered "A" 4 := by decide +kernel
  obtain ⟨_, _, new, listed, others⟩ := fresh_eq_least reachable few
  exact ⟨reachable, few, four, new, four ▸ listed, others "B" (by decide)⟩

/-!
### Pools with the same members
-/

/-- The pools have the same members, and the same operations on both are answered alike for ever. -/
def Indistinguishable (left right : Pool) : Prop :=
  left.Equiv right ∧
    ∀ operations operations', List.Forall₂ Operation.Alike operations operations' →
      Option.Rel (fun first second => first.1 = second.1 ∧ first.2.Equiv second.2)
        (left.run? operations) (right.run? operations')

/-- To agree on all roles is to have the same members. -/
theorem agree_iff_equiv {left right : Pool} (leftReachable : left.Reachable)
    (rightReachable : right.Reachable) : Agree (fun _ => True) left right ↔ left.Equiv right := by
  constructor
  · intro agree placeholder
    exact agree.same placeholder.name trivial placeholder rfl
  · intro same
    exact ⟨leftReachable, rightReachable, fun _ _ placeholder _ => same placeholder⟩

/-- The members of a pool that can be made are all that operations can find out about it. -/
theorem Indistinguishable.of_equiv {left right : Pool} (leftReachable : left.Reachable)
    (rightReachable : right.Reachable) (same : left.Equiv right) : Indistinguishable left right := by
  refine ⟨same, ?_⟩
  intro operations operations' alike
  have related := run?_agree ((agree_iff_equiv leftReachable rightReachable).mpr same) alike
  generalize left.run? operations = one at related ⊢
  generalize right.run? operations' = two at related ⊢
  cases related with
  | none => exact .none
  | some both =>
      obtain ⟨answers, agree⟩ := both
      exact .some ⟨answers, (agree_iff_equiv agree.leftReachable agree.rightReachable).mp agree⟩

theorem mem_merge {pool : Pool} {others : List Pool} {placeholder : Placeholder} :
    placeholder ∈ pool.merge others ↔
      placeholder ∈ pool ∨ ∃ other ∈ others, placeholder ∈ other := by
  rw [← mem_members, members_merge, OrderedSet.mem_merge]
  simp

/-- Pools that can be made and have the same members cannot be told apart by any operations, although
    they may list them differently and have counted differently far. So a union may be taken in any
    order and any grouping, and a union with itself changes nothing. -/
theorem indistinguishable_of_equiv :
    (∀ x y : Pool, x.Reachable → y.Reachable → x.Equiv y → Indistinguishable x y) ∧
    ∀ x y z : Pool, x.Reachable → y.Reachable → z.Reachable →
      Indistinguishable (x.merge [y]) (y.merge [x]) ∧
      Indistinguishable (x.merge [y.merge [z]]) ((x.merge [y]).merge [z]) ∧
      Indistinguishable (x.merge [x]) x := by
  refine ⟨fun x y => .of_equiv, ?_⟩
  intro x y z xReachable yReachable zReachable
  have union {left right : Pool} (leftReachable : left.Reachable) (rightReachable : right.Reachable) :
      (left.merge [right]).Reachable :=
    leftReachable.merge (List.forall_mem_singleton.mpr rightReachable)
  have members {left right : Pool} (placeholder : Placeholder) :
      placeholder ∈ left.merge [right] ↔ placeholder ∈ left ∨ placeholder ∈ right := by
    simp [mem_merge]
  refine ⟨.of_equiv (union xReachable yReachable) (union yReachable xReachable) ?_,
    .of_equiv (union xReachable (union yReachable zReachable))
      (union (union xReachable yReachable) zReachable) ?_,
    .of_equiv (union xReachable xReachable) xReachable ?_⟩
  · intro placeholder
    exact (members placeholder).trans (or_comm.trans (members placeholder).symm)
  · intro placeholder
    simp only [mem_members, members, or_assoc]
  · intro placeholder
    simp only [mem_members, members, or_self]

-- The first pool has no counter for the role, the second one's stands at 2.
theorem indistinguishable_of_equiv_counters :
    let x := ofList [.numbered "A" 2, .canonical "A"]
    let y := ((ofNames ["A"]).fresh "A").2
    x.Reachable ∧ y.Reachable ∧ x.lastNumbers["A"]? ≠ y.lastNumbers["A"]? ∧ x.toList ≠ y.toList ∧
      Indistinguishable x y ∧ Indistinguishable (x.merge [y]) (y.merge [x]) := by
  intro x y
  have xReachable : x.Reachable := .ofList _
  have yReachable : y.Reachable := .fresh (.ofNames _) "A"
  have same : x.Equiv y := by decide +kernel
  obtain ⟨equals, unions⟩ := indistinguishable_of_equiv
  exact ⟨xReachable, yReachable, by decide +kernel, by decide +kernel,
    equals x y xReachable yReachable same, (unions x y x xReachable yReachable xReachable).1⟩

end StepWeaver.Pool
