/-
Module: StepWeaver.Proofs.Bindings
Layer: Proofs
Purpose: Which placeholders are filled when a value is stored. A computation that stores something takes a
  batch of fresh placeholders from its scope, fills them as helpers, and fills its target last. The batch
  is new to the scope and has no repetitions as long as every search for a number ends. The size of the
  window is the exception: its placeholder is shared by everybody who asks for it.
Main exports: Pool.freshAll, Pool.Affords, Pool.nodup_freshAll, Pool.not_mem_of_mem_freshAll,
  Statement.assignedAll, Assignment.FillsAfter, Binding.Allots, Value.helpers, Value.shared,
  Value.allots_storing?
-/
import StepWeaver.Proofs.Initialisation
import StepWeaver.Proofs.LeastNumber

namespace StepWeaver

open Placeholder (Symbol plain symbols reads_token)

/-!
### Batches of fresh placeholders
-/

namespace Pool

/-- Placeholders for some names, allocated one after the other. -/
def freshAll (pool : Pool) : List String → List Placeholder × Pool
  | [] => ([], pool)
  | name :: names =>
    let (placeholder, between) := pool.fresh name
    let (placeholders, after) := between.freshAll names
    (placeholder :: placeholders, after)

/-- Every search ends when placeholders for the names are allocated one after the other. -/
def Affords (pool : Pool) : List String → Prop
  | [] => True
  | name :: names => pool.HasFree name ∧ (pool.fresh name).2.Affords names

instance decidableAffords : (pool : Pool) → (names : List String) → Decidable (pool.Affords names)
  | _, [] => inferInstanceAs (Decidable True)
  | pool, name :: names =>
    have := decidableAffords (pool.fresh name).2 names
    inferInstanceAs (Decidable (pool.HasFree name ∧ (pool.fresh name).2.Affords names))

variable {pool : Pool} {placeholder : Placeholder} {name : String} {names : List String}

theorem freshAll_cons (pool : Pool) (name : String) (names : List String) :
    pool.freshAll (name :: names) =
      ((pool.fresh name).1 :: ((pool.fresh name).2.freshAll names).1,
        ((pool.fresh name).2.freshAll names).2) := rfl

/-- A search that ends finds a placeholder that was not in the pool. -/
theorem HasFree.fresh_not_mem (free : pool.HasFree name) (sound : pool.Sound) :
    (pool.fresh name).1 ∉ pool := by
  by_cases canonical : Placeholder.canonical name ∈ pool
  · have few := free.resolve_left (not_not.mpr canonical)
    obtain ⟨number, _, isFree⟩ := exists_free_of_length_lt (Nat.le_refl _) few
    obtain ⟨first, firstFree, filled⟩ := exists_first_free isFree
    rw [fresh, if_pos canonical, nextNumber_eq sound firstFree filled]
    exact firstFree
  · rw [fresh, if_neg canonical]
    exact canonical

/-- After a batch, a pool has what it had before and the batch. -/
theorem mem_freshAll :
    placeholder ∈ (pool.freshAll names).2 ↔
      placeholder ∈ pool ∨ placeholder ∈ (pool.freshAll names).1 := by
  induction names generalizing pool with
  | nil => simp [freshAll]
  | cons name names ih => simp only [freshAll_cons, ih, mem_fresh, List.mem_cons, or_assoc]

theorem Sound.freshAll (sound : pool.Sound) (names : List String) : (pool.freshAll names).2.Sound := by
  induction names generalizing pool with
  | nil => exact sound
  | cons name names ih => exact ih (sound.fresh name)

/-- A batch has only the names that were asked for. -/
theorem name_mem_of_mem_freshAll (member : placeholder ∈ (pool.freshAll names).1) :
    placeholder.name ∈ names := by
  induction names generalizing pool with
  | nil => exact absurd member List.not_mem_nil
  | cons name names ih =>
      rw [freshAll_cons, List.mem_cons] at member
      rcases member with rfl | later
      · rw [fresh_name]
        exact List.mem_cons_self
      · exact List.mem_cons_of_mem name (ih later)

/-- A batch is new to the pool. -/
theorem not_mem_of_mem_freshAll (sound : pool.Sound) (affords : pool.Affords names)
    (member : placeholder ∈ (pool.freshAll names).1) : placeholder ∉ pool := by
  induction names generalizing pool with
  | nil => exact absurd member List.not_mem_nil
  | cons name names ih =>
      obtain ⟨free, rest⟩ := affords
      rw [freshAll_cons, List.mem_cons] at member
      rcases member with rfl | later
      · exact free.fresh_not_mem sound
      · intro here
        exact ih (sound.fresh name) rest later (mem_fresh.mpr (Or.inl here))

/-- No placeholder is handed out twice in a batch, also if a name is asked for twice. -/
theorem nodup_freshAll (sound : pool.Sound) (affords : pool.Affords names) :
    (pool.freshAll names).1.Nodup := by
  induction names generalizing pool with
  | nil => exact List.nodup_nil
  | cons name names ih =>
      obtain ⟨free, rest⟩ := affords
      apply List.nodup_cons.mpr
      constructor
      · intro again
        have absent := not_mem_of_mem_freshAll (sound.fresh name) rest again
        exact absent (mem_fresh.mpr (Or.inr rfl))
      · exact ih (sound.fresh name) rest

/-- A small pool affords any small batch. -/
theorem affords_of_size (room : pool.size + names.length ≤ UInt32.size) : pool.Affords names := by
  induction names generalizing pool with
  | nil => trivial
  | cons name names ih =>
      rw [List.length_cons] at room
      have numbered : (pool.numberedOf name).length ≤ pool.size := List.length_filter_le _ _
      have grown := (pool.extends_fresh name).size_le
      constructor
      · exact Or.inr (by omega)
      · exact ih (by omega)

end Pool

/-!
### Left-hand sides
-/

namespace Statement

/-- The tokens on the left-hand sides of some statements, one for each statement that assigns. -/
def assignedAll (statements : List String) : List String := statements.filterMap assigned?

theorem assignedAll_append (first second : List String) :
    assignedAll (first ++ second) = assignedAll first ++ assignedAll second := List.filterMap_append

theorem assignedAll_line {target : Placeholder} (legible : target.Legible) (value : String) :
    assignedAll [target.token ++ " = " ++ value] = [target.token] := by
  rw [assignedAll, List.filterMap_cons_some (assigned?_line legible value), List.filterMap_nil]

theorem assignedAll_of_none {statement : String} (none : assigned? statement = none) :
    assignedAll [statement] = [] := by
  rw [assignedAll, List.filterMap_cons_none none, List.filterMap_nil]

/-- A call assigns to nothing. -/
theorem assigned?_of_call {statement object method : String} {arguments : List Symbol}
    (reading : symbols statement.toList = Call.callRead object (Call.methodText method) arguments) :
    assigned? statement = none := by
  rw [assigned?, reading]
  simp [Call.callRead, Call.methodText, plain, line?]

end Statement

open Statement (assignedAll)

namespace Assignment

/-- The last statement fills the target of the assignment, and those before it fill the helpers, each as
    often as it is listed. -/
def FillsAfter (assignment : Assignment) (helpers : List Placeholder) : Prop :=
  ∃ setup value,
    assignment.toFragment.statements = setup ++ [assignment.target.token ++ " = " ++ value] ∧
      (assignedAll setup).Perm (helpers.map Placeholder.token)

variable {target : Placeholder} {source : Fragment} {helpers : List Placeholder}

/-- An assignment stores the last statement of its source; all the statements before it are setup. -/
theorem fillsAfter_of_split {predecessors : List Fragment} {setup : List String} {last : String}
    (split : source.statements = setup ++ [last])
    (assigned : (assignedAll (predecessors.flatMap Fragment.statements ++ setup)).Perm
      (helpers.map Placeholder.token)) :
    ((ofFragment target source).precededBy predecessors).FillsAfter helpers := by
  refine ⟨predecessors.flatMap Fragment.statements ++ setup, last, ?_, assigned⟩
  rw [statements_toFragment predecessors split, List.append_assoc]
  rfl

/-- A source of one statement needs no helpers. -/
theorem fillsAfter_of_only {text : String} (only : source.statements = [text]) :
    (ofFragment target source).FillsAfter [] := by
  have split : source.statements = [] ++ [text] := only
  have none : (assignedAll ([].flatMap Fragment.statements ++ [])).Perm
      (([] : List Placeholder).map Placeholder.token) := .nil
  exact fillsAfter_of_split split none

/-- What an assignment assigns to is its target and its helpers. -/
theorem FillsAfter.assigned {assignment : Assignment} (fills : assignment.FillsAfter helpers)
    (legible : assignment.target.Legible) :
    (assignedAll assignment.toFragment.statements).Perm
      ((assignment.target :: helpers).map Placeholder.token) := by
  obtain ⟨setup, value, lines, assigned⟩ := fills
  rw [lines, Statement.assignedAll_append, Statement.assignedAll_line legible]
  exact (assigned.append_right _).trans (List.perm_append_singleton _ _)

/-- What one assignment fills is a helper of the assignment that follows it. -/
theorem FillsAfter.assign {stored : Assignment} (fills : stored.FillsAfter helpers)
    (legible : stored.target.Legible) {text : String} (only : source.statements = [text]) :
    ((ofFragment target source).precededBy [stored.toFragment]).FillsAfter
      (stored.target :: helpers) := by
  have split : source.statements = [] ++ [text] := only
  apply fillsAfter_of_split split
  rw [List.flatMap_singleton, List.append_nil]
  exact fills.assigned legible

/-- What an assignment has stored may be replaced by a text that is made from it. -/
theorem statements_revise (target : Placeholder) (text : String) (stored : Assignment) :
    ((ofFragment target (Fragment.ofStatement text)).precededBy
        [stored.toFragment]).toFragment.statements =
      stored.toFragment.statements ++ [target.token ++ " = " ++ text] := by
  have split : (Fragment.ofStatement text).statements = [] ++ [text] := rfl
  rw [statements_toFragment [stored.toFragment] split, List.flatMap_singleton, List.nil_append]

end Assignment

/-!
### Elements and attributes
-/

namespace Binding

/-- How something is stored in a scope: beside shared helpers there is a batch of fresh ones, which
    nobody will get again. -/
structure Allots (names : List String) (shared : List Placeholder) (scope : Pool)
    (result : Assignment × Pool) : Prop where
  fills : result.1.FillsAfter (shared ++ (scope.freshAll names).1)
  kept : ∀ placeholder ∈ (scope.freshAll names).2, placeholder ∈ result.2
  sound : scope.Sound → result.2.Sound

/-- The helpers of a lookup: the locator, and whether it finds anything. -/
def lookupHelpers : List String := [Role.elementLocator.name, Role.presence.name]

/-- The text of a question to the navigator about a locator that has been stored. -/
def questionText (lookup : Lookup) (locator : Placeholder) (path : ElementPath) : String :=
  Role.navigator.placeholder.token ++ "->" ++ lookup.method ++ "(" ++
    (Call.locateStored locator path).text ++ ")"

/-- A lookup stores its locator, asks whether it finds anything, checks the answer and stores what it
    finds. -/
theorem statements_lookup (path : ElementPath) (target : Placeholder) (probe query : Lookup)
    (scope : Pool) :
    ((lookup path target probe query).runIn scope).1.toFragment.statements =
      let locator := (scope.fresh Role.elementLocator.name).1
      let presence := ((scope.fresh Role.elementLocator.name).2.fresh Role.presence.name).1
      [locator.token ++ " = " ++ Call.newLocator path.own,
        presence.token ++ " = " ++ questionText probe locator path,
        Role.testContext.placeholder.token ++ "->" ++ Check.isTrue.method ++ "(" ++ presence.token ++
          ")"] ++
      [target.token ++ " = " ++ questionText query locator path] := rfl

/-- The check between the two questions assigns to nothing. -/
theorem fillsAfter_lookup (path : ElementPath) (target : Placeholder) (probe query : Lookup)
    (scope : Pool) :
    ((lookup path target probe query).runIn scope).1.FillsAfter (scope.freshAll lookupHelpers).1 := by
  have locatorLegible := legible_fresh scope .elementLocator
  have presenceLegible := legible_fresh (scope.fresh Role.elementLocator.name).2 .presence
  have checked := Statement.assigned?_of_call
    (Call.reads_check .isTrue (reads_token presenceLegible)).symbols_eq
  refine ⟨_, _, statements_lookup path target probe query scope, ?_⟩
  simp only [assignedAll, List.filterMap_cons, Statement.assigned?_line locatorLegible,
    Statement.assigned?_line presenceLegible, checked, List.filterMap_nil]
  exact .rfl

/-- A lookup leaves its helpers, the navigator and the test in its scope. -/
theorem scope_lookup (path : ElementPath) (target : Placeholder) (probe query : Lookup)
    (scope : Pool) :
    ((lookup path target probe query).runIn scope).2 =
      (((scope.freshAll lookupHelpers).2.insert Role.navigator.placeholder).insert
        Role.testContext.placeholder).insert Role.navigator.placeholder := rfl

/-- A lookup fills its two helpers, which nobody will get again. -/
theorem allots_lookup (path : ElementPath) (target : Placeholder) (probe query : Lookup)
    (scope : Pool) : Allots lookupHelpers [] scope ((lookup path target probe query).runIn scope) where
  fills := fillsAfter_lookup path target probe query scope
  kept placeholder member := by
    rw [scope_lookup, Pool.mem_insert, Pool.mem_insert, Pool.mem_insert]
    exact Or.inl (Or.inl (Or.inl member))
  sound sound := by
    rw [scope_lookup]
    exact (((sound.freshAll lookupHelpers).insert _).insert _).insert _

/-- What is stored in a fresh placeholder may be used by an assignment that follows. -/
theorem Allots.assign {names : List String} {scope between after : Pool} {role : Role}
    {stored : Assignment} {target : Placeholder} {source : Fragment} {text : String}
    (found : Allots names [] (scope.fresh role.name).2 (stored, between))
    (own : stored.target = (scope.fresh role.name).1) (only : source.statements = [text])
    (grown : ∀ placeholder ∈ between, placeholder ∈ after) (sound : between.Sound → after.Sound) :
    Allots (role.name :: names) [] scope
      ((Assignment.ofFragment target source).precededBy [stored.toFragment], after) where
  fills := by
    have legible := legible_fresh scope role
    rw [← own] at legible
    have fills : ((Assignment.ofFragment target source).precededBy [stored.toFragment]).FillsAfter _ :=
      found.fills.assign legible only
    rw [own] at fills
    exact fills
  kept placeholder member := grown placeholder (found.kept placeholder member)
  sound start := sound (found.sound (start.fresh role.name))

/-- The value of a field takes the helpers of a lookup and a collection. -/
theorem allots_fieldValue (path : ElementPath) (target : Placeholder) (scope : Pool) :
    Allots (Role.collection.name :: lookupHelpers) [] scope ((fieldValue path target).runIn scope) := by
  have found := allots_lookup path (scope.fresh Role.collection.name).1 .has .find
    (scope.fresh Role.collection.name).2
  apply found.assign rfl rfl
  · intro placeholder member
    exact Pool.mem_create.mpr (Or.inl member)
  · intro sound
    exact sound.insert Role.inspector.placeholder

/-- The value of an attribute takes the helpers of a lookup and an element. -/
theorem allots_attributeValue (path : AttributePath) (target : Placeholder) (scope : Pool) :
    Allots (Role.element.name :: lookupHelpers) [] scope
      ((attributeValue path target).runIn scope) := by
  have found := allots_lookup path.element (scope.fresh Role.element.name).1 .hasOne .findOne
    (scope.fresh Role.element.name).2
  exact found.assign rfl rfl (fun _ member => member) id

end Binding

/-!
### Values
-/

namespace Value

/-- The names of the placeholders that storing a value takes from its scope. -/
def helpers : Value → List String
  | .element _ => Role.collection.name :: Binding.lookupHelpers
  | .elementAttribute _ => Role.element.name :: Binding.lookupHelpers
  | _ => []

/-- The names that helpers can have. -/
def helperNames : List String :=
  Role.collection.name :: Role.element.name :: Binding.lookupHelpers

/-- Helpers play roles, but not the one that is shared. -/
theorem role_of_mem_helperNames {name : String} (member : name ∈ helperNames) :
    ∃ role : Role, role ≠ .windowSize ∧ name = role.name := by
  simp only [helperNames, Binding.lookupHelpers, List.mem_cons, List.not_mem_nil, or_false] at member
  rcases member with rfl | rfl | rfl | rfl
  · exact ⟨.collection, by decide, rfl⟩
  · exact ⟨.element, by decide, rfl⟩
  · exact ⟨.elementLocator, by decide, rfl⟩
  · exact ⟨.presence, by decide, rfl⟩

theorem lookupHelpers_subset : Binding.lookupHelpers ⊆ helperNames :=
  List.Subset.trans (List.subset_cons_self _ _) (List.subset_cons_self _ _)

theorem helpers_subset (value : Value) : value.helpers ⊆ helperNames := by
  cases value with
  | element path => exact List.cons_subset_cons _ (List.subset_cons_self _ _)
  | elementAttribute path => exact List.subset_cons_self _ _
  | _ => exact List.nil_subset _

/-- The placeholders that storing a value fills although it did not take them from its scope. -/
def shared : Value → List Placeholder
  | .browser _ => [Role.windowSize.placeholder]
  | _ => []

theorem shared_cases (value : Value) :
    value.shared = [] ∨ value.shared = [Role.windowSize.placeholder] := by
  cases value with
  | browser ref => exact Or.inr rfl
  | _ => exact Or.inl rfl

/-- A value that is read in place is stored by one line, after the size of the window if it needs that. -/
theorem fillsAfter_access? {value : Value} {fallback : String} {access : Fragment}
    (found : value.access? fallback = some access) (target : Placeholder) :
    (Assignment.ofFragment target access).FillsAfter value.shared := by
  cases Value.source_of_access? found with
  | literal text => exact Assignment.fillsAfter_of_only rfl
  | environment ref => exact Assignment.fillsAfter_of_only rfl
  | windowSize size =>
      have sized := Statement.assignedAll_line (Call.legible_role .windowSize)
        (Role.client.placeholder.token ++ windowCall)
      rw [← String.append_assoc] at sized
      have filled : (assignedAll ([].flatMap Fragment.statements ++ [_])).Perm _ := .of_eq sized
      exact Assignment.fillsAfter_of_split statements_windowSize filled
  | title title => exact Assignment.fillsAfter_of_only rfl
  | address url => exact Assignment.fillsAfter_of_only rfl

/-- However a value is stored, its helpers are filled once and not given away again. -/
theorem allots_storing? {value : Value} {target : Placeholder} {fallback : String}
    {computation : Scoped Assignment} (found : value.storing? target fallback = some computation)
    (scope : Pool) : Binding.Allots value.helpers value.shared scope (computation.runIn scope) := by
  rcases storing?_cases found with
    ⟨path, rfl, rfl⟩ | ⟨path, rfl, named, rfl⟩ | ⟨access, accessed, rfl⟩
  · exact Binding.allots_fieldValue path target scope
  · exact Binding.allots_attributeValue path target scope
  · have none : value.helpers = [] := by
      cases value with
      | element path => cases accessed
      | elementAttribute path => cases accessed
      | _ => rfl
    rw [none]
    constructor
    · rw [Pool.freshAll, List.append_nil]
      exact fillsAfter_access? accessed target
    · exact fun _ member => member
    · exact id

end Value

end StepWeaver
