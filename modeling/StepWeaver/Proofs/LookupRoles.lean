/-
Module: StepWeaver.Proofs.LookupRoles
Layer: Proofs
Purpose: How often woven source assigns to the placeholders that belong to one lookup. Each assignment to
  such a placeholder is paid for by the scope, which did not hold the placeholder before and holds it
  afterwards; so there is at most one. The size of the window is not taken from the scope. It is assigned
  once for each operand that asks for it, hence twice when a size is compared with a size.
Main exports: Role.isPerLookup, Fragment.assignments, Pool.holds, Binding.Allots.holds_add_count_le,
  Action.Source.assignments_le_one, Assertion.Source.assignments_cases, Weaver.assignments_of_lookups
-/
import StepWeaver.Proofs.Bindings
import StepWeaver.Proofs.Meaning

namespace StepWeaver

open Statement (assignedAll)

/-!
### Placeholders of a lookup
-/

/-- Whether a role belongs to one lookup. -/
def Role.isPerLookup : Role → Bool
  | elementLocator | element | collection | presence | windowSize => true
  | _ => false

/-- No two roles are played by the same placeholder. -/
theorem Role.placeholder_inj {left right : Role} (same : left.placeholder = right.placeholder) :
    left = right := by
  have names : left.name = right.name := congrArg Placeholder.name same
  exact Role.name_injective names

namespace Placeholder

/-- The placeholder plays a role that belongs to one lookup. -/
def IsPerLookup (placeholder : Placeholder) : Prop :=
  ∃ role : Role, role.isPerLookup = true ∧ placeholder.name = role.name

theorem IsPerLookup.playsRole {placeholder : Placeholder} (perLookup : placeholder.IsPerLookup) :
    placeholder.PlaysRole := by
  obtain ⟨role, _, named⟩ := perLookup
  exact ⟨role, named⟩

/-- What belongs to one lookup is never one of the other roles, however it is numbered. -/
theorem IsPerLookup.ne_role {placeholder : Placeholder} (perLookup : placeholder.IsPerLookup)
    {role : Role} (other : role.isPerLookup = false) : placeholder ≠ role.placeholder := by
  intro same
  obtain ⟨own, isPerLookup, named⟩ := perLookup
  rw [same] at named
  obtain rfl : role = own := Role.name_injective named
  rw [other] at isPerLookup
  cases isPerLookup

/-- An assignment to any other role does not count. -/
theorem IsPerLookup.count_role_token {placeholder : Placeholder} (perLookup : placeholder.IsPerLookup)
    {role : Role} (other : role.isPerLookup = false) :
    [role.placeholder.token].count placeholder.token = 0 := by
  rw [List.count_eq_zero, List.mem_singleton]
  intro same
  have rolePlays : role.placeholder.PlaysRole := ⟨role, rfl⟩
  exact perLookup.ne_role other (perLookup.playsRole.eq_of_token_eq rolePlays same)

/-- Placeholders of roles may be counted by their tokens. -/
theorem count_token {placeholders : List Placeholder}
    (play : ∀ other ∈ placeholders, other.PlaysRole) {placeholder : Placeholder}
    (plays : placeholder.PlaysRole) :
    (placeholders.map token).count placeholder.token = placeholders.count placeholder := by
  induction placeholders with
  | nil => rfl
  | cons other placeholders ih =>
      rw [List.forall_mem_cons] at play
      have same : other.token = placeholder.token ↔ other = placeholder :=
        ⟨play.1.eq_of_token_eq plays, congrArg token⟩
      rw [List.map_cons, List.count_cons, List.count_cons, ih play.2]
      simp only [beq_iff_eq, same]

end Placeholder

/-!
### Counting assignments
-/

namespace Fragment

/-- How often a fragment assigns to a placeholder. -/
def assignments (fragment : Fragment) (placeholder : Placeholder) : Nat :=
  (assignedAll fragment.statements).count placeholder.token

theorem assignments_concat_nil (placeholder : Placeholder) : (concat []).assignments placeholder = 0 := rfl

theorem assignments_concat_cons (part : Fragment) (parts : List Fragment)
    (placeholder : Placeholder) :
    (concat (part :: parts)).assignments placeholder =
      part.assignments placeholder + (concat parts).assignments placeholder := by
  simp only [assignments, statements_concat, List.flatMap_cons, Statement.assignedAll_append,
    List.count_append]

/-- A statement that assigns to nothing does not count. -/
theorem assignments_ofStatement {statement : String} (none : Statement.assigned? statement = none)
    (exports : List Placeholder) (placeholder : Placeholder) :
    (ofStatement statement exports).assignments placeholder = 0 := by
  rw [assignments, ofStatement, Statement.assignedAll_of_none none]
  rfl

end Fragment

namespace Assignment

/-- An assignment assigns to its target once and to its helpers as often as they are listed. -/
theorem FillsAfter.assignments_eq {assignment : Assignment} {helpers : List Placeholder}
    (fills : assignment.FillsAfter helpers) (targetPlays : assignment.target.PlaysRole)
    (helpersPlay : ∀ helper ∈ helpers, helper.PlaysRole) {placeholder : Placeholder}
    (plays : placeholder.PlaysRole) :
    assignment.toFragment.assignments placeholder =
      (assignment.target :: helpers).count placeholder := by
  have play : ∀ other ∈ assignment.target :: helpers, other.PlaysRole :=
    List.forall_mem_cons.mpr ⟨targetPlays, helpersPlay⟩
  rw [Fragment.assignments, (fills.assigned targetPlays.legible).count_eq,
    Placeholder.count_token play plays]

end Assignment

/-!
### Payment by the scope
-/

/-- One if the pool holds the placeholder. -/
def Pool.holds (pool : Pool) (placeholder : Placeholder) : Nat :=
  if placeholder ∈ pool then 1 else 0

theorem Pool.holds_le_one (pool : Pool) (placeholder : Placeholder) : pool.holds placeholder ≤ 1 := by
  unfold holds
  split <;> decide

namespace Binding

variable {names : List String} {shared : List Placeholder} {scope : Pool} {result : Assignment × Pool}

/-- A placeholder comes up in a batch only if the scope gets to hold it by that. -/
theorem Allots.holds_add_count_le (allots : Allots names shared scope result) (sound : scope.Sound)
    (affords : scope.Affords names) (placeholder : Placeholder) :
    scope.holds placeholder + (scope.freshAll names).1.count placeholder ≤
      result.2.holds placeholder := by
  have kept : placeholder ∈ scope ∨ placeholder ∈ (scope.freshAll names).1 →
      placeholder ∈ result.2 := fun member => allots.kept placeholder (Pool.mem_freshAll.mpr member)
  by_cases fresh : placeholder ∈ (scope.freshAll names).1
  · have absent := Pool.not_mem_of_mem_freshAll sound affords fresh
    have once := List.nodup_iff_count_le_one.mp (Pool.nodup_freshAll sound affords) placeholder
    rw [Pool.holds, Pool.holds, if_neg absent, if_pos (kept (Or.inr fresh)), Nat.zero_add]
    exact once
  · rw [List.count_eq_zero.mpr fresh, Nat.add_zero]
    by_cases held : placeholder ∈ scope
    · rw [Pool.holds, Pool.holds, if_pos held, if_pos (kept (Or.inl held))]
    · rw [Pool.holds, if_neg held]
      exact Nat.zero_le _

/-- A batch of helpers plays roles, but not that of the size of the window. -/
theorem playsRole_of_mem_freshAll (known : names ⊆ Value.helperNames) {placeholder : Placeholder}
    (member : placeholder ∈ (scope.freshAll names).1) :
    placeholder.PlaysRole ∧ placeholder ≠ Role.windowSize.placeholder := by
  obtain ⟨role, notShared, named⟩ :=
    Value.role_of_mem_helperNames (known (Pool.name_mem_of_mem_freshAll member))
  refine ⟨⟨role, named⟩, ?_⟩
  intro size
  have same : role.name = Role.windowSize.name := named.symm.trans (congrArg Placeholder.name size)
  exact notShared (Role.name_injective same)

/-- The size of the window never comes up in a batch. -/
theorem count_windowSize_freshAll (known : names ⊆ Value.helperNames) (scope : Pool) :
    (scope.freshAll names).1.count Role.windowSize.placeholder = 0 := by
  apply List.count_eq_zero.mpr
  intro member
  exact (playsRole_of_mem_freshAll known member).2 rfl

/-- A storing assigns once to its target, to each shared helper and to each of its batch, and to nothing
    else. -/
theorem Allots.assignments_eq (allots : Allots names shared scope result)
    (known : names ⊆ Value.helperNames)
    (sharedPlay : ∀ placeholder ∈ shared, placeholder.PlaysRole)
    (targetPlays : result.1.target.PlaysRole) {placeholder : Placeholder}
    (plays : placeholder.PlaysRole) :
    result.1.toFragment.assignments placeholder =
      [result.1.target].count placeholder +
        (shared.count placeholder + (scope.freshAll names).1.count placeholder) := by
  have play : ∀ helper ∈ shared ++ (scope.freshAll names).1, helper.PlaysRole :=
    List.forall_mem_append.mpr
      ⟨sharedPlay, fun _ member => (playsRole_of_mem_freshAll known member).1⟩
  rw [allots.fills.assignments_eq targetPlays play plays, ← List.singleton_append, List.count_append,
    List.count_append]

end Binding

/-!
### Operands
-/

/-- Whether a value is a property of the browser, of which there is only the size of its window. -/
def Value.isBrowser : Value → Bool
  | .browser _ => true
  | _ => false

namespace Value

theorem eq_of_mem_shared {value : Value} {placeholder : Placeholder}
    (member : placeholder ∈ value.shared) : placeholder = Role.windowSize.placeholder := by
  cases value with
  | browser ref => exact List.mem_singleton.mp member
  | _ => exact absurd member List.not_mem_nil

theorem count_shared (value : Value) :
    value.shared.count Role.windowSize.placeholder = if value.isBrowser then 1 else 0 := by
  cases value with
  | browser ref => exact List.count_singleton_self
  | _ => rfl

theorem count_shared_of_ne (value : Value) {placeholder : Placeholder}
    (other : placeholder ≠ Role.windowSize.placeholder) : value.shared.count placeholder = 0 := by
  apply List.count_eq_zero.mpr
  intro member
  exact other (eq_of_mem_shared member)

/-- No value takes more than three helpers. -/
theorem length_helpers_le (value : Value) : value.helpers.length ≤ 3 := by
  cases value with
  | element path => exact Nat.le_refl 3
  | elementAttribute path => exact Nat.le_refl 3
  | _ => exact Nat.zero_le 3

variable {value : Value} {fallback : String} {computation : Scoped Assignment} {role : Role}
  {placeholder : Placeholder}

/-- An operand assigns to a placeholder of a lookup as often as it shares it or takes it from its
    scope. -/
theorem assignments_storing? (found : value.storing? role.placeholder fallback = some computation)
    (other : role.isPerLookup = false) (perLookup : placeholder.IsPerLookup) (scope : Pool) :
    (computation.runIn scope).1.toFragment.assignments placeholder =
      value.shared.count placeholder + (scope.freshAll value.helpers).1.count placeholder := by
  have own := target_storing? found scope
  have targetPlays : (computation.runIn scope).1.target.PlaysRole :=
    ⟨role, congrArg Placeholder.name own⟩
  have sharedPlay : ∀ placeholder ∈ value.shared, placeholder.PlaysRole := by
    intro placeholder member
    exact ⟨.windowSize, congrArg Placeholder.name (eq_of_mem_shared member)⟩
  have away : [(computation.runIn scope).1.target].count placeholder = 0 := by
    rw [List.count_eq_zero, List.mem_singleton, own]
    exact perLookup.ne_role other
  rw [(allots_storing? found scope).assignments_eq value.helpers_subset sharedPlay targetPlays
    perLookup.playsRole, away, Nat.zero_add]

/-- A cast assigns to the target once more and leaves what belongs to a lookup alone. -/
theorem assignments_castTo (cast : String) (plain : Assignment) (other : role.isPerLookup = false)
    (perLookup : placeholder.IsPerLookup) :
    (Binder.castTo cast role.placeholder plain).toFragment.assignments placeholder =
      plain.toFragment.assignments placeholder := by
  rw [Fragment.assignments, Binder.castTo, Assignment.statements_revise, Statement.assignedAll_append,
    Statement.assignedAll_line (Call.legible_role role), List.count_append,
    perLookup.count_role_token other, Nat.add_zero]
  rfl

/-- The size of the window is stored once for each operand that asks for it. -/
theorem assignments_storing?_windowSize
    (found : value.storing? role.placeholder fallback = some computation)
    (other : role.isPerLookup = false) (scope : Pool) :
    (computation.runIn scope).1.toFragment.assignments Role.windowSize.placeholder =
      if value.isBrowser then 1 else 0 := by
  rw [assignments_storing? found other ⟨.windowSize, rfl, rfl⟩, count_shared,
    Binding.count_windowSize_freshAll value.helpers_subset, Nat.add_zero]

/-- What an operand assigns to otherwise is paid for by the scope. -/
theorem assignments_storing?_le_holds
    (found : value.storing? role.placeholder fallback = some computation)
    (other : role.isPerLookup = false) (perLookup : placeholder.IsPerLookup)
    (notSize : placeholder ≠ Role.windowSize.placeholder) {scope : Pool} (sound : scope.Sound)
    (room : scope.size + 3 ≤ UInt32.size) :
    scope.holds placeholder + (computation.runIn scope).1.toFragment.assignments placeholder ≤
      (computation.runIn scope).2.holds placeholder := by
  have few := value.length_helpers_le
  rw [assignments_storing? found other perLookup, value.count_shared_of_ne notSize, Nat.zero_add]
  exact (allots_storing? found scope).holds_add_count_le sound (Pool.affords_of_size (by omega))
    placeholder

/-- One operand alone never needs a placeholder of a lookup twice. -/
theorem assignments_storing?_le_one
    (found : value.storing? role.placeholder fallback = some computation)
    (other : role.isPerLookup = false) (perLookup : placeholder.IsPerLookup) {scope : Pool}
    (sound : scope.Sound) (room : scope.size + 3 ≤ UInt32.size) :
    (computation.runIn scope).1.toFragment.assignments placeholder ≤ 1 := by
  by_cases size : placeholder = Role.windowSize.placeholder
  · rw [size, assignments_storing?_windowSize found other]
    split <;> decide
  · have paid := assignments_storing?_le_holds found other perLookup size sound room
    have bound := (computation.runIn scope).2.holds_le_one placeholder
    omega

end Value

/-!
### Actions
-/

theorem Pool.sound_ofNames (names : List String) : (ofNames names).Sound :=
  sound_of_isEmpty (lastNumbers_ofNames names)

theorem Pool.count_singleton_le_holds {pool : Pool} {held : Placeholder} (member : held ∈ pool)
    (placeholder : Placeholder) : [held].count placeholder ≤ pool.holds placeholder := by
  by_cases same : placeholder = held
  · rw [same, holds, if_pos member, List.count_singleton_self]
  · have absent : placeholder ∉ [held] := fun here => same (List.mem_singleton.mp here)
    rw [List.count_eq_zero.mpr absent]
    exact Nat.zero_le _

/-- A lookup assigns to a placeholder that its scope held for it, or that it took from the scope. -/
theorem Binding.assignments_lookup (path : ElementPath) (role : Role) (probe query : Lookup)
    (scope : Pool) {placeholder : Placeholder} (plays : placeholder.PlaysRole) :
    ((lookup path role.placeholder probe query).runIn scope).1.toFragment.assignments placeholder =
      [role.placeholder].count placeholder +
        (scope.freshAll lookupHelpers).1.count placeholder := by
  have none : ∀ placeholder ∈ ([] : List Placeholder), placeholder.PlaysRole :=
    fun _ member => absurd member List.not_mem_nil
  have assigned := (allots_lookup path role.placeholder probe query scope).assignments_eq
    Value.lookupHelpers_subset none ⟨role, rfl⟩ plays
  rw [List.count_nil, Nat.zero_add] at assigned
  exact assigned

/-- A lookup whose target is in the scope already is paid for by the scope. -/
theorem Binding.assignments_lookup_le_holds (path : ElementPath) {role : Role} (probe query : Lookup)
    {scope : Pool} (held : role.placeholder ∈ scope) (sound : scope.Sound)
    (room : scope.size + 2 ≤ UInt32.size) {placeholder : Placeholder}
    (plays : placeholder.PlaysRole) :
    ((lookup path role.placeholder probe query).runIn scope).1.toFragment.assignments placeholder ≤
      ((lookup path role.placeholder probe query).runIn scope).2.holds placeholder := by
  have target := Pool.count_singleton_le_holds held placeholder
  have paid := (allots_lookup path role.placeholder probe query scope).holds_add_count_le sound
    (Pool.affords_of_size room) placeholder
  rw [assignments_lookup path role probe query scope plays]
  omega

/-- A lookup never stores the size of the window. -/
theorem Binding.assignments_lookup_windowSize (path : ElementPath) {role : Role}
    (notSize : role ≠ .windowSize) (probe query : Lookup) (scope : Pool) :
    ((lookup path role.placeholder probe query).runIn scope).1.toFragment.assignments
      Role.windowSize.placeholder = 0 := by
  have away : [role.placeholder].count Role.windowSize.placeholder = 0 := by
    rw [List.count_eq_zero, List.mem_singleton]
    intro same
    exact notSize (Role.placeholder_inj same).symm
  rw [assignments_lookup path role probe query scope ⟨.windowSize, rfl⟩, away,
    count_windowSize_freshAll Value.lookupHelpers_subset]

/-- A method that is called on an object assigns to nothing. -/
theorem Statement.assigned?_methodCall {object : Placeholder} {method : String}
    (legible : object.Legible) (isPlain : Placeholder.IsPlain method) :
    assigned? (object.token ++ "->" ++ method ++ "()") = none := by
  rw [assigned?, (Call.reads_methodCall legible isPlain).symbols_eq]
  simp [Placeholder.plain, line?]

theorem Statement.assigned?_sleep {target : Placeholder} (legible : target.Legible) :
    assigned? ("usleep(" ++ target.token ++ " * 1000)") = none := by
  rw [assigned?, (reads_sleep legible).symbols_eq]
  rfl

/-- To go to another page assigns to the crawler, which belongs to no lookup. -/
theorem Rule.assignments_crawl (call : String) {placeholder : Placeholder}
    (perLookup : placeholder.IsPerLookup) : (crawl call).assignments placeholder = 0 := by
  have line := Statement.assignedAll_line (Call.legible_role .crawler)
    (Role.client.placeholder.token ++ ("->" ++ call))
  rw [← String.append_assoc, ← String.append_assoc] at line
  rw [Fragment.assignments, crawl, Fragment.ofStatement, line]
  exact perLookup.count_role_token rfl

/-- An action assigns at most once to each placeholder of a lookup. -/
theorem Action.Source.assignments_le_one {settings : Settings} {action : Action}
    {fragment : Fragment} (source : Action.Source settings action fragment)
    {placeholder : Placeholder} (perLookup : placeholder.IsPerLookup) :
    fragment.assignments placeholder ≤ 1 := by
  cases source with
  | wait found =>
      have slept := Fragment.assignments_ofStatement
        (Statement.assigned?_sleep (Call.legible_role .duration)) [Role.duration.placeholder] placeholder
      have stored := Value.assignments_storing?_le_one found rfl perLookup
        (Pool.sound_ofNames [Role.duration.name]) (by decide)
      simp only [Fragment.assignments_concat_cons, Fragment.assignments_concat_nil, slept]
      rw [Value.assignments_castTo _ _ rfl perLookup]
      exact stored
  | navigate kind =>
      rw [Rule.assignments_crawl _ perLookup]
      exact Nat.zero_le 1
  | @act kind path direct =>
      have acted := Fragment.assignments_ofStatement
        (Statement.assigned?_methodCall (Call.legible_role .element) (isPlain_interaction kind))
        [Role.element.placeholder] placeholder
      have held : Role.element.placeholder ∈ Pool.ofNames [Role.element.name] := by decide
      have paid := Binding.assignments_lookup_le_holds path .hasOne .findOne held (Pool.sound_ofNames _)
        (by decide) perLookup.playsRole
      simp only [Fragment.assignments_concat_cons, Fragment.assignments_concat_nil, acted]
      exact Nat.le_trans paid (Pool.holds_le_one _ placeholder)
  | waitFor path =>
      rw [Rule.assignments_crawl _ perLookup]
      exact Nat.zero_le 1
  | @input path text computation fields between found lookedUp =>
      let scope := Pool.ofNames [Role.collection.name, Role.value.name]
      change (Binding.lookup path Role.collection.placeholder .has .find).runIn scope = _ at lookedUp
      have filled : (Call.fillField Role.collection.placeholder
          Role.value.placeholder).alone.assignments placeholder = 0 :=
        Fragment.assignments_ofStatement (Statement.assigned?_of_call
          (Call.reads_fillField (Call.legible_role .collection) (Call.legible_role .value)).symbols_eq)
          _ placeholder
      have sound := Pool.sound_ofNames [Role.collection.name, Role.value.name]
      have allots := Binding.allots_lookup path Role.collection.placeholder .has .find scope
      have grown := extends_lookup path Role.collection.placeholder .has .find scope
      obtain rfl : _ = fields := congrArg Prod.fst lookedUp
      obtain rfl : _ = between := congrArg Prod.snd lookedUp
      have room := grown.room (show scope.size + 5 + 3 < UInt32.size by decide)
      simp only [Fragment.assignments_concat_cons, Fragment.assignments_concat_nil, filled]
      rw [Value.assignments_castTo _ _ rfl perLookup]
      -- The size of the window is not handed out by the scope, so it is counted apart.
      by_cases size : placeholder = Role.windowSize.placeholder
      · have value := Value.assignments_storing?_le_one found rfl perLookup (allots.sound sound)
          (Nat.le_of_lt room)
        rw [size] at value ⊢
        rw [Binding.assignments_lookup_windowSize path (by decide)]
        omega
      · have held : Role.collection.placeholder ∈ scope := by decide
        have fields := Binding.assignments_lookup_le_holds path .has .find held sound (by decide)
          perLookup.playsRole
        have value := Value.assignments_storing?_le_holds found rfl perLookup size (allots.sound sound)
          (Nat.le_of_lt room)
        exact Nat.le_trans (Nat.add_le_add_right fields _)
          (Nat.le_trans value (Pool.holds_le_one _ placeholder))

/-!
### Assertions
-/

/-- Whether an assertion compares two properties of the browser. -/
def Assertion.comparesBrowser : Assertion → Bool
  | .compare examined _ expected => examined.isBrowser && expected.isBrowser
  | _ => false

/-- The check that follows an assignment assigns to nothing. -/
theorem Rule.assignments_checkPresence (expected : Bool) {stored : Assignment}
    (legible : stored.target.Legible) (placeholder : Placeholder) :
    (checkPresence expected stored).alone.assignments placeholder =
      stored.toFragment.assignments placeholder := by
  have checked := Fragment.assignments_ofStatement (Statement.assigned?_of_call
    (Call.reads_check (if expected then .isNotNull else .isNull)
      (Placeholder.reads_token legible)).symbols_eq)
    [Role.testContext.placeholder, stored.target] placeholder
  have parts : (checkPresence expected stored).alone = Fragment.concat [stored.toFragment, _] := rfl
  rw [parts, Fragment.assignments_concat_cons, Fragment.assignments_concat_cons,
    Fragment.assignments_concat_nil]
  exact congrArg (stored.toFragment.assignments placeholder + ·) checked

/-- Two operands, the second of which starts in the scope that the first one leaves, assign to the size
    of the window as often as they ask for it, and at most once to every other placeholder. -/
theorem Value.assignments_pair {examined expected : Value} {fallback : String}
    {first second : Scoped Assignment} {role other : Role} {placeholder : Placeholder}
    (foundFirst : examined.storing? role.placeholder fallback = some first)
    (foundSecond : expected.storing? other.placeholder fallback = some second)
    (away : role.isPerLookup = false) (otherAway : other.isPerLookup = false)
    (perLookup : placeholder.IsPerLookup) {scope : Pool} (sound : scope.Sound)
    (room : scope.size + 7 + 3 < UInt32.size) :
    let both := (first.runIn scope).1.toFragment.assignments placeholder +
      (second.runIn (first.runIn scope).2).1.toFragment.assignments placeholder
    if (examined.isBrowser && expected.isBrowser) = true ∧
        placeholder = Role.windowSize.placeholder then both = 2 else both ≤ 1 := by
  intro both
  have between := (Value.allots_storing? foundFirst scope).sound sound
  have left := (extends_storing foundFirst scope).room room
  by_cases size : placeholder = Role.windowSize.placeholder
  · have sizes : both = (if examined.isBrowser then 1 else 0) + if expected.isBrowser then 1 else 0 := by
      unfold both
      rw [size, Value.assignments_storing?_windowSize foundFirst away,
        Value.assignments_storing?_windowSize foundSecond otherAway]
    rw [sizes]
    cases examined.isBrowser <;> cases expected.isBrowser <;> simp [size]
  · have firstPaid := Value.assignments_storing?_le_holds foundFirst away perLookup size sound
      (by omega)
    have secondPaid := Value.assignments_storing?_le_holds foundSecond otherAway perLookup size between
      (Nat.le_of_lt left)
    have bound := (second.runIn (first.runIn scope).2).2.holds_le_one placeholder
    rw [if_neg fun condition => size condition.2]
    omega

/-- An assertion that compares two properties of the browser stores the size of the window twice in the
    same placeholder. Otherwise there is at most one assignment. -/
theorem Assertion.Source.assignments_cases {settings : Settings} {assertion : Assertion}
    {fragment : Fragment} (source : Assertion.Source settings assertion fragment)
    {placeholder : Placeholder} (perLookup : placeholder.IsPerLookup) :
    if assertion.comparesBrowser = true ∧ placeholder = Role.windowSize.placeholder then
      fragment.assignments placeholder = 2
    else fragment.assignments placeholder ≤ 1 := by
  cases source with
  | @elementPresence _ expected path asked =>
      have found := Call.readsAs_navigate .has (Call.readsAs_locateLineage path) ∅
      obtain ⟨text, only, reads⟩ := Call.readsAs_checkExpression
        (if expected then .isTrue else .isFalse) found ∅
      have none : (Call.checkExpression (if expected then .isTrue else .isFalse)
          (Call.lookUp .has path).alone).alone.assignments placeholder = 0 := by
        rw [Fragment.assignments]
        have nothing := Statement.assignedAll_of_none (Statement.assigned?_of_call reads.symbols_eq)
        rw [← only] at nothing
        exact congrArg (List.count placeholder.token) nothing
      rw [if_neg fun condition => Bool.false_ne_true condition.1, none]
      exact Nat.zero_le 1
  | @presence examined _ expected computation asked noElement found =>
      have legible := Call.legible_role .examinedValue
      rw [← Value.target_storing? found (Pool.ofNames [Role.examinedValue.name])] at legible
      rw [if_neg fun condition => Bool.false_ne_true condition.1,
        Rule.assignments_checkPresence expected legible]
      exact Value.assignments_storing?_le_one found rfl perLookup
        (Pool.sound_ofNames [Role.examinedValue.name]) (by decide)
  | @compare examined expected _ method storeExamined storeExpected stored between asked foundExamined
      foundExpected ran =>
      have compared : (Call.compareStored method Role.expectedValue.placeholder
          Role.examinedValue.placeholder).alone.assignments placeholder = 0 :=
        Fragment.assignments_ofStatement (Statement.assigned?_of_call
          (Call.reads_compareStored (isPlain_comparisonMethod asked) (Call.legible_role .expectedValue)
            (Call.legible_role .examinedValue)).symbols_eq) _ placeholder
      obtain rfl : _ = stored := congrArg Prod.fst ran
      obtain rfl : _ = between := congrArg Prod.snd ran
      simp only [Fragment.assignments_concat_cons, Fragment.assignments_concat_nil, compared,
        Nat.add_zero]
      rw [Value.assignments_castTo _ _ rfl perLookup, Value.assignments_castTo _ _ rfl perLookup]
      exact Value.assignments_pair foundExamined foundExpected rfl rfl perLookup
        (Pool.sound_ofNames [Role.examinedValue.name, Role.expectedValue.name]) (by decide)

/-- Woven source assigns at most once to each placeholder that belongs to a lookup, with one exception: an
    assertion that compares two properties of the browser stores the size of the window twice, both times
    in the same placeholder. -/
theorem Weaver.assignments_of_lookups (settings : Settings) :
    (∀ action fragment, (ofSettings settings).actions.weave action = .ok fragment →
      ∀ placeholder : Placeholder, placeholder.IsPerLookup → fragment.assignments placeholder ≤ 1) ∧
    ∀ assertion fragment, (ofSettings settings).assertions.weave assertion = .ok fragment →
      ∀ placeholder : Placeholder, placeholder.IsPerLookup →
        if assertion.comparesBrowser = true ∧ placeholder = Role.windowSize.placeholder then
          fragment.assignments placeholder = 2
        else fragment.assignments placeholder ≤ 1 := by
  constructor
  · intro action fragment woven placeholder perLookup
    exact (Action.source_of_weave woven).assignments_le_one perLookup
  · intro assertion fragment woven placeholder perLookup
    exact (Assertion.source_of_weave woven).assignments_cases perLookup

-- Both nodes look up two lists of elements, and the first of the action is under its target's name.
theorem Weaver.assignments_of_lookups_elements :
    let fields : ElementPath := ⟨.ofText ".a", []⟩
    let other : Value := .element ⟨.ofText ".b", []⟩
    Role.collection.placeholder.IsPerLookup ∧
      (∃ fragment, (ofSettings .standard).actions.weave (.input (.element fields) other) = .ok fragment ∧
        fragment.assignments Role.collection.placeholder ≤ 1) ∧
      ∃ fragment,
        (ofSettings .standard).assertions.weave (.compare (.element fields) .equal other) = .ok fragment ∧
          fragment.assignments Role.collection.placeholder ≤ 1 := by
  intro fields other
  have perLookup : Role.collection.placeholder.IsPerLookup := ⟨.collection, rfl, rfl⟩
  obtain ⟨typed, wovenAction⟩ : ∃ fragment,
      (ofSettings .standard).actions.weave (.input (.element fields) other) = .ok fragment := ⟨_, rfl⟩
  obtain ⟨compared, wovenAssertion⟩ : ∃ fragment,
      (ofSettings .standard).assertions.weave (.compare (.element fields) .equal other) =
        .ok fragment := ⟨_, rfl⟩
  obtain ⟨actions, assertions⟩ := assignments_of_lookups .standard
  have once := assertions _ compared wovenAssertion _ perLookup
  rw [if_neg fun condition => Bool.false_ne_true condition.1] at once
  exact ⟨perLookup, ⟨typed, wovenAction, actions _ typed wovenAction _ perLookup⟩, compared,
    wovenAssertion, once⟩

/-- The second size that is looked up overwrites the first one. -/
theorem Weaver.windowSize_assigned_twice :
    let size : Value := .ofBrowser "size"
    Role.windowSize.placeholder.IsPerLookup ∧
      ∃ fragment, standard.assertions.weave (.compare size .equal size) = .ok fragment ∧
        fragment.assignments Role.windowSize.placeholder = 2 := by
  intro size
  obtain ⟨fragment, woven⟩ : ∃ fragment,
      standard.assertions.weave (.compare size .equal size) = .ok fragment := ⟨_, rfl⟩
  have perLookup : Role.windowSize.placeholder.IsPerLookup := ⟨.windowSize, rfl, rfl⟩
  have twice := (Assertion.source_of_weave woven).assignments_cases perLookup
  rw [if_pos ⟨rfl, rfl⟩] at twice
  exact ⟨perLookup, fragment, woven, twice⟩

end StepWeaver
