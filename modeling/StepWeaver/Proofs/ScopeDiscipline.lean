/-
Module: StepWeaver.Proofs.ScopeDiscipline
Layer: Proofs
Purpose: What becomes of a scope in which something is built. Calls and assignments put what they allocate
  after everything that the scope held. If an attempt to store something fails, the scope is the one that
  it started in, with its counters: every check that can fail comes before the first allocation.
Main exports: Scoped.Grows, Attempt.Disciplined, Request.disciplined_perform, scope_kept_or_extended
-/
import StepWeaver.Proofs.Refusal
import StepWeaver.Proofs.Sessions

namespace StepWeaver

/-!
### Computations that cannot fail
-/

/-- A pool that has been extended keeps what it held, in front. -/
theorem Pool.Extends.isPrefix_toList {earlier later : Pool} {count : Nat}
    (grown : earlier.Extends later count) : earlier.toList <+: later.toList := by
  obtain ⟨added, same, _⟩ := grown
  exact ⟨added, same.symm⟩

namespace Scoped

variable {α β : Type}

/-- What the scope held before, it holds afterwards in the same places. -/
def Grows (computation : Scoped α) : Prop :=
  ∀ scope, scope.toList <+: (computation.runIn scope).2.toList

theorem grows_pure (a : α) : Grows (pure a) := fun _ => List.prefix_rfl

/-- One computation after the other keeps the places if each does. -/
theorem Grows.bind {computation : Scoped α} {next : α → Scoped β} (first : computation.Grows)
    (rest : ∀ a, (next a).Grows) : (computation >>= next).Grows := by
  intro scope
  rw [runIn_bind]
  exact (first scope).trans (rest _ _)

/-- Asking for the placeholder of a role adds it at the end, or nothing if it is there. -/
theorem grows_create (role : Role) : (create role).Grows :=
  fun scope => (scope.extends_create role.name).isPrefix_toList

/-- Allocating a placeholder adds it at the end. -/
theorem grows_fresh (role : Role) : (fresh role).Grows :=
  fun scope => (scope.extends_fresh role.name).isPrefix_toList

end Scoped

namespace Call

open Scoped (grows_create grows_pure)

theorem grows_navigate (lookup : Lookup) (arguments : Fragment) : (navigate lookup arguments).Grows :=
  (grows_create .navigator).bind fun _ => grows_pure _

/-- Asking about a path mentions the navigator and allocates nothing. -/
theorem grows_lookUp (lookup : Lookup) (path : ElementPath) : (lookUp lookup path).Grows :=
  grows_navigate lookup (locateLineage path)

theorem grows_readField (collection : Placeholder) : (readField collection).Grows :=
  (grows_create .inspector).bind fun _ => grows_pure _

theorem grows_fillField (collection value : Placeholder) : (fillField collection value).Grows :=
  (grows_create .mutator).bind fun _ => grows_pure _

theorem grows_checkStored (check : Check) (assignment : Assignment) :
    (checkStored check assignment).Grows :=
  (grows_create .testContext).bind fun _ => grows_pure _

theorem grows_checkExpression (check : Check) (expression : Fragment) :
    (checkExpression check expression).Grows :=
  (grows_create .testContext).bind fun _ => grows_pure _

theorem grows_compareStored (method : String) (expected examined : Placeholder) :
    (compareStored method expected examined).Grows :=
  (grows_create .testContext).bind fun _ => grows_pure _

end Call

namespace Binding

open Scoped (grows_fresh grows_pure)

/-- Storing what a path leads to allocates a locator and an answer, and then mentions the surroundings. -/
theorem grows_lookup (path : ElementPath) (target : Placeholder) (probe query : Lookup) :
    (lookup path target probe query).Grows := by
  apply (grows_fresh .elementLocator).bind
  intro locator
  apply (grows_fresh .presence).bind
  intro presence
  apply (Call.grows_navigate probe _).bind
  intro probed
  apply (Call.grows_checkStored .isTrue _).bind
  intro checked
  apply (Call.grows_navigate query _).bind
  intro found
  exact grows_pure _

/-- Storing the value of a form field allocates the elements before they are looked up. -/
theorem grows_fieldValue (path : ElementPath) (target : Placeholder) : (fieldValue path target).Grows := by
  apply (grows_fresh .collection).bind
  intro elements
  apply (grows_lookup path elements .has .find).bind
  intro stored
  apply (Call.grows_readField elements).bind
  intro value
  exact grows_pure _

/-- Storing the value of an attribute allocates its element before that is looked up. -/
theorem grows_attributeValue (path : AttributePath) (target : Placeholder) :
    (attributeValue path target).Grows := by
  apply (grows_fresh .element).bind
  intro owner
  apply (grows_lookup path.element owner .hasOne .findOne).bind
  intro stored
  exact grows_pure _

end Binding

/-!
### Attempts
-/

namespace Attempt

variable {α β : Type}

/-- The attempt fails in the scope that it started in, or it adds to the end of the scope. -/
structure Disciplined (attempt : Attempt α) : Prop where
  kept : ∀ scope reason, (attempt.runIn scope).1 = .error reason → (attempt.runIn scope).2 = scope
  extended : ∀ scope a, (attempt.runIn scope).1 = .ok a →
    scope.toList <+: (attempt.runIn scope).2.toList

/-- An attempt that fails at once touches nothing. -/
theorem disciplined_throw (reason : Rejection) : (throw reason : Attempt α).Disciplined where
  kept _ _ _ := rfl
  extended _ _ done := by cases done

/-- What does not look at the scope touches nothing. -/
theorem disciplined_ofExcept (result : Except Rejection α) :
    (liftM result : Attempt α).Disciplined where
  kept _ _ _ := rfl
  extended _ _ _ := List.prefix_rfl

/-- A computation that cannot fail is disciplined if it keeps the places. -/
theorem disciplined_lift {computation : Scoped α} (grows : computation.Grows) :
    (liftM computation : Attempt α).Disciplined where
  kept _ _ failed := by cases failed
  extended scope _ _ := grows scope

/-- What is done with the result of an attempt has no part in the scope. -/
theorem Disciplined.map {attempt : Attempt α} (disciplined : attempt.Disciplined) (f : α → β) :
    (f <$> attempt).Disciplined where
  kept scope reason failed := by
    rw [runIn_map] at failed ⊢
    cases outcome : (attempt.runIn scope).1 with
    | error other => exact disciplined.kept scope other outcome
    | ok a =>
        rw [outcome] at failed
        cases failed
  extended scope b done := by
    rw [runIn_map] at done ⊢
    cases outcome : (attempt.runIn scope).1 with
    | error other =>
        rw [outcome] at done
        cases done
    | ok a => exact disciplined.extended scope a outcome

end Attempt

open Attempt (disciplined_throw disciplined_ofExcept disciplined_lift)

/-- An attribute is checked for its name before anything is allocated for it. -/
theorem Binding.disciplined_elementAttribute (path : AttributePath) (target : Placeholder) :
    (elementAttribute path target).Disciplined := by
  rw [elementAttribute_eq]
  split
  · exact disciplined_lift (grows_attributeValue path target)
  · exact disciplined_throw _

namespace Binder

variable (binder : Binder) (value : Value) (target : Placeholder)

/-- Scalar values need no scope, and of the others only an attribute can fail. -/
theorem disciplined_uncast (fallback : String) :
    (binder.uncast value target fallback).Disciplined := by
  cases value with
  | element path => exact disciplined_lift (Binding.grows_fieldValue path target)
  | elementAttribute path => exact Binding.disciplined_elementAttribute path target
  | _ => exact disciplined_ofExcept _

/-- A cast comes after the value has been stored and cannot fail. -/
theorem disciplined_valueAs (cast fallback : String) :
    (binder.valueAs value target cast fallback).Disciplined := by
  rw [valueAs_eq]
  exact (binder.disciplined_uncast value target fallback).map _

/-- The same holds if only whether a value is there is stored. -/
theorem disciplined_presence : (binder.presence value target).Disciplined := by
  cases value with
  | element path => exact (disciplined_lift (Call.grows_lookUp .has path)).map _
  | elementAttribute path => exact (Binding.disciplined_elementAttribute path target).map _
  | environment ref | browser ref | page ref => exact (disciplined_ofExcept _).map _
  | literal text | dataParameter ref | elementParameter ref | pageElement ref =>
      exact disciplined_throw _

end Binder

/-- Whatever is to be stored, it is stored in a disciplined way. -/
theorem Request.disciplined_perform (binder : Binder) (target : Placeholder) (request : Request) :
    (request.perform binder target).Disciplined := by
  cases request with
  | element path => exact disciplined_lift (Binding.grows_lookup path target .hasOne .findOne)
  | collection path => exact disciplined_lift (Binding.grows_lookup path target .has .find)
  | fieldValue path => exact disciplined_lift (Binding.grows_fieldValue path target)
  | elementAttribute path => exact Binding.disciplined_elementAttribute path target
  | scalar operand fallback => exact disciplined_ofExcept _
  | value operand => exact binder.disciplined_valueAs operand target _ _
  | valueAs operand cast fallback => exact binder.disciplined_valueAs operand target cast fallback
  | presence operand => exact binder.disciplined_presence operand target

/-- Storing a value with a cast calls the value unusable, in its own words, exactly when it cannot be
    stored. Whatever is stored, a failure leaves the scope as it was, with its members and its counters,
    and a success leaves what the scope held in front; so does every call of the generated source. -/
theorem scope_kept_or_extended (settings : Settings) :
    (∀ value target cast fallback scope text,
      (((Binder.ofSettings settings).valueAs value target cast fallback).runIn scope).1 =
          .error (.unusableValue text) ↔
        value.isStorable = false ∧ text = value.describe) ∧
    (∀ (request : Request) (target : Placeholder),
      (request.perform (Binder.ofSettings settings) target).Disciplined) ∧
    (∀ lookup arguments, (Call.navigate lookup arguments).Grows) ∧
    (∀ lookup path, (Call.lookUp lookup path).Grows) ∧
    (∀ collection, (Call.readField collection).Grows) ∧
    (∀ collection value, (Call.fillField collection value).Grows) ∧
    (∀ check assignment, (Call.checkStored check assignment).Grows) ∧
    (∀ check expression, (Call.checkExpression check expression).Grows) ∧
    ∀ method expected examined, (Call.compareStored method expected examined).Grows := by
  refine ⟨?_, fun request target => request.disciplined_perform _ target, Call.grows_navigate,
    Call.grows_lookUp, Call.grows_readField, Call.grows_fillField, Call.grows_checkStored,
    Call.grows_checkExpression, Call.grows_compareStored⟩
  intro value target cast fallback scope text
  have decided := Binder.decided_valueAs settings value target cast fallback
  exact (decided.eq_error_iff scope).trans Settings.failure?_eq_unusable_iff

end StepWeaver
