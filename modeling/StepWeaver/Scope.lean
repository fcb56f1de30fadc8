/-
Module: StepWeaver.Scope
Layer: Rules
Purpose: Building source in a scope, the pool from which placeholders are allocated.
Main exports: Scoped, Scoped.create, Scoped.fresh, Scoped.runIn, Attempt, Attempt.runIn
-/
import StepWeaver.Placeholder.Pool
import StepWeaver.Rejection
import StepWeaver.Role

namespace StepWeaver

/-- A computation that allocates placeholders in a scope. -/
abbrev Scoped (α : Type) : Type := StateM Pool α

namespace Scoped

variable {α β : Type}

/-- The result of a computation in a scope, and the scope after it. -/
def runIn (computation : Scoped α) (scope : Pool) : α × Pool := computation scope

/-- The placeholder of a role that everybody in the scope shares. -/
def create (role : Role) : Scoped Placeholder := fun scope => scope.create role.name

/-- A placeholder of a role that nobody in the scope uses yet. -/
def fresh (role : Role) : Scoped Placeholder := fun scope => scope.fresh role.name

/-- The result of a computation in a scope of its own. -/
def alone (computation : Scoped α) : α := (computation.runIn ∅).1

@[simp] theorem runIn_pure (a : α) (scope : Pool) : runIn (pure a) scope = (a, scope) := rfl

@[simp] theorem runIn_bind (computation : Scoped α) (next : α → Scoped β) (scope : Pool) :
    runIn (computation >>= next) scope =
      (next (computation.runIn scope).1).runIn (computation.runIn scope).2 := rfl

@[simp] theorem runIn_map (f : α → β) (computation : Scoped α) (scope : Pool) :
    runIn (f <$> computation) scope =
      (f (computation.runIn scope).1, (computation.runIn scope).2) := rfl

@[simp] theorem runIn_create (role : Role) (scope : Pool) :
    (create role).runIn scope = scope.create role.name := rfl

@[simp] theorem runIn_fresh (role : Role) (scope : Pool) :
    (fresh role).runIn scope = scope.fresh role.name := rfl

end Scoped

/-- A computation in a scope that may fail. What it has allocated stays allocated if it fails. -/
abbrev Attempt (α : Type) : Type := ExceptT Rejection (StateM Pool) α

namespace Attempt

variable {α β : Type}

/-- The result of an attempt in a scope, and the scope after it. -/
def runIn (attempt : Attempt α) (scope : Pool) : Except Rejection α × Pool :=
  Scoped.runIn attempt.run scope

/-- The result of an attempt in a scope of its own. -/
def alone (attempt : Attempt α) : Except Rejection α := (attempt.runIn ∅).1

/-- Blames a value that cannot be used on the part of the test that it belongs to. -/
def within {γ : Type} [Node γ] (node : γ) (attempt : Attempt α) : Attempt α :=
  attempt.adapt (Rejection.within node)

@[simp] theorem runIn_pure (a : α) (scope : Pool) : runIn (pure a) scope = (.ok a, scope) := rfl

@[simp] theorem runIn_throw (rejection : Rejection) (scope : Pool) :
    runIn (throw rejection : Attempt α) scope = (.error rejection, scope) := rfl

/-- A computation that cannot fail does not fail as an attempt. -/
@[simp] theorem runIn_lift (computation : Scoped α) (scope : Pool) :
    runIn (liftM computation) scope =
      (.ok (computation.runIn scope).1, (computation.runIn scope).2) := rfl

/-- A result that needs no scope leaves the scope as it is. -/
@[simp] theorem runIn_ofExcept (result : Except Rejection α) (scope : Pool) :
    runIn (liftM result) scope = (result, scope) := rfl

/-- The first failure ends an attempt, in the scope in which it happens. -/
theorem runIn_bind (attempt : Attempt α) (next : α → Attempt β) (scope : Pool) :
    runIn (attempt >>= next) scope =
      match attempt.runIn scope with
      | (.ok a, scope) => (next a).runIn scope
      | (.error rejection, scope) => (.error rejection, scope) := by
  show Scoped.runIn (attempt.run >>= ExceptT.bindCont next) scope = _
  rw [Scoped.runIn_bind]
  unfold runIn
  split
  · next a after done => rw [done]; rfl
  · next rejection after done => rw [done]; rfl

@[simp] theorem runIn_lift_bind (computation : Scoped α) (next : α → Attempt β) (scope : Pool) :
    runIn (liftM computation >>= next) scope =
      (next (computation.runIn scope).1).runIn (computation.runIn scope).2 := rfl

@[simp] theorem runIn_map (f : α → β) (attempt : Attempt α) (scope : Pool) :
    runIn (f <$> attempt) scope = ((attempt.runIn scope).1.map f, (attempt.runIn scope).2) := by
  rw [← bind_pure_comp, runIn_bind]
  split
  · next a after done => rw [done]; rfl
  · next rejection after done => rw [done]; rfl

@[simp] theorem runIn_within {γ : Type} [Node γ] (node : γ) (attempt : Attempt α) (scope : Pool) :
    runIn (attempt.within node) scope =
      ((attempt.runIn scope).1.mapError (Rejection.within node), (attempt.runIn scope).2) := by
  rfl

end Attempt

end StepWeaver
