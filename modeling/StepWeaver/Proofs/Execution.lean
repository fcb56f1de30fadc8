/-
Module: StepWeaver.Proofs.Execution
Layer: Proofs
Purpose: Symbolic execution of statements. A line that stores an expression in a placeholder of the
  fragment binds the token; every other statement is emitted. Either way all bound tokens are replaced
  first by what they are bound to, each as one unit.
Main exports: Term, Term.spell, Machine, Machine.step, Machine.run, Fragment.effects,
  Machine.IsAmbient, Machine.step_line, Machine.step_emits
-/
import Mathlib.Logic.Function.Basic
import StepWeaver.Proofs.Allocation
import StepWeaver.Proofs.Composition

namespace StepWeaver

open Placeholder (Symbol plain symbols)

/-!
### Roles by name
-/

namespace Role

/-- All roles. -/
def all : List Role :=
  [testContext, navigator, environment, client, crawler, inspector, mutator, elementLocator, element,
    collection, presence, value, duration, examinedValue, expectedValue, windowSize]

theorem mem_all (role : Role) : role ∈ all := by
  cases role <;> decide

/-- A role is told by its name. -/
theorem name_injective : Function.Injective Role.name := by
  intro left right same
  have nodup : (all.map Role.name).Nodup := by decide
  exact List.inj_on_of_nodup_map nodup (mem_all left) (mem_all right) same

end Role

/-- Whether a token stands for something that the surroundings provide. -/
def Placeholder.isEnvironmentToken (token : String) : Bool :=
  Role.all.any fun role => role.isEnvironment && role.placeholder.token == token

namespace Placeholder

/-- The tokens of the surroundings are those of the roles that the surroundings fill. -/
theorem isEnvironmentToken_iff {token : String} :
    isEnvironmentToken token = true ↔
      ∃ role : Role, role.isEnvironment = true ∧ role.placeholder.token = token := by
  simp [isEnvironmentToken, Role.mem_all]

/-- The placeholder plays a role that the fragment fills itself. -/
def IsLocal (placeholder : Placeholder) : Prop :=
  ∃ role : Role, role.isEnvironment = false ∧ placeholder.name = role.name

theorem IsLocal.playsRole {placeholder : Placeholder} (isLocal : placeholder.IsLocal) :
    placeholder.PlaysRole := by
  obtain ⟨role, _, named⟩ := isLocal
  exact ⟨role, named⟩

/-- No numbered or bare token of a role that a fragment fills is mistaken for one of the surroundings. -/
theorem IsLocal.isEnvironmentToken {placeholder : Placeholder} (isLocal : placeholder.IsLocal) :
    isEnvironmentToken placeholder.token = false := by
  rw [Bool.eq_false_iff]
  intro ambient
  obtain ⟨other, environment, same⟩ := isEnvironmentToken_iff.mp ambient
  obtain rfl := PlaysRole.eq_of_token_eq ⟨other, rfl⟩ isLocal.playsRole same
  obtain ⟨role, filled, named⟩ := isLocal
  obtain rfl := Role.name_injective named
  rw [environment] at filled
  cases filled

/-- What is allocated for a role that the fragment fills is local, whatever number it gets. -/
theorem isLocal_fresh (scope : Pool) (role : Role) (filled : role.isEnvironment = false) :
    (scope.fresh role.name).1.IsLocal :=
  ⟨role, filled, Pool.fresh_name scope role.name⟩

theorem isLocal_role (role : Role) (filled : role.isEnvironment = false) : role.placeholder.IsLocal :=
  ⟨role, filled, rfl⟩

end Placeholder

/-!
### Terms
-/

/-- A piece of an expression: a symbol of the source, or what stands in the place of a bound token. -/
inductive Term where
  | symbol (symbol : Symbol)
  | unit (body : List Term)

mutual

/-- The text of a piece, without its grouping. -/
def Term.spell : Term → String
  | .symbol (.char c) => String.singleton c
  | .symbol (.token text) => text
  | .unit body => Term.spellAll body

/-- The text of an expression, without its grouping. -/
def Term.spellAll : List Term → String
  | [] => ""
  | term :: terms => term.spell ++ Term.spellAll terms

end

/-- Spelling forgets where one expression ends and the next begins. -/
theorem Term.spellAll_append (first second : List Term) :
    spellAll (first ++ second) = spellAll first ++ spellAll second := by
  induction first with
  | nil => rw [List.nil_append, spellAll, String.empty_append]
  | cons term first ih => rw [List.cons_append, spellAll, spellAll, ih, String.append_assoc]

/-!
### The machine
-/

/-- What the tokens are bound to, and what has been emitted, first to last. -/
structure Machine where
  /-- The expression that a token is bound to, if any. -/
  store : String → Option (List Term)
  /-- The effects so far. -/
  effects : List (List Term)

namespace Machine

/-- Nothing is bound and nothing emitted. -/
def start : Machine where
  store := fun _ => none
  effects := []

/-- What a symbol stands for: a bound token for what it is bound to, all else for itself. -/
def resolve (machine : Machine) : Symbol → Term
  | .char c => .symbol (.char c)
  | .token text =>
    match machine.store text with
    | some body => .unit body
    | none => .symbol (.token text)

/-- Binds a token. -/
def bind (machine : Machine) (token : String) (body : List Term) : Machine :=
  { machine with store := Function.update machine.store token (some body) }

/-- Emits an effect. -/
def emit (machine : Machine) (effect : List Term) : Machine :=
  { machine with effects := machine.effects ++ [effect] }

/-- The token and the expression of a line that stores something in a placeholder of the fragment. -/
def binding? : List Symbol → Option (String × List Symbol)
  | .token token :: .char ' ' :: .char '=' :: .char ' ' :: value =>
    if Placeholder.isEnvironmentToken token then none else some (token, value)
  | _ => none

/-- Executes a statement. -/
def step (machine : Machine) (statement : String) : Machine :=
  let read := symbols statement.toList
  match binding? read with
  | some (token, value) => machine.bind token (value.map machine.resolve)
  | none => machine.emit (read.map machine.resolve)

/-- Executes statements one after the other. -/
def run (machine : Machine) (statements : List String) : Machine :=
  statements.foldl step machine

/-- A run may be interrupted anywhere. -/
theorem run_append (machine : Machine) (first second : List String) :
    machine.run (first ++ second) = (machine.run first).run second :=
  List.foldl_append

theorem run_singleton (machine : Machine) (statement : String) :
    machine.run [statement] = machine.step statement := rfl

/-!
### Up to grouping

Of a machine only two things matter in the end: what a token now reads as, and how the effects read.
-/

/-- How a token reads. -/
def value (machine : Machine) (token : String) : String :=
  (machine.resolve (.token token)).spell

/-- How a piece of source reads once bound tokens have been replaced. -/
def spelling (machine : Machine) (read : List Symbol) : String :=
  Term.spellAll (read.map machine.resolve)

/-- How the effects read. -/
def output (machine : Machine) : List String :=
  machine.effects.map Term.spellAll

@[simp] theorem spelling_nil (machine : Machine) : machine.spelling [] = "" := rfl

@[simp] theorem spelling_cons_token (machine : Machine) (token : String) (read : List Symbol) :
    machine.spelling (.token token :: read) = machine.value token ++ machine.spelling read := rfl

/-- Each piece of source is replaced on its own. -/
@[simp] theorem spelling_append (machine : Machine) (first second : List Symbol) :
    machine.spelling (first ++ second) = machine.spelling first ++ machine.spelling second := by
  rw [spelling, List.map_append, Term.spellAll_append]
  rfl

/-- Text without tokens reads as it is written, whatever is bound. -/
@[simp] theorem spelling_plain (machine : Machine) (text : String) :
    machine.spelling (plain text) = text := by
  have chars (rest : List Char) : machine.spelling (rest.map .char) = String.ofList rest := by
    induction rest with
    | nil => rfl
    | cons c rest ih =>
        have head : machine.spelling ((c :: rest).map .char) =
            String.singleton c ++ machine.spelling (rest.map .char) := rfl
        rw [head, ih, ← String.toList_inj]
        simp
  rw [plain, chars, String.ofList_toList]

/-- A token that has just been bound reads as what it is bound to. -/
@[simp] theorem value_bind_self (machine : Machine) (token : String) (body : List Term) :
    (machine.bind token body).value token = Term.spellAll body := by
  simp [value, resolve, bind, Term.spell]

/-- Binding a token leaves all others as they were. -/
theorem value_bind_of_ne (machine : Machine) {token other : String} (differs : other ≠ token)
    (body : List Term) : (machine.bind token body).value other = machine.value other := by
  simp [value, resolve, bind, Function.update_of_ne differs]

@[simp] theorem output_bind (machine : Machine) (token : String) (body : List Term) :
    (machine.bind token body).output = machine.output := rfl

@[simp] theorem value_emit (machine : Machine) (effect : List Term) (token : String) :
    (machine.emit effect).value token = machine.value token := rfl

@[simp] theorem output_emit (machine : Machine) (effect : List Term) :
    (machine.emit effect).output = machine.output ++ [Term.spellAll effect] := by
  simp [output, emit]

/-!
### Steps

A line for a placeholder of the fragment changes how that placeholder reads and nothing else. All other
statements change nothing but the output.
-/

/-- A line for a local placeholder binds its token, once the tokens of the line have been replaced. -/
theorem step_line (machine : Machine) {target : Placeholder} (isLocal : target.IsLocal)
    (text : String) :
    machine.step (target.token ++ " = " ++ text) =
      machine.bind target.token ((symbols text.toList).map machine.resolve) := by
  have line := Assignment.symbols_line isLocal.playsRole.legible text
  have bound : binding? (symbols (target.token ++ " = " ++ text).toList) =
      some (target.token, symbols text.toList) := by
    rw [line]
    simp [binding?, plain, isLocal.isEnvironmentToken]
  rw [step, bound]

/-- After its line a local placeholder reads as the right side did before. -/
theorem value_step_line (machine : Machine) {target : Placeholder} (isLocal : target.IsLocal)
    (text : String) :
    (machine.step (target.token ++ " = " ++ text)).value target.token =
      machine.spelling (symbols text.toList) := by
  rw [step_line machine isLocal, value_bind_self]
  rfl

/-- The line of one placeholder changes nothing about another one, since no two share a token. -/
theorem value_step_line_of_ne (machine : Machine) {target other : Placeholder}
    (isLocal : target.IsLocal) (plays : other.PlaysRole) (differs : other ≠ target) (text : String) :
    (machine.step (target.token ++ " = " ++ text)).value other.token = machine.value other.token := by
  rw [step_line machine isLocal]
  refine value_bind_of_ne machine ?_ _
  intro same
  exact differs (plays.eq_of_token_eq isLocal.playsRole same)

/-- A line for a local placeholder has no effect. -/
theorem output_step_line (machine : Machine) {target : Placeholder} (isLocal : target.IsLocal)
    (text : String) :
    (machine.step (target.token ++ " = " ++ text)).output = machine.output := by
  rw [step_line machine isLocal, output_bind]

/-- A statement that binds nothing is emitted. -/
theorem step_emits (machine : Machine) {statement : String} {read : List Symbol}
    (reading : symbols statement.toList = read) (emits : binding? read = none) :
    machine.step statement = machine.emit (read.map machine.resolve) := by
  rw [step, reading, emits]

/-- A statement that binds nothing adds to the output how it reads. -/
theorem output_step_emits (machine : Machine) {statement : String} {read : List Symbol}
    (reading : symbols statement.toList = read) (emits : binding? read = none) :
    (machine.step statement).output = machine.output ++ [machine.spelling read] := by
  rw [step_emits machine reading emits, output_emit]
  rfl

/-!
### The surroundings

What the surroundings provide is never bound, so its tokens read as themselves.
-/

/-- No token of the surroundings is bound. -/
def IsAmbient (machine : Machine) : Prop :=
  ∀ token, Placeholder.isEnvironmentToken token = true → machine.store token = none

theorem isAmbient_start : start.IsAmbient := fun _ _ => rfl

/-- What gets bound never belongs to the surroundings. -/
theorem not_environment_of_binding? {read value : List Symbol} {token : String}
    (found : binding? read = some (token, value)) :
    Placeholder.isEnvironmentToken token = false := by
  unfold binding? at found
  split at found
  · next name body =>
    split at found
    · cases found
    · next filled =>
      cases found
      exact Bool.eq_false_iff.mpr filled
  · cases found

/-- No statement binds a token of the surroundings. -/
theorem IsAmbient.step {machine : Machine} (ambient : machine.IsAmbient) (statement : String) :
    (machine.step statement).IsAmbient := by
  intro token environment
  rw [Machine.step]
  split
  · next bound value found =>
    have differs : token ≠ bound := by
      rintro rfl
      rw [not_environment_of_binding? found] at environment
      cases environment
    exact (Function.update_of_ne differs _ machine.store).trans (ambient token environment)
  · exact ambient token environment

/-- No run binds a token of the surroundings. -/
theorem IsAmbient.run {machine : Machine} (ambient : machine.IsAmbient) (statements : List String) :
    (machine.run statements).IsAmbient := by
  induction statements generalizing machine with
  | nil => exact ambient
  | cons statement statements ih => exact ih (ambient.step statement)

/-- A token of the surroundings stands for itself throughout. -/
theorem IsAmbient.value_role {machine : Machine} (ambient : machine.IsAmbient) {role : Role}
    (environment : role.isEnvironment = true) :
    machine.value role.placeholder.token = role.placeholder.token := by
  have unbound := ambient _ (Placeholder.isEnvironmentToken_iff.mpr ⟨role, environment, rfl⟩)
  rw [value, resolve, unbound]
  rfl

end Machine

/-- The effects of the statements of a fragment, without grouping. -/
def Fragment.effects (fragment : Fragment) : List String :=
  (Machine.start.run fragment.statements).output

end StepWeaver
