/-
Module: StepWeaver.Proofs.PresenceAgreement
Layer: Proofs
Purpose: Two ways to ask whether a value is there. A binder stores the answer; the rule for presence and
  absence checks it. Both go through the kinds of values on their own. They refuse the same values, fail
  for the same reasons and read a value by the same statements.
Main exports: Assertion.ofPresence, PresenceAgreement, presenceAgreement_of_stored,
  presenceAgreement_existsComparison
-/
import StepWeaver.Proofs.Bindings
import StepWeaver.Proofs.Meaning
import StepWeaver.Proofs.Refusal

namespace StepWeaver

/-- The assertion that a value is there, or that it is not. -/
def Assertion.ofPresence (value : Value) (expected : Bool) : Assertion :=
  .examine value (if expected then .present else .absent)

/-- A rule for presence and absence goes with an outcome of storing in `target` whether a value is
    there. -/
structure PresenceAgreement (rule : Rule Assertion) (value : Value) (target : Placeholder)
    (outcome : Except Rejection Assignment) : Prop where
  /-- The value is called unusable, in its own words, exactly when the rule does not handle it. -/
  unusable_iff : ∀ expected text, outcome = .error (.unusableValue text) ↔
    rule.handles (.ofPresence value expected) = false ∧ text = value.describe
  /-- Every other reason is also the reason of the rule. -/
  failed : ∀ expected reason, outcome = .error reason → (∀ text, reason ≠ .unusableValue text) →
    rule.weave (.ofPresence value expected) = .error reason
  /-- Whether an element is there is one question. Its answer is stored, or checked on the spot. -/
  asked : ∀ path stored, value = .element path → outcome = .ok stored →
    stored.toFragment.statements = [target.token ++ " = " ++ Direct.ask "has" path] ∧
      ∀ expected, ∃ woven, rule.weave (.ofPresence value expected) = .ok woven ∧
        woven.statements =
          [Direct.call .testContext (if expected then "assertTrue" else "assertFalse")
            (Direct.ask "has" path)]
  /-- Anything else is read first, by the same lines. Only what is done with it differs. -/
  read : ∀ stored, (∀ path, value ≠ .element path) → outcome = .ok stored → ∃ lines,
    stored.toFragment.statements =
        lines ++ [target.token ++ " = " ++ (target.token ++ " !== null")] ∧
      ∀ expected, ∃ woven, rule.weave (.ofPresence value expected) = .ok woven ∧
        woven.statements =
          lines ++ [Direct.call .testContext (if expected then "assertNotNull" else "assertNull")
            target.token]

/-- Whatever is not the fault of a value is not blamed on the part of the test that it belongs to. -/
theorem Rejection.within_of_ne {reason : Rejection} (other : ∀ text, reason ≠ .unusableValue text)
    {γ : Type} [Node γ] (node : γ) : reason.within node = reason := by
  cases reason with
  | unusableValue text => exact absurd rfl (other text)
  | unhandledNode category node | unknownProperty property value | unknownRule name => rfl

namespace Rule

variable {binder : Binder} {value : Value} {target : Placeholder} {scope : Pool}

/-- Presence is asserted only of values that can be missing. -/
theorem handles_ofPresence (binder : Binder) (value : Value) (expected : Bool) :
    (existsComparison binder).handles (.ofPresence value expected) = canBeMissing value := by
  cases expected with
  | true => rfl
  | false => rfl

/-- An assertion of presence is woven by examining its value. -/
theorem weave_ofPresence (binder : Binder) (value : Value) (expected : Bool) :
    (existsComparison binder).weave (.ofPresence value expected) =
      ((examine binder (.ofPresence value expected) value expected).within
        (Assertion.ofPresence value expected)).alone := by
  cases expected with
  | true => rfl
  | false => rfl

/-- A stored value is compared with null after it has been stored. -/
theorem statements_checkPresence (expected : Bool) (stored : Assignment) (scope : Pool) :
    ((checkPresence expected stored).runIn scope).1.statements =
      stored.toFragment.statements ++
        [Direct.call .testContext (if expected then "assertNotNull" else "assertNull")
          stored.target.token] := by
  have parts : ((checkPresence expected stored).runIn scope).1 =
      Fragment.concat [stored.toFragment, _] := rfl
  rw [parts, Fragment.statements_concat, List.flatMap_cons, List.flatMap_singleton]
  cases expected with
  | true => rfl
  | false => rfl

/-- To examine a stored value is to store it and to check what has been stored. -/
theorem alone_examineStored (allocated : (Scoped.fresh .examinedValue).runIn ∅ = (target, scope))
    (expected : Bool) :
    (examineStored binder value expected).alone =
      ((binder.uncast value target binder.settings.absentDefault).runIn scope).1.map
        fun stored => (checkPresence expected stored).alone := by
  rw [Attempt.alone, examineStored, Attempt.runIn_lift_bind, allocated, Attempt.runIn_bind]
  cases (binder.uncast value target binder.settings.absentDefault).runIn scope with
  | mk outcome between =>
      cases outcome with
      | ok stored => rfl
      | error reason => rfl

end Rule

/-- A value that the rule does not handle is called unusable in its own words. -/
theorem presenceAgreement_of_unusable {binder : Binder} {value : Value} (target : Placeholder)
    (unable : Rule.canBeMissing value = false) :
    PresenceAgreement (Rule.existsComparison binder) value target
      (.error (Rejection.ofValue value)) where
  unusable_iff expected text := by
    rw [Rule.handles_ofPresence, Except.error.injEq, Rejection.ofValue, Rejection.unusableValue.injEq]
    constructor
    · intro same
      exact ⟨unable, same.symm⟩
    · rintro ⟨_, same⟩
      exact same.symm
  failed expected reason blamed other := by
    cases blamed
    exact absurd rfl (other value.describe)
  asked path stored _ done := by cases done
  read stored _ done := by cases done

/-- An element is looked up on the spot, for the same question in both cases. -/
theorem presenceAgreement_of_element (binder : Binder) (path : ElementPath) (target : Placeholder)
    (scope : Pool) :
    PresenceAgreement (Rule.existsComparison binder) (.element path) target
      ((binder.presence (.element path) target).runIn scope).1 where
  unusable_iff expected text := by
    rw [Rule.handles_ofPresence]
    constructor
    · intro failed
      cases failed
    · rintro ⟨unable, _⟩
      cases unable
  failed expected reason failed := by cases failed
  asked other stored same done := by
    cases same
    cases done
    constructor
    · rfl
    · intro expected
      refine ⟨_, Rule.weave_ofPresence binder (.element path) expected, ?_⟩
      cases expected with
      | true => rfl
      | false => rfl
  read stored noElement := absurd rfl (noElement path)

/-- A value that is read before anything is said about it. The binder and the rule make their answers
    from one attempt to store it. -/
theorem presenceAgreement_of_stored {settings : Settings} {value : Value} {target : Placeholder}
    {scope : Pool} (allocated : (Scoped.fresh .examinedValue).runIn ∅ = (target, scope))
    (noElement : ∀ path, value ≠ .element path)
    (able : Rule.canBeMissing value = value.isStorable)
    (storing : (Binder.ofSettings settings).presence value target =
      (Binder.notNull · target) <$>
        (Binder.ofSettings settings).uncast value target settings.absentDefault)
    (examining : ∀ node expected, Rule.examine (Binder.ofSettings settings) node value expected =
      Rule.examineStored (Binder.ofSettings settings) value expected) :
    PresenceAgreement (Rule.existsComparison (Binder.ofSettings settings)) value target
      (((Binder.ofSettings settings).presence value target).runIn scope).1 := by
  have decided := Binder.decided_uncast settings value target settings.absentDefault
  have woven (expected : Bool) :
      (Rule.existsComparison (Binder.ofSettings settings)).weave (.ofPresence value expected) =
        ((((Binder.ofSettings settings).uncast value target settings.absentDefault).runIn scope).1.map
          fun stored => (Rule.checkPresence expected stored).alone).mapError
            (Rejection.within (Assertion.ofPresence value expected)) := by
    rw [Rule.weave_ofPresence, examining, Attempt.alone, Attempt.runIn_within]
    exact congrArg (Except.mapError _) (Rule.alone_examineStored allocated expected)
  rw [storing]
  constructor
  case unusable_iff =>
    intro expected text
    rw [Rule.handles_ofPresence, able]
    exact ((decided.map _).eq_error_iff scope).trans Settings.failure?_eq_unusable_iff
  case failed =>
    intro expected reason failed other
    have failure := ((decided.map _).eq_error_iff scope).mp failed
    rw [woven, (decided.eq_error_iff scope).mpr failure]
    exact congrArg Except.error (Rejection.within_of_ne other _)
  case asked =>
    intro path stored same
    exact absurd same (noElement path)
  case read =>
    intro stored _ done
    rw [Attempt.runIn_map] at done
    cases outcome : (((Binder.ofSettings settings).uncast value target
        settings.absentDefault).runIn scope).1 with
    | error reason =>
        rw [outcome] at done
        cases done
    | ok plain =>
        rw [outcome] at done
        cases done
        obtain ⟨computation, found, ran⟩ := Binder.exists_of_uncast_eq_ok (Prod.ext outcome rfl)
        have kept : plain.target = target := by
          rw [← Value.target_storing? found scope, ran]
        -- Both go on from the value as it was stored first, the one with a line and the other with a check.
        refine ⟨plain.toFragment.statements, Assignment.statements_revise target _ plain, ?_⟩
        intro expected
        have checked : (Rule.existsComparison (Binder.ofSettings settings)).weave
            (.ofPresence value expected) = .ok (Rule.checkPresence expected plain).alone := by
          rw [woven, outcome]
          rfl
        refine ⟨_, checked, ?_⟩
        rw [← kept]
        exact Rule.statements_checkPresence expected plain ∅

/-- Storing whether a value is there agrees with asserting that it is, or that it is not, if the answer is
    stored in the first placeholder for examined values of an empty scope. -/
theorem presenceAgreement_existsComparison (settings : Settings) (value : Value) :
    let (target, scope) := (Scoped.fresh .examinedValue).runIn ∅
    PresenceAgreement (Rule.existsComparison (Binder.ofSettings settings)) value target
      (((Binder.ofSettings settings).presence value target).runIn scope).1 := by
  rcases allocated : (Scoped.fresh .examinedValue).runIn ∅ with ⟨target, scope⟩
  cases value with
  | element path => exact presenceAgreement_of_element _ path target scope
  | elementAttribute path | environment ref | browser ref | page ref =>
      apply presenceAgreement_of_stored allocated
      · intro path same
        cases same
      · rfl
      · rfl
      · intro node expected
        rfl
  | literal text | dataParameter ref | elementParameter ref | pageElement ref =>
      exact presenceAgreement_of_unusable target rfl

end StepWeaver
