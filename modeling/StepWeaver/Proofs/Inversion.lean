/-
Module: StepWeaver.Proofs.Inversion
Layer: Proofs
Purpose: What the source of an action, of an assertion or of a step consists of. A rule starts in an
  empty scope, so the placeholders that it allocates itself carry no number; everything that may fail has
  succeeded once there is source, so each part is the result of a computation that cannot fail. A step
  is the sequence of its parts.
Main exports: Pool.fresh_ofNames, Value.source_of_weave, Identifier.Source, Action.Source,
  Assertion.Source, Action.source_of_weave, Assertion.source_of_weave, Weaver.WovenParts,
  Weaver.weaveStep_eq_ok_iff
-/
import Mathlib.Data.List.Forall2
import StepWeaver.Proofs.Allocation
import StepWeaver.Proofs.Operand

namespace StepWeaver

/-!
### The first placeholders of a scope
-/

namespace Pool

theorem mem_foldl_create {names : List String} {pool : Pool} {placeholder : Placeholder} :
    placeholder ∈ names.foldl (fun pool name => (pool.create name).2) pool ↔
      placeholder ∈ pool ∨ ∃ name ∈ names, placeholder = Placeholder.canonical name := by
  induction names generalizing pool with
  | nil => simp
  | cons name names ih =>
      rw [List.foldl_cons, ih, mem_create]
      simp only [List.mem_cons, exists_eq_or_imp, or_assoc]

theorem mem_ofNames {names : List String} {placeholder : Placeholder} :
    placeholder ∈ ofNames names ↔ ∃ name ∈ names, placeholder = Placeholder.canonical name := by
  rw [ofNames, mem_foldl_create]
  simp

/-- A role that is new to a scope gets its canonical placeholder. -/
theorem fresh_ofNames {names : List String} {name : String} (free : name ∉ names) :
    (ofNames names).fresh name = (Placeholder.canonical name, ofNames (names ++ [name])) := by
  have absent : Placeholder.canonical name ∉ ofNames names := by
    rw [mem_ofNames]
    rintro ⟨other, listed, same⟩
    obtain rfl : name = other := congrArg Placeholder.name same
    exact free listed
  rw [fresh, if_neg absent, ofNames, ofNames, List.foldl_append]
  rfl

end Pool

/-!
### Values and identifiers
-/

/-- Whatever a value is woven to is source for it. -/
theorem Value.source_of_weave {settings : Settings} {value : Value} {fragment : Fragment}
    (woven : (Weaver.ofSettings settings).values.weave value = .ok fragment) :
    Value.Source id value fragment := by
  obtain ⟨rule, member, _, woven⟩ := RuleBook.exists_of_weave_eq_ok woven
  have listed := (RuleBook.mem_restrictTo.mp member).1
  simp only [Rule.forValues, List.mem_cons, List.not_mem_nil, or_false] at listed
  rcases listed with rfl | rfl | rfl | rfl
  · unfold Rule.literalValue at woven
    dsimp only at woven
    split at woven
    · obtain rfl := Except.ok.inj woven
      exact .literal _
    · cases woven
  · unfold Rule.browserProperty at woven
    dsimp only at woven
    split at woven
    · split at woven
      · next size =>
        obtain rfl := Except.ok.inj woven
        exact .windowSize size
      · cases woven
    · cases woven
  · unfold Rule.pageProperty at woven
    dsimp only at woven
    split at woven
    · split at woven
      · next title =>
        obtain rfl := Except.ok.inj woven
        exact .title title
      · next url =>
        obtain rfl := Except.ok.inj woven
        exact .address url
      · cases woven
    · cases woven
  · unfold Rule.environmentParameter at woven
    dsimp only at woven
    split at woven
    · obtain rfl := Except.ok.inj woven
      exact .environment _
    · cases woven

/-- The fragment is what the rules make of an identifier. -/
inductive Identifier.Source : Identifier → Fragment → Prop
  | element (path : ElementPath) : Source (.element path) (Call.lookUp .findOne path).alone
  | elementAttribute {path : AttributePath} (named : path.hasName = true) :
      Source (.elementAttribute path)
        ((Call.lookUp .findOne path.element).alone.wrap (· ++ Binding.attributeCall path.name))

/-- Whatever an identifier is woven to is source for it. -/
theorem Identifier.source_of_weave {settings : Settings} {identifier : Identifier}
    {fragment : Fragment}
    (woven : (Weaver.ofSettings settings).identifiers.weave identifier = .ok fragment) :
    Identifier.Source identifier fragment := by
  obtain ⟨rule, member, _, woven⟩ := RuleBook.exists_of_weave_eq_ok woven
  have listed := (RuleBook.mem_restrictTo.mp member).1
  simp only [Rule.forIdentifiers, List.mem_cons, List.not_mem_nil, or_false] at listed
  rcases listed with rfl | rfl
  · unfold Rule.elementIdentifier at woven
    dsimp only at woven
    split at woven
    · obtain rfl := Except.ok.inj woven
      exact .element _
    · cases woven
  · unfold Rule.attributeIdentifier at woven
    dsimp only at woven
    split at woven
    · split at woven
      · next named =>
        obtain rfl := Except.ok.inj woven
        exact .elementAttribute named
      · cases woven
    · cases woven

/-!
### Actions
-/

open Role (duration element collection value examinedValue expectedValue)

/-- The fragment is what the rules make of an action. -/
inductive Action.Source (settings : Settings) : Action → Fragment → Prop
  | wait {time : Value} {computation : Scoped Assignment}
      (found : time.storing? duration.placeholder "0" = some computation) :
      Source settings (.wait time)
        (Fragment.concat
          [(Binder.castTo settings.durationCast duration.placeholder
              (computation.runIn (Pool.ofNames [duration.name])).1).toFragment,
            Fragment.ofStatement ("usleep(" ++ duration.placeholder.token ++ " * 1000)")
              [duration.placeholder]])
  | navigate (kind : Navigation) :
      Source settings (.navigate kind) (Rule.crawl (kind.name ++ "()"))
  | act {kind : Interaction} (path : ElementPath) (direct : kind ≠ .waitFor) :
      Source settings (.interact kind (.element path))
        (Fragment.concat
          [((Binding.element path element.placeholder).runIn
              (Pool.ofNames [element.name])).1.toFragment,
            Fragment.ofStatement (element.placeholder.token ++ "->" ++ kind.name ++ "()")
              [element.placeholder]])
  | waitFor (path : ElementPath) :
      Source settings (.interact .waitFor (.element path))
        (Rule.crawl ("waitFor(" ++ Text.Quoted.literal path.own.text ++ ")"))
  | input {path : ElementPath} {text : Value} {computation : Scoped Assignment}
      {fields : Assignment} {between : Pool}
      (found : text.storing? value.placeholder settings.absentDefault = some computation)
      (lookedUp : (Binding.collection path collection.placeholder).runIn
        (Pool.ofNames [collection.name, value.name]) = (fields, between)) :
      Source settings (.input (.element path) text)
        (Fragment.concat
          [fields.toFragment,
            (Binder.castTo settings.valueCast value.placeholder
              (computation.runIn between).1).toFragment,
            (Call.fillField collection.placeholder value.placeholder).alone])

namespace Rule

variable {settings : Settings} {fragment : Fragment}

/-- A wait that is accepted has stored its duration and then sleeps. -/
theorem source_of_sleep {time : Value} {node : Action}
    (done : ((sleep (Binder.ofSettings settings) time).within node).alone = .ok fragment) :
    Action.Source settings (.wait time) fragment := by
  obtain ⟨after, run⟩ := Attempt.runIn_of_within_alone done
  have allocated : (Scoped.fresh duration).runIn ∅ =
      (duration.placeholder, Pool.ofNames [duration.name]) :=
    Pool.fresh_ofNames List.not_mem_nil
  rw [sleep, Attempt.runIn_lift_bind, allocated] at run
  obtain ⟨stored, between, storing, rest⟩ := Attempt.exists_of_bind_eq_ok run
  obtain ⟨computation, plain, found, ran, rfl⟩ := Binder.exists_of_valueAs_eq_ok storing
  obtain rfl := Except.ok.inj (congrArg Prod.fst rest)
  obtain rfl := congrArg Prod.fst ran
  exact .wait found

/-- An input that is accepted has stored the field and the value, in this order. -/
theorem source_of_fillIn {path : ElementPath} {text : Value} {node : Action}
    (done : ((fillIn (Binder.ofSettings settings) path text).within node).alone = .ok fragment) :
    Action.Source settings (.input (.element path) text) fragment := by
  obtain ⟨after, run⟩ := Attempt.runIn_of_within_alone done
  have first : (Scoped.fresh collection).runIn ∅ =
      (collection.placeholder, Pool.ofNames [collection.name]) :=
    Pool.fresh_ofNames List.not_mem_nil
  have free : value.name ∉ [collection.name] := by decide
  have second : (Scoped.fresh value).runIn (Pool.ofNames [collection.name]) =
      (value.placeholder, Pool.ofNames [collection.name, value.name]) :=
    Pool.fresh_ofNames free
  rw [fillIn, Attempt.runIn_lift_bind, first, Attempt.runIn_lift_bind, second,
    Attempt.runIn_lift_bind] at run
  obtain ⟨stored, between, storing, rest⟩ := Attempt.exists_of_bind_eq_ok run
  obtain ⟨computation, plain, found, ran, rfl⟩ := Binder.exists_of_valueAs_eq_ok storing
  obtain rfl := Except.ok.inj (congrArg Prod.fst rest)
  obtain rfl := congrArg Prod.fst ran
  exact .input found rfl

end Rule

/-- Whatever an action is woven to is source for it. -/
theorem Action.source_of_weave {settings : Settings} {action : Action} {fragment : Fragment}
    (woven : (Weaver.ofSettings settings).actions.weave action = .ok fragment) :
    Action.Source settings action fragment := by
  obtain ⟨rule, member, _, woven⟩ := RuleBook.exists_of_weave_eq_ok woven
  have listed := (RuleBook.mem_restrictTo.mp member).1
  have interacted (kind : Interaction) (direct : kind ≠ .waitFor)
      (woven : (Rule.interaction kind kind.name).weave action = .ok fragment) :
      Action.Source settings action fragment := by
    unfold Rule.interaction at woven
    dsimp only at woven
    split at woven
    · split at woven
      · next same =>
        subst same
        obtain rfl := Except.ok.inj woven
        exact .act _ direct
      · cases woven
    · cases woven
  simp only [Rule.forActions, List.mem_cons, List.not_mem_nil, or_false] at listed
  rcases listed with rfl | rfl | rfl | rfl | rfl | rfl
  · unfold Rule.wait at woven
    dsimp only at woven
    split at woven
    · exact Rule.source_of_sleep woven
    · cases woven
  · unfold Rule.navigation at woven
    dsimp only at woven
    split at woven
    · obtain rfl := Except.ok.inj woven
      exact .navigate _
    · cases woven
  · exact interacted .click (by decide) woven
  · exact interacted .submit (by decide) woven
  · unfold Rule.waitFor at woven
    dsimp only at woven
    split at woven
    · split at woven
      · obtain rfl := Except.ok.inj woven
        exact .waitFor _
      · cases woven
    · cases woven
  · unfold Rule.set at woven
    dsimp only at woven
    split at woven
    · exact Rule.source_of_fillIn woven
    · cases woven

/-!
### Assertions
-/

/-- The fragment is what the rules make of an assertion. -/
inductive Assertion.Source (settings : Settings) : Assertion → Fragment → Prop
  | elementPresence {comparison : Comparison} {expected : Bool} (path : ElementPath)
      (asked : Rule.expectsPresence? comparison = some expected) :
      Source settings (.examine (.element path) comparison)
        (Call.checkExpression (if expected then .isTrue else .isFalse)
          (Call.lookUp .has path).alone).alone
  | presence {examined : Value} {comparison : Comparison} {expected : Bool}
      {computation : Scoped Assignment} (asked : Rule.expectsPresence? comparison = some expected)
      (noElement : ∀ path, examined ≠ .element path)
      (found : examined.storing? examinedValue.placeholder settings.absentDefault =
        some computation) :
      Source settings (.examine examined comparison)
        (Rule.checkPresence expected
          (computation.runIn (Pool.ofNames [examinedValue.name])).1).alone
  | compare {examined expected : Value} {comparison : Comparison} {method : String}
      {storeExamined storeExpected : Scoped Assignment} {stored : Assignment} {between : Pool}
      (asked : Rule.comparisonMethod? comparison = some method)
      (foundExamined : examined.storing? examinedValue.placeholder settings.absentDefault =
        some storeExamined)
      (foundExpected : expected.storing? expectedValue.placeholder settings.absentDefault =
        some storeExpected)
      (ran : storeExamined.runIn (Pool.ofNames [examinedValue.name, expectedValue.name]) =
        (stored, between)) :
      Source settings (.compare examined comparison expected)
        (Fragment.concat
          [(Binder.castTo settings.valueCast examinedValue.placeholder stored).toFragment,
            (Binder.castTo settings.valueCast expectedValue.placeholder
              (storeExpected.runIn between).1).toFragment,
            (Call.compareStored method expectedValue.placeholder examinedValue.placeholder).alone])

namespace Rule

variable {settings : Settings} {fragment : Fragment}

/-- A comparison that is accepted has stored both operands in one scope. -/
theorem source_of_compare {examined expected : Value} {comparison : Comparison} {method : String}
    {node : Assertion} (asked : comparisonMethod? comparison = some method)
    (done : ((compare (Binder.ofSettings settings) method examined expected).within node).alone =
      .ok fragment) : Assertion.Source settings (.compare examined comparison expected) fragment := by
  obtain ⟨after, run⟩ := Attempt.runIn_of_within_alone done
  have first : (Scoped.fresh examinedValue).runIn ∅ =
      (examinedValue.placeholder, Pool.ofNames [examinedValue.name]) :=
    Pool.fresh_ofNames List.not_mem_nil
  have free : expectedValue.name ∉ [examinedValue.name] := by decide
  have second : (Scoped.fresh expectedValue).runIn (Pool.ofNames [examinedValue.name]) =
      (expectedValue.placeholder, Pool.ofNames [examinedValue.name, expectedValue.name]) :=
    Pool.fresh_ofNames free
  rw [compare, Attempt.runIn_lift_bind, first, Attempt.runIn_lift_bind, second] at run
  obtain ⟨storedExamined, between, storing, rest⟩ := Attempt.exists_of_bind_eq_ok run
  obtain ⟨storeExamined, _, foundExamined, ranExamined, rfl⟩ :=
    Binder.exists_of_valueAs_eq_ok storing
  obtain ⟨storedExpected, last, storing, rest⟩ := Attempt.exists_of_bind_eq_ok rest
  obtain ⟨storeExpected, _, foundExpected, ranExpected, rfl⟩ :=
    Binder.exists_of_valueAs_eq_ok storing
  obtain rfl := Except.ok.inj (congrArg Prod.fst rest)
  obtain rfl := congrArg Prod.fst ranExpected
  exact .compare asked foundExamined foundExpected ranExamined

/-- Stores a value to be examined and checks whether it is there. -/
def examineStored (binder : Binder) (examined : Value) (expected : Bool) : Attempt Fragment := do
  let target ← Scoped.fresh .examinedValue
  let stored ← binder.uncast examined target binder.settings.absentDefault
  checkPresence expected stored

/-- A value that is stored to be examined comes from an attribute, or from browser, page or
    environment. -/
theorem examine_eq_ok {binder : Binder} {node : Assertion} {examined : Value} {expected : Bool}
    (noElement : ∀ path, examined ≠ .element path) {after : Pool}
    (run : (examine binder node examined expected).runIn ∅ = (.ok fragment, after)) :
    ∃ stored between,
      (binder.uncast examined examinedValue.placeholder binder.settings.absentDefault).runIn
          (Pool.ofNames [examinedValue.name]) = (.ok stored, between) ∧
        fragment = (checkPresence expected stored).alone := by
  have allocated : (Scoped.fresh examinedValue).runIn ∅ =
      (examinedValue.placeholder, Pool.ofNames [examinedValue.name]) :=
    Pool.fresh_ofNames List.not_mem_nil
  cases examined with
  | element path => exact absurd rfl (noElement path)
  | elementAttribute path | environment ref | browser ref | page ref =>
      rw [examine, Attempt.runIn_lift_bind, allocated] at run
      obtain ⟨stored, between, storing, rest⟩ := Attempt.exists_of_bind_eq_ok run
      exact ⟨stored, between, storing, (Except.ok.inj (congrArg Prod.fst rest)).symm⟩
  | literal text | dataParameter ref | elementParameter ref | pageElement ref => cases run

/-- An examination that is accepted looked its element up on the spot or stored its value. -/
theorem source_of_examine {examined : Value} {comparison : Comparison} {expected : Bool}
    {node : Assertion} (asked : expectsPresence? comparison = some expected)
    (done : ((examine (Binder.ofSettings settings) node examined expected).within node).alone =
      .ok fragment) : Assertion.Source settings (.examine examined comparison) fragment := by
  obtain ⟨after, run⟩ := Attempt.runIn_of_within_alone done
  by_cases isElement : ∃ path, examined = .element path
  · obtain ⟨path, rfl⟩ := isElement
    obtain rfl := Except.ok.inj (congrArg Prod.fst run)
    exact .elementPresence path asked
  · have noElement : ∀ path, examined ≠ .element path := not_exists.mp isElement
    obtain ⟨stored, between, storing, rfl⟩ := examine_eq_ok noElement run
    obtain ⟨computation, found, ran⟩ := Binder.exists_of_uncast_eq_ok storing
    obtain rfl := congrArg Prod.fst ran
    exact .presence asked noElement found

end Rule

/-- Whatever an assertion is woven to is source for it. -/
theorem Assertion.source_of_weave {settings : Settings} {assertion : Assertion} {fragment : Fragment}
    (woven : (Weaver.ofSettings settings).assertions.weave assertion = .ok fragment) :
    Assertion.Source settings assertion fragment := by
  obtain ⟨rule, member, _, woven⟩ := RuleBook.exists_of_weave_eq_ok woven
  have listed := (RuleBook.mem_restrictTo.mp member).1
  simp only [Rule.forAssertions, List.mem_cons, List.not_mem_nil, or_false] at listed
  rcases listed with rfl | rfl
  · unfold Rule.existsComparison at woven
    dsimp only at woven
    split at woven
    · split at woven
      · next asked => exact Rule.source_of_examine asked woven
      · cases woven
    · cases woven
  · unfold Rule.valueComparison at woven
    dsimp only at woven
    split at woven
    · split at woven
      · next asked => exact Rule.source_of_compare asked woven
      · cases woven
    · cases woven

/-!
### Steps
-/

namespace Weaver

/-- The fragments are those of the actions of a step, in order, and then those of its assertions. -/
def WovenParts (weaver : Weaver) (step : Step) (parts : List Fragment) : Prop :=
  ∃ done checked, parts = done ++ checked ∧
    List.Forall₂ (fun action part => weaver.actions.weave action = .ok part) step.actions done ∧
    List.Forall₂ (fun assertion part => weaver.assertions.weave assertion = .ok part)
      step.assertions checked

/-- What holds of each part that can be woven holds of all parts. -/
theorem forall_mem_of_forall₂ {α : Type} {weave : α → Except Rejection Fragment} {nodes : List α}
    {parts : List Fragment} {property : Fragment → Prop}
    (woven : List.Forall₂ (fun node part => weave node = .ok part) nodes parts)
    (sound : ∀ node part, weave node = .ok part → property part) : ∀ part ∈ parts, property part := by
  induction woven with
  | nil =>
      intro part member
      exact absurd member List.not_mem_nil
  | cons first rest ih =>
      rw [List.forall_mem_cons]
      exact ⟨sound _ _ first, ih⟩

/-- What holds of the source of every action and of every assertion holds of all parts of a step. -/
theorem WovenParts.forall_mem {weaver : Weaver} {step : Step} {parts : List Fragment}
    {property : Fragment → Prop} (woven : weaver.WovenParts step parts)
    (actions : ∀ action part, weaver.actions.weave action = .ok part → property part)
    (assertions : ∀ assertion part, weaver.assertions.weave assertion = .ok part → property part) :
    ∀ part ∈ parts, property part := by
  obtain ⟨done, checked, rfl, wovenDone, wovenChecked⟩ := woven
  intro part member
  rcases List.mem_append.mp member with inDone | inChecked
  · exact forall_mem_of_forall₂ wovenDone actions part inDone
  · exact forall_mem_of_forall₂ wovenChecked assertions part inChecked

/-- A list is woven if each of its nodes is, one by one. -/
theorem mapM_eq_ok_iff {α : Type} {weave : α → Except Rejection Fragment} {nodes : List α}
    {parts : List Fragment} :
    nodes.mapM weave = .ok parts ↔
      List.Forall₂ (fun node part => weave node = .ok part) nodes parts := by
  induction nodes generalizing parts with
  | nil =>
      rw [List.forall₂_nil_left_iff, List.mapM_nil]
      constructor
      · intro same
        exact (Except.ok.inj same).symm
      · rintro rfl
        rfl
  | cons node nodes ih =>
      rw [List.mapM_cons, List.forall₂_cons_left_iff]
      cases first : weave node with
      | error reason =>
          constructor
          · intro failed
            cases failed
          · rintro ⟨part, rest, found, _⟩
            cases found
      | ok part =>
          cases others : nodes.mapM weave with
          | error reason =>
              constructor
              · intro failed
                cases failed
              · rintro ⟨_, rest, _, woven, _⟩
                rw [ih.mpr woven] at others
                cases others
          | ok rest =>
              constructor
              · intro same
                obtain rfl := Except.ok.inj same
                exact ⟨part, rest, rfl, ih.mp others, rfl⟩
              · rintro ⟨_, _, found, woven, rfl⟩
                obtain rfl := Except.ok.inj found
                obtain rfl := Except.ok.inj (others.symm.trans (ih.mpr woven))
                rfl

/-- A step has source exactly if all its parts have, and that source is the sequence of theirs. -/
theorem weaveStep_eq_ok_iff {weaver : Weaver} {step : Step} {fragment : Fragment} :
    weaver.weaveStep step = .ok fragment ↔
      ∃ parts, weaver.WovenParts step parts ∧ fragment = Fragment.concat parts := by
  unfold weaveStep
  constructor
  · intro woven
    cases actions : step.actions.mapM weaver.actions.weave with
    | error reason =>
        rw [actions] at woven
        cases woven
    | ok done =>
        cases assertions : step.assertions.mapM weaver.assertions.weave with
        | error reason =>
            rw [actions, assertions] at woven
            cases woven
        | ok checked =>
            rw [actions, assertions] at woven
            exact ⟨done ++ checked,
              ⟨done, checked, rfl, mapM_eq_ok_iff.mp actions, mapM_eq_ok_iff.mp assertions⟩,
              (Except.ok.inj woven).symm⟩
  · rintro ⟨parts, ⟨done, checked, rfl, actions, assertions⟩, rfl⟩
    rw [mapM_eq_ok_iff.mpr actions, mapM_eq_ok_iff.mpr assertions]
    rfl

end Weaver

end StepWeaver
