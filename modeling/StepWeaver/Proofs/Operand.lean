/-
Module: StepWeaver.Proofs.Operand
Layer: Proofs
Purpose: Values as operands of actions and assertions. `Settings.refusal?` says why settings refuse a
  scalar value and `Value.access?` which source gives it; together they describe how a binder stores a
  scalar value. Storing any value fails for one of these reasons, or because the value has nothing to
  store, and never for another one.
Main exports: Settings.refusal?, Value.access?, Value.Source, Value.storing?, Binder.scalar_eq,
  Binder.uncast_eq, Binder.valueAs_eq, Binder.exists_of_valueAs_eq_ok
-/
import StepWeaver.Proofs.Dispatch

namespace StepWeaver

/-- Why settings refuse a value that can be stored: its rule is switched off, or browser or page do not
    have the property. -/
def Settings.refusal? (settings : Settings) (value : Value) : Option Rejection :=
  match value with
  | .literal _ =>
    if settings.enabled .literalValue then none else some (Rejection.ofNode value)
  | .environment _ =>
    if settings.enabled .environmentParameter then none else some (Rejection.ofNode value)
  | .browser ref =>
    if settings.enabled .browserProperty then
      if ref.property = "size" then none else some (Rejection.ofProperty ref.property value)
    else some (Rejection.ofNode value)
  | .page ref =>
    if settings.enabled .pageProperty then
      if ref.property = "title" ∨ ref.property = "url" then none
      else some (Rejection.ofProperty ref.property value)
    else some (Rejection.ofNode value)
  | _ => none

/-- The source that gives a scalar value, with a fallback for what the environment may lack. -/
def Value.access? (fallback : String) : Value → Option Fragment
  | .literal text => some (Fragment.ofStatement (Text.Quoted.literal text))
  | .environment ref =>
    some (Fragment.ofStatement
      (Role.environment.placeholder.token ++ "[" ++ Text.Quoted.literal ref.property ++ "]" ++
        " ?? " ++ fallback)
      [Role.environment.placeholder])
  | .browser ref => if ref.property = "size" then some Rule.windowSize else none
  | .page ref =>
    if ref.property = "title" then some (Rule.clientCall "getTitle")
    else if ref.property = "url" then some (Rule.clientCall "getCurrentURL")
    else none
  | _ => none

/-- The fragment is source that gives a scalar value. What the environment gives may be absent, so there
    is a way to finish the expression for it. -/
inductive Value.Source (finish : String → String) : Value → Fragment → Prop
  | literal (text : String) :
      Source finish (.literal text) (Fragment.ofStatement (Text.Quoted.literal text))
  | environment (ref : PropertyRef) :
      Source finish (.environment ref)
        (Fragment.ofStatement
          (finish (Role.environment.placeholder.token ++ "[" ++ Text.Quoted.literal ref.property ++ "]"))
          [Role.environment.placeholder])
  | windowSize {ref : PropertyRef} (size : ref.property = "size") :
      Source finish (.browser ref) Rule.windowSize
  | title {ref : PropertyRef} (title : ref.property = "title") :
      Source finish (.page ref) (Rule.clientCall "getTitle")
  | address {ref : PropertyRef} (url : ref.property = "url") :
      Source finish (.page ref) (Rule.clientCall "getCurrentURL")

/-- A value that is read in place is read by source for it, with a fallback. -/
theorem Value.source_of_access? {value : Value} {fallback : String} {access : Fragment}
    (found : value.access? fallback = some access) :
    Value.Source (· ++ " ?? " ++ fallback) value access := by
  cases value with
  | literal text =>
      obtain rfl := Option.some.inj found
      exact .literal text
  | environment ref =>
      obtain rfl := Option.some.inj found
      exact .environment ref
  | browser ref =>
      simp only [access?, Option.ite_none_right_eq_some, Option.some.injEq] at found
      obtain ⟨size, rfl⟩ := found
      exact .windowSize size
  | page ref =>
      simp only [access?] at found
      split at found
      · next title =>
        obtain rfl := Option.some.inj found
        exact .title title
      · simp only [Option.ite_none_right_eq_some, Option.some.injEq] at found
        obtain ⟨url, rfl⟩ := found
        exact .address url
  | element path | elementAttribute path | dataParameter ref | elementParameter ref
  | pageElement ref => cases found

namespace Binder

/-- What the rules of a binder make of a value that one of the rules handles. -/
theorem weave_of_handles (rule : Rule Value) (member : rule ∈ Rule.forValues) {value : Value}
    (handles : rule.handles value = true) {name : RuleName} (named : value.rule? = some name)
    (settings : Settings) :
    (ofSettings settings).values.weave value =
      if settings.enabled name then rule.weave value else .error (Rejection.ofNode value) := by
  rw [← Rule.keyed_forValues.isEnabled_eq member handles named settings]
  exact RuleBook.weave_restrictTo_of_handles Rule.keyed_forValues member handles settings

/-- Settings decide whether a scalar value is stored, and the value decides which source is. -/
theorem scalar_eq (settings : Settings) (value : Value) (target : Placeholder) (fallback : String) :
    (ofSettings settings).scalar value target fallback =
      match settings.refusal? value, value.access? fallback with
      | some reason, _ => .error reason
      | none, some access => .ok (Assignment.ofFragment target access)
      | none, none => .error (Rejection.ofValue value) := by
  cases value with
  | literal text =>
      rw [scalar, weave_of_handles Rule.literalValue (by simp [Rule.forValues]) rfl rfl]
      by_cases enabled : settings.enabled .literalValue = true <;>
        simp [Rule.literalValue, Settings.refusal?, Value.access?, enabled]
  | environment ref =>
      rw [scalar, weave_of_handles Rule.environmentParameter (by simp [Rule.forValues]) rfl rfl]
      by_cases enabled : settings.enabled .environmentParameter = true <;>
        simp [Rule.environmentParameter, Settings.refusal?, Value.access?, enabled,
          Fragment.ofStatement, Fragment.mapFinal, Fragment.final?]
  | browser ref =>
      rw [scalar, weave_of_handles Rule.browserProperty (by simp [Rule.forValues]) rfl rfl]
      by_cases enabled : settings.enabled .browserProperty = true
      · by_cases size : ref.property = "size" <;>
          simp [Rule.browserProperty, Settings.refusal?, Value.access?, enabled, size]
      · simp [Settings.refusal?, enabled]
  | page ref =>
      rw [scalar, weave_of_handles Rule.pageProperty (by simp [Rule.forValues]) rfl rfl]
      by_cases enabled : settings.enabled .pageProperty = true
      · by_cases title : ref.property = "title"
        · simp [Rule.pageProperty, Settings.refusal?, Value.access?, enabled, title]
        · by_cases url : ref.property = "url" <;>
            simp [Rule.pageProperty, Settings.refusal?, Value.access?, enabled, title, url]
      · simp [Settings.refusal?, enabled]
  | element path => rfl
  | elementAttribute path => rfl
  | dataParameter ref => rfl
  | elementParameter ref => rfl
  | pageElement ref => rfl

end Binder

/-!
### Storing any value

Only two things can go wrong when a value is stored: settings refuse it, or there is nothing to store.
In all other cases storing it is a computation that cannot fail.
-/

/-- Stores the value of an attribute that is named. -/
def Binding.attributeValue (path : AttributePath) (target : Placeholder) : Scoped Assignment := do
  let owner ← Scoped.fresh .element
  let stored ← element path.element owner
  let access := Fragment.ofStatement (owner.token ++ attributeCall path.name) [owner]
  return (Assignment.ofFragment target access).precededBy [stored.toFragment]

/-- An attribute without a name cannot be stored. -/
theorem Binding.elementAttribute_eq (path : AttributePath) (target : Placeholder) :
    elementAttribute path target =
      if path.hasName then liftM (attributeValue path target)
      else throw (Rejection.ofValue (.elementAttribute path)) := by
  unfold elementAttribute
  split <;> rfl

/-- How a value is stored that settings do not refuse. -/
def Value.storing? (target : Placeholder) (fallback : String) :
    Value → Option (Scoped Assignment)
  | .element path => some (Binding.fieldValue path target)
  | .elementAttribute path =>
    if path.hasName then some (Binding.attributeValue path target) else none
  | value => (value.access? fallback).map fun access => pure (Assignment.ofFragment target access)

/-- A value is stored as a field, as an attribute or by one line of its own. -/
theorem Value.storing?_cases {value : Value} {target : Placeholder} {fallback : String}
    {computation : Scoped Assignment} (found : value.storing? target fallback = some computation) :
    (∃ path, value = .element path ∧ computation = Binding.fieldValue path target) ∨
      (∃ path, value = .elementAttribute path ∧ path.hasName = true ∧
        computation = Binding.attributeValue path target) ∨
      ∃ access, value.access? fallback = some access ∧
        computation = pure (Assignment.ofFragment target access) := by
  unfold storing? at found
  split at found
  · next path => exact .inl ⟨path, rfl, (Option.some.inj found).symm⟩
  · next path =>
    obtain ⟨named, same⟩ := Option.ite_none_right_eq_some.mp found
    exact .inr (.inl ⟨path, rfl, named, (Option.some.inj same).symm⟩)
  · obtain ⟨access, accessed, same⟩ := Option.map_eq_some_iff.mp found
    exact .inr (.inr ⟨access, accessed, same.symm⟩)

/-- However a value is stored, it is stored in the target. -/
theorem Value.target_storing? {value : Value} {target : Placeholder} {fallback : String}
    {computation : Scoped Assignment} (found : value.storing? target fallback = some computation)
    (scope : Pool) : (computation.runIn scope).1.target = target := by
  obtain ⟨path, _, rfl⟩ | ⟨path, _, _, rfl⟩ | ⟨access, _, rfl⟩ := storing?_cases found
  · rfl
  · rfl
  · rfl

/-- A value that is not refused can be stored if it is of a storable kind. -/
theorem Value.isSome_storing? {settings : Settings} {value : Value}
    (accepted : settings.refusal? value = none) (target : Placeholder) (fallback : String) :
    (value.storing? target fallback).isSome = value.isStorable := by
  cases value with
  | elementAttribute path => by_cases named : path.hasName = true <;> simp [storing?, isStorable, named]
  | browser ref =>
      have size : ref.property = "size" := by
        unfold Settings.refusal? at accepted
        grind
      simp [storing?, access?, isStorable, size]
  | page ref =>
      have known : ref.property = "title" ∨ ref.property = "url" := by
        unfold Settings.refusal? at accepted
        grind
      rcases known with title | url
      · simp [storing?, access?, isStorable, title]
      · simp [storing?, access?, isStorable, url]
  | _ => rfl

/-- Only storable kinds of values are refused by the settings. -/
theorem Settings.isStorable_of_refusal? {settings : Settings} {value : Value} {reason : Rejection}
    (refused : settings.refusal? value = some reason) : value.isStorable = true := by
  cases value with
  | literal text | environment ref | browser ref | page ref => rfl
  | element path | elementAttribute path | dataParameter ref | elementParameter ref
  | pageElement ref => cases refused

namespace Binder

/-- Stores a value as it is. -/
def uncast (binder : Binder) (value : Value) (target : Placeholder) (fallback : String) :
    Attempt Assignment :=
  match value with
  | .element path => liftM (Binding.fieldValue path target)
  | .elementAttribute path => Binding.elementAttribute path target
  | _ => liftM (binder.scalar value target fallback)

/-- Storing a value either refuses it or stores it in the way of its kind. -/
theorem uncast_eq (settings : Settings) (value : Value) (target : Placeholder) (fallback : String) :
    (ofSettings settings).uncast value target fallback =
      match settings.refusal? value, value.storing? target fallback with
      | some reason, _ => throw reason
      | none, some computation => liftM computation
      | none, none => throw (Rejection.ofValue value) := by
  cases value with
  | element path => rfl
  | elementAttribute path =>
      simp only [uncast, Binding.elementAttribute_eq, Settings.refusal?, Value.storing?]
      split <;> rfl
  | literal text | environment ref | browser ref | page ref | dataParameter ref
  | elementParameter ref | pageElement ref =>
      simp only [uncast, scalar_eq, Value.storing?]
      split
      · next reason _ refused => rw [refused]; rfl
      · next access accepted found => rw [accepted, found]; rfl
      · next accepted missing => rw [accepted, missing]; rfl

/-- Casts what an assignment stores, in place. -/
def castTo (cast : String) (target : Placeholder) (stored : Assignment) : Assignment :=
  (Assignment.ofFragment target
    (Fragment.ofStatement ("(" ++ cast ++ ") " ++ target.token))).precededBy [stored.toFragment]

/-- A cast is made after the value has been stored, and refuses nothing. -/
theorem valueAs_eq (binder : Binder) (value : Value) (target : Placeholder) (cast fallback : String) :
    binder.valueAs value target cast fallback =
      castTo cast target <$> binder.uncast value target fallback := by
  cases value <;> rfl

end Binder

/-!
### Attempts that succeed
-/

/-- An attempt in two halves succeeds if both do, the second in the scope that the first has left. -/
theorem Attempt.exists_of_bind_eq_ok {α β : Type} {attempt : Attempt α} {next : α → Attempt β}
    {scope after : Pool} {b : β} (done : (attempt >>= next).runIn scope = (.ok b, after)) :
    ∃ a between, attempt.runIn scope = (.ok a, between) ∧ (next a).runIn between = (.ok b, after) := by
  rw [Attempt.runIn_bind] at done
  split at done
  · next a between first => exact ⟨a, between, first, done⟩
  · next reason between _ => cases done

theorem Attempt.runIn_of_lift {α : Type} {computation : Scoped α} {scope after : Pool} {a : α}
    (done : (liftM computation : Attempt α).runIn scope = (.ok a, after)) :
    computation.runIn scope = (a, after) := by
  rw [Attempt.runIn_lift, Prod.mk.injEq, Except.ok.injEq] at done
  exact Prod.ext done.1 done.2

/-- A node that is accepted was woven in an empty scope. -/
theorem Attempt.runIn_of_within_alone {α γ : Type} [Node γ] {node : γ} {attempt : Attempt α} {a : α}
    (done : (attempt.within node).alone = .ok a) :
    ∃ after, attempt.runIn ∅ = (.ok a, after) := by
  rw [Attempt.alone, Attempt.runIn_within] at done
  cases outcome : (attempt.runIn ∅).1 with
  | ok b =>
      rw [outcome] at done
      cases done
      exact ⟨_, Prod.ext outcome rfl⟩
  | error reason =>
      rw [outcome] at done
      cases done

namespace Binder

/-- A value that has been stored was not refused, and a computation for its kind has run. -/
theorem exists_of_uncast_eq_ok {settings : Settings} {value : Value} {target : Placeholder}
    {fallback : String} {scope after : Pool} {stored : Assignment}
    (done : ((ofSettings settings).uncast value target fallback).runIn scope = (.ok stored, after)) :
    ∃ computation, value.storing? target fallback = some computation ∧
      computation.runIn scope = (stored, after) := by
  rw [uncast_eq] at done
  split at done
  · cases done
  · next computation _ found => exact ⟨computation, found, Attempt.runIn_of_lift done⟩
  · cases done

/-- What is done to a value once it is stored cannot fail. -/
theorem exists_of_map_uncast_eq_ok {settings : Settings} {value : Value} {target : Placeholder}
    {fallback : String} {change : Assignment → Assignment} {scope after : Pool} {stored : Assignment}
    (done : (change <$> (ofSettings settings).uncast value target fallback).runIn scope =
      (.ok stored, after)) :
    ∃ computation plain, value.storing? target fallback = some computation ∧
      computation.runIn scope = (plain, after) ∧ stored = change plain := by
  rw [Attempt.runIn_map, Prod.mk.injEq] at done
  obtain ⟨result, left⟩ := done
  cases outcome : (((ofSettings settings).uncast value target fallback).runIn scope).1 with
  | ok plain =>
      rw [outcome] at result
      obtain ⟨computation, found, run⟩ := exists_of_uncast_eq_ok (Prod.ext outcome left)
      exact ⟨computation, plain, found, run, (Except.ok.inj result).symm⟩
  | error reason =>
      rw [outcome] at result
      cases result

/-- A value that has been stored with a cast was stored without it first. -/
theorem exists_of_valueAs_eq_ok {settings : Settings} {value : Value} {target : Placeholder}
    {cast fallback : String} {scope after : Pool} {stored : Assignment}
    (done : ((ofSettings settings).valueAs value target cast fallback).runIn scope =
      (.ok stored, after)) :
    ∃ computation plain, value.storing? target fallback = some computation ∧
      computation.runIn scope = (plain, after) ∧ stored = castTo cast target plain := by
  rw [valueAs_eq] at done
  exact exists_of_map_uncast_eq_ok done

end Binder

end StepWeaver
