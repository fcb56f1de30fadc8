/-
Module: StepWeaver.Proofs.Dependencies
Layer: Proofs
Purpose: Woven source depends on the classes of locators exactly if it builds a locator. Composing
  fragments merges what they depend on, and merging the classes with themselves changes neither the
  classes nor their order; so the list is the same however many locators a step builds, and empty if it
  builds none.
Main exports: Call.classesIf, OrderedSet.merge_classesIf, Value.refersToElement, Action.buildsLocator,
  Assertion.buildsLocator, Step.buildsLocator, Weaver.toList_dependencies
-/
import StepWeaver.Proofs.Inversion

namespace StepWeaver

/-!
### The classes of locators
-/

/-- What source depends on that builds locators, or that builds none. -/
def Call.classesIf (builds : Bool) : OrderedSet String :=
  if builds then locatorClasses.dependencies else ∅

open Call (classesIf)

/-- A locator is built from two classes, listed in this order. -/
@[simp] theorem Call.toList_classesIf (builds : Bool) :
    (classesIf builds).toList = if builds then ["ElementLocator", "LocatorType"] else [] := by
  cases builds with
  | true => decide
  | false => rfl

/-- Two sources together build a locator if one of them does. -/
@[simp] theorem OrderedSet.insertAll_classesIf (left right : Bool) :
    (classesIf left).insertAll (classesIf right).toList = classesIf (left || right) := by
  apply OrderedSet.ext
  cases left <;> cases right <;> decide

/-- Merging is a matter of whether one of the sets has the classes. -/
@[simp] theorem OrderedSet.merge_classesIf (own : Bool) (others : List Bool) :
    (classesIf own).merge (others.map classesIf) = classesIf (own || others.any id) := by
  induction others generalizing own with
  | nil => simp
  | cons other others ih =>
      rw [List.map_cons, merge_cons, insertAll_classesIf, ih, List.any_cons, Bool.or_assoc]
      rfl

/-!
### Composition
-/

/-- The linkage depends on the classes of locators, or on no class. -/
def Linkage.Needs (linkage : Linkage) (builds : Bool) : Prop :=
  linkage.dependencies = classesIf builds

/-- The fragment depends on the classes of locators, or on no class. -/
abbrev Fragment.Needs (fragment : Fragment) (builds : Bool) : Prop := fragment.linkage.Needs builds

namespace Linkage

theorem needs_ofExports (exports : List Placeholder) : (ofExports exports).Needs false := rfl

theorem needs_locatorClasses : Call.locatorClasses.Needs true := rfl

/-- A merged linkage needs the classes if one of its parts does. -/
theorem Needs.merge {linkage : Linkage} {own : Bool} (needs : linkage.Needs own)
    {others : List Linkage} {flags : List Bool} (rest : List.Forall₂ Needs others flags) :
    (linkage.merge others).Needs (own || flags.any id) := by
  have same : others.map dependencies = flags.map classesIf := by
    induction rest with
    | nil => rfl
    | cons first _ ih => rw [List.map_cons, List.map_cons, first, ih]
  unfold Needs Linkage.merge
  rw [needs, same, OrderedSet.merge_classesIf]

theorem Needs.merge_one {linkage other : Linkage} {left right : Bool} (needs : linkage.Needs left)
    (further : other.Needs right) : (linkage.merge [other]).Needs (left || right) := by
  have merged := needs.merge (.cons further .nil)
  rwa [List.any_cons, List.any_nil, Bool.or_false] at merged

end Linkage

namespace Fragment

/-- One fragment after another needs the classes if one of them does. -/
theorem needs_foldl {fragment : Fragment} {own : Bool} (needs : fragment.Needs own)
    {fragments : List Fragment} {flags : List Bool}
    (rest : List.Forall₂ Needs fragments flags) :
    (fragments.foldl append fragment).Needs (own || flags.any id) := by
  induction rest generalizing fragment own with
  | nil => rwa [List.any_nil, Bool.or_false]
  | cons first _ ih =>
      rw [List.any_cons, ← Bool.or_assoc]
      exact ih (needs.merge_one first)

/-- Fragments one after the other need the classes if one of them does. -/
theorem needs_concat {fragments : List Fragment} {flags : List Bool}
    (each : List.Forall₂ Fragment.Needs fragments flags) :
    (concat fragments).Needs (flags.any id) := by
  have empty : (∅ : Fragment).Needs false := rfl
  exact needs_foldl empty each

theorem needs_ofStatement (statement : String) (exports : List Placeholder) :
    (ofStatement statement exports).Needs false :=
  Linkage.needs_ofExports exports

theorem needs_pair {first second : Fragment} {left right : Bool}
    (needsFirst : first.Needs left) (needsSecond : second.Needs right) :
    (concat [first, second]).Needs (left || right) := by
  have both := needs_concat (.cons needsFirst (.cons needsSecond .nil))
  rwa [List.any_cons, List.any_cons, List.any_nil, Bool.or_false] at both

theorem needs_triple {first second third : Fragment} {left middle right : Bool}
    (needsFirst : first.Needs left) (needsSecond : second.Needs middle)
    (needsThird : third.Needs right) :
    (concat [first, second, third]).Needs (left || middle || right) := by
  have all := needs_concat (.cons needsFirst (.cons needsSecond (.cons needsThird .nil)))
  rwa [List.any_cons, List.any_cons, List.any_cons, List.any_nil, Bool.or_false, ← Bool.or_assoc] at all

/-- What is written around an expression adds no class. -/
theorem needs_wrap {fragment : Fragment} {builds : Bool} (needs : fragment.Needs builds)
    (template : String → String) (exports : List Placeholder) :
    (fragment.wrap template (Linkage.ofExports exports)).Needs builds := by
  have merged := needs.merge_one (Linkage.needs_ofExports exports)
  rwa [Bool.or_false] at merged

end Fragment

/-- An assignment needs the classes if its source does or one of the fragments that run first. -/
theorem Assignment.needs_precededBy {source : Fragment} {own : Bool} (target : Placeholder)
    (needs : source.Needs own) {predecessors : List Fragment} {flags : List Bool}
    (earlier : List.Forall₂ Fragment.Needs predecessors flags) :
    ((ofFragment target source).precededBy predecessors).toFragment.Needs (own || flags.any id) :=
  Linkage.Needs.merge needs (List.forall₂_map_left_iff.mpr earlier)

/-- Storing a source adds no class to those it needs. -/
theorem Assignment.needs_ofFragment {source : Fragment} {own : Bool} (target : Placeholder)
    (needs : source.Needs own) : (ofFragment target source).toFragment.Needs own := by
  have alone := needs_precededBy target needs .nil
  rwa [List.any_nil, Bool.or_false] at alone

/-- What a single fragment builds that runs first is built before a source that builds nothing. -/
theorem Assignment.needs_after {source stored : Fragment} {builds : Bool} (target : Placeholder)
    (needs : source.Needs false) (earlier : stored.Needs builds) :
    ((ofFragment target source).precededBy [stored]).toFragment.Needs builds := by
  have both := needs_precededBy target needs (.cons earlier .nil)
  rwa [Bool.false_or, List.any_cons, List.any_nil, Bool.or_false] at both

/-!
### Lookups
-/

namespace Call

theorem needs_locate (path : ElementPath) : (locate path).Needs true :=
  Linkage.needs_locatorClasses

/-- A stored locator needs no class any more; its ancestors are built on the spot. -/
theorem needs_locateStored (stored : Placeholder) (path : ElementPath) :
    (locateStored stored path).Needs (!path.ancestors.isEmpty) := by
  unfold locateStored
  cases path.ancestors with
  | nil => exact Linkage.needs_ofExports [stored]
  | cons ancestor ancestors =>
      exact (Linkage.needs_ofExports [stored]).merge_one Linkage.needs_locatorClasses

/-- A question to the navigator needs what its arguments need. -/
theorem needs_navigate (lookup : Lookup) {arguments : Fragment} {builds : Bool}
    (needs : arguments.Needs builds) (scope : Pool) :
    ((navigate lookup arguments).runIn scope).1.Needs builds :=
  Fragment.needs_wrap needs _ _

theorem needs_lookUp (lookup : Lookup) (path : ElementPath) (scope : Pool) :
    ((lookUp lookup path).runIn scope).1.Needs true :=
  needs_navigate lookup Linkage.needs_locatorClasses scope

/-- A check adds no class to those of the expression. -/
theorem needs_checkExpression (check : Check) {expression : Fragment} {builds : Bool}
    (needs : expression.Needs builds) (scope : Pool) :
    ((checkExpression check expression).runIn scope).1.Needs builds :=
  Fragment.needs_wrap needs _ _

theorem needs_checkStored (check : Check) {assignment : Assignment} {builds : Bool}
    (needs : assignment.toFragment.Needs builds) (scope : Pool) :
    ((checkStored check assignment).runIn scope).1.Needs builds := by
  rw [← Bool.or_false builds]
  exact Fragment.needs_pair needs (Fragment.needs_ofStatement _ _)

end Call

namespace Binding

/-- The locator of the element itself is built even if there are no others to build. -/
theorem needs_lookup (path : ElementPath) (target : Placeholder) (probe query : Lookup)
    (scope : Pool) : ((lookup path target probe query).runIn scope).1.toFragment.Needs true := by
  have arguments := Call.needs_locateStored (scope.fresh Role.elementLocator.name).1 path
  have probed (presence : Placeholder) :=
    Assignment.needs_ofFragment presence (Call.needs_navigate probe arguments scope)
  -- The query and the probe build the locators of the ancestors, and the first line that of the element.
  suffices merged : ((lookup path target probe query).runIn scope).1.toFragment.Needs
      (!path.ancestors.isEmpty || [true, !path.ancestors.isEmpty].any id) by
    simpa using merged
  apply Assignment.needs_precededBy target (Call.needs_navigate query arguments scope)
  apply List.Forall₂.cons
  · exact Assignment.needs_ofFragment _ (Call.needs_locate path)
  · exact .cons (Call.needs_checkStored .isTrue (probed _) scope) .nil

theorem needs_fieldValue (path : ElementPath) (target : Placeholder) (scope : Pool) :
    ((fieldValue path target).runIn scope).1.toFragment.Needs true :=
  Assignment.needs_after target (Fragment.needs_ofStatement _ _) (needs_lookup path _ .has .find _)

theorem needs_attributeValue (path : AttributePath) (target : Placeholder) (scope : Pool) :
    ((attributeValue path target).runIn scope).1.toFragment.Needs true :=
  Assignment.needs_after target (Fragment.needs_ofStatement _ _)
    (needs_lookup path.element _ .hasOne .findOne _)

end Binding

/-!
### Values
-/

/-- The value is the text in an element, or an attribute of one. -/
def Value.refersToElement : Value → Bool
  | .element _ | .elementAttribute _ => true
  | _ => false

/-- Source for a scalar value builds no locator. -/
theorem Value.Source.needs {finish : String → String} {value : Value} {fragment : Fragment}
    (source : Value.Source finish value fragment) :
    fragment.Needs false ∧ value.refersToElement = false := by
  cases source with
  | windowSize size => exact ⟨Linkage.needs_ofExports _, rfl⟩
  | _ => exact ⟨Fragment.needs_ofStatement _ _, rfl⟩

/-- Storing a value takes a locator only if the value is to be found in an element. -/
theorem Value.needs_storing? {value : Value} {target : Placeholder} {fallback : String}
    {computation : Scoped Assignment} (found : value.storing? target fallback = some computation)
    (scope : Pool) : (computation.runIn scope).1.toFragment.Needs value.refersToElement := by
  obtain ⟨path, rfl, rfl⟩ | ⟨path, rfl, _, rfl⟩ | ⟨access, accessed, rfl⟩ := storing?_cases found
  · exact Binding.needs_fieldValue path target scope
  · exact Binding.needs_attributeValue path target scope
  · obtain ⟨needs, scalar⟩ := (source_of_access? accessed).needs
    rw [scalar]
    exact Assignment.needs_ofFragment target needs

theorem Binder.needs_castTo (cast : String) (target : Placeholder) {stored : Assignment}
    {builds : Bool} (needs : stored.toFragment.Needs builds) :
    (castTo cast target stored).toFragment.Needs builds :=
  Assignment.needs_after target (Fragment.needs_ofStatement _ _) needs

/-!
### Actions, assertions and steps
-/

/-- The action takes a locator: it acts on an element or reads its operand off one. To wait for an
    element, the crawler is told its locator as a text. -/
def Action.buildsLocator : Action → Bool
  | .wait duration => duration.refersToElement
  | .interact kind _ => kind ≠ .waitFor
  | .input _ _ => true
  | .navigate _ | .unrecognised _ => false

/-- The assertion reads an operand off an element. -/
def Assertion.buildsLocator : Assertion → Bool
  | .examine examined _ => examined.refersToElement
  | .compare examined _ expected => examined.refersToElement || expected.refersToElement

/-- One of the parts takes a locator. -/
def Step.buildsLocator (step : Step) : Bool :=
  step.actions.any Action.buildsLocator || step.assertions.any Assertion.buildsLocator

/-- Source for an identifier builds its locator. -/
theorem Identifier.Source.needs {identifier : Identifier} {fragment : Fragment}
    (source : Identifier.Source identifier fragment) : fragment.Needs true := by
  cases source with
  | element path => exact Call.needs_lookUp .findOne path ∅
  | @elementAttribute path named =>
      exact Fragment.needs_wrap (Call.needs_lookUp .findOne path.element ∅) _ []

/-- Source for an action needs the classes exactly if the action takes a locator. -/
theorem Action.Source.needs {settings : Settings} {action : Action} {fragment : Fragment}
    (source : Action.Source settings action fragment) :
    fragment.Needs action.buildsLocator := by
  cases source with
  | @wait time computation found =>
      rw [buildsLocator, ← Bool.or_false time.refersToElement]
      apply Fragment.needs_pair
      · exact Binder.needs_castTo _ _ (Value.needs_storing? found _)
      · exact Fragment.needs_ofStatement _ _
  | navigate kind => exact Fragment.needs_ofStatement _ _
  | act path direct =>
      rw [buildsLocator, decide_eq_true direct, ← Bool.or_false true]
      apply Fragment.needs_pair
      · exact Binding.needs_lookup path _ .hasOne .findOne _
      · exact Fragment.needs_ofStatement _ _
  | waitFor path => exact Fragment.needs_ofStatement _ _
  | @input path text computation fields between found lookedUp =>
      obtain rfl := congrArg Prod.fst lookedUp
      have looked := Binding.needs_lookup path Role.collection.placeholder .has .find
        (Pool.ofNames [Role.collection.name, Role.value.name])
      have casted := Binder.needs_castTo settings.valueCast Role.value.placeholder
        (Value.needs_storing? found between)
      have filled : (Call.fillField Role.collection.placeholder
          Role.value.placeholder).alone.Needs false :=
        Fragment.needs_ofStatement _ _
      exact Fragment.needs_triple looked casted filled

/-- Source for an assertion needs the classes exactly if an operand is read off an element. -/
theorem Assertion.Source.needs {settings : Settings} {assertion : Assertion} {fragment : Fragment}
    (source : Assertion.Source settings assertion fragment) :
    fragment.Needs assertion.buildsLocator := by
  cases source with
  | elementPresence path asked =>
      exact Call.needs_checkExpression _ (Call.needs_lookUp .has path ∅) ∅
  | presence asked noElement found =>
      exact Call.needs_checkStored _ (Value.needs_storing? found _) ∅
  | @compare examined expected _ method _ _ stored between _ foundExamined foundExpected ran =>
      obtain rfl := congrArg Prod.fst ran
      have casted := Binder.needs_castTo settings.valueCast Role.examinedValue.placeholder
        (Value.needs_storing? foundExamined
          (Pool.ofNames [Role.examinedValue.name, Role.expectedValue.name]))
      have castedExpected := Binder.needs_castTo settings.valueCast Role.expectedValue.placeholder
        (Value.needs_storing? foundExpected between)
      have compared : (Call.compareStored method Role.expectedValue.placeholder
          Role.examinedValue.placeholder).alone.Needs false :=
        Fragment.needs_ofStatement _ _
      have all := Fragment.needs_triple casted castedExpected compared
      rwa [Bool.or_false] at all

namespace Weaver

/-- Parts that are woven one by one need the classes one by one. -/
theorem needs_of_forall₂ {α : Type} {weave : α → Except Rejection Fragment} (builds : α → Bool)
    (sound : ∀ node part, weave node = .ok part → part.Needs (builds node)) {nodes : List α}
    {parts : List Fragment}
    (woven : List.Forall₂ (fun node part => weave node = .ok part) nodes parts) :
    List.Forall₂ Fragment.Needs parts (nodes.map builds) := by
  induction woven with
  | nil => exact .nil
  | cons first _ ih => exact .cons (sound _ _ first) ih

/-- Source for a step needs the classes exactly if one of its parts does. -/
theorem needs_of_weaveStep {settings : Settings} {step : Step} {fragment : Fragment}
    (woven : (ofSettings settings).weaveStep step = .ok fragment) :
    fragment.Needs step.buildsLocator := by
  obtain ⟨parts, ⟨done, checked, rfl, actions, assertions⟩, rfl⟩ := weaveStep_eq_ok_iff.mp woven
  have needsActions := needs_of_forall₂ Action.buildsLocator
    (fun action part source => (Action.source_of_weave source).needs) actions
  have needsAssertions := needs_of_forall₂ Assertion.buildsLocator
    (fun assertion part source => (Assertion.source_of_weave source).needs) assertions
  have all := Fragment.needs_concat (List.rel_append needsActions needsAssertions)
  rwa [List.any_append, List.any_map, List.any_map] at all

/-- The dependencies of woven source are the classes `ElementLocator` and `LocatorType`, in this order, or
    none. They are none for a value and those two for an identifier; for an action, an assertion or a
    step they are those two exactly if some part of it takes a locator. -/
theorem toList_dependencies (settings : Settings) :
    (∀ value fragment, (ofSettings settings).values.weave value = .ok fragment →
      fragment.dependencies.toList = []) ∧
    (∀ identifier fragment, (ofSettings settings).identifiers.weave identifier = .ok fragment →
      fragment.dependencies.toList = ["ElementLocator", "LocatorType"]) ∧
    (∀ action fragment, (ofSettings settings).actions.weave action = .ok fragment →
      fragment.dependencies.toList =
        if action.buildsLocator then ["ElementLocator", "LocatorType"] else []) ∧
    (∀ assertion fragment, (ofSettings settings).assertions.weave assertion = .ok fragment →
      fragment.dependencies.toList =
        if assertion.buildsLocator then ["ElementLocator", "LocatorType"] else []) ∧
    ∀ step fragment, (ofSettings settings).weaveStep step = .ok fragment →
      fragment.dependencies.toList =
        if step.buildsLocator then ["ElementLocator", "LocatorType"] else [] := by
  have listed {fragment : Fragment} {builds : Bool} (needs : fragment.Needs builds) :
      fragment.dependencies.toList =
        if builds then ["ElementLocator", "LocatorType"] else [] := by
    rw [Fragment.dependencies, needs, Call.toList_classesIf]
  refine ⟨?_, ?_, ?_, ?_, ?_⟩
  · intro value fragment woven
    exact listed (Value.source_of_weave woven).needs.1
  · intro identifier fragment woven
    exact listed (Identifier.source_of_weave woven).needs
  · intro action fragment woven
    exact listed (Action.source_of_weave woven).needs
  · intro assertion fragment woven
    exact listed (Assertion.source_of_weave woven).needs
  · intro step fragment woven
    exact listed (needs_of_weaveStep woven)

-- Only the second action builds locators, those of the two ancestors twice.
theorem toList_dependencies_nested :
    let field : ElementPath := ⟨.ofText ".field", [.ofText ".form", .ofText ".page"]⟩
    let step : Step :=
      { actions := [.interact .waitFor (.element ⟨.ofText ".page", []⟩), .interact .click (.element field)]
        assertions := [.examine (.ofPage "title") .present] }
    ∃ fragment, (ofSettings .standard).weaveStep step = .ok fragment ∧
      fragment.dependencies.toList = ["ElementLocator", "LocatorType"] := by
  intro field step
  obtain ⟨fragment, woven⟩ : ∃ fragment, (ofSettings .standard).weaveStep step = .ok fragment :=
    ⟨_, rfl⟩
  obtain ⟨_, _, _, _, steps⟩ := toList_dependencies .standard
  exact ⟨fragment, woven, steps step fragment woven⟩

end Weaver

end StepWeaver
