/-
Module: StepWeaver.Proofs.NonInterference
Layer: Proofs
Purpose: The texts of a step do not interfere with its source. Tests of the same shape are woven side by
  side: each call and each binding is alike whatever texts it was built from, therefore each rule treats
  them alike, and so do books of rules and the weaver.
Main exports: Binding.alike_lookup, Value.SameShape.storing?, Binder.alike_valueAs, Rule.Respects,
  Rule.respects_forActions, Rule.respects_forAssertions, RuleBook.sameOutcome_weave,
  Weaver.sameOutcome_weaveStep
-/
import Mathlib.Data.List.Find
import StepWeaver.Proofs.SideBySide

namespace StepWeaver

open Placeholder (IsPlain Reads scan reads_token)

/-!
### Calls and bindings
-/

namespace Call

/-- A locator is one argument without tokens, whatever its text. -/
theorem readAlike_locate (path path' : ElementPath) : (locate path).ReadAlike (locate path') := by
  refine ⟨⟨_, _, readsAs_locate path, readsAs_locate path', ?_⟩, rfl⟩
  rw [Placeholder.tokens_plain, Placeholder.tokens_plain]

/-- So is a whole lineage of locators. -/
theorem readAlike_locateLineage (path path' : ElementPath) :
    (locateLineage path).ReadAlike (locateLineage path') := by
  refine ⟨⟨_, _, readsAs_locateLineage path, readsAs_locateLineage path', ?_⟩, rfl⟩
  rw [Placeholder.tokens_plain, Placeholder.tokens_plain]

/-- A stored locator is mentioned by its token, and its ancestors hold none. -/
theorem readAlike_locateStored {stored : Placeholder} (legible : stored.Legible)
    {path path' : ElementPath} (same : path.SameShape path') :
    (locateStored stored path).ReadAlike (locateStored stored path') := by
  refine ⟨⟨_, _, readsAs_locateStored legible path, readsAs_locateStored legible path', ?_⟩, ?_⟩
  · rw [Placeholder.tokens_cons_token, Placeholder.tokens_cons_token, Placeholder.tokens_plain,
      Placeholder.tokens_plain]
  · rw [locateStored, locateStored, same.isEmpty_ancestors]

/-- Calls of one method on arguments that are read alike are read alike. -/
theorem readAlike_call {object method : String} {template : String → String}
    (reads : ∀ {text read}, Reads text read → Reads (template text) (callRead object method read))
    {arguments arguments' : Fragment} (alike : arguments.ReadAlike arguments') (extra : Linkage) :
    (arguments.wrap template extra).ReadAlike (arguments'.wrap template extra) := by
  obtain ⟨⟨read, read', argumentsRead, argumentsRead', same⟩, linkage⟩ := alike
  refine ⟨⟨_, _, ⟨_, rfl, reads argumentsRead.text⟩, ⟨_, rfl, reads argumentsRead'.text⟩, ?_⟩, ?_⟩
  · rw [tokens_callRead, tokens_callRead, same]
  · exact congrArg (Linkage.merge · [extra]) linkage

/-- A question to the navigator adds the same tokens around its arguments. -/
theorem alike_navigate (lookup : Lookup) {arguments arguments' : Fragment}
    (alike : arguments.ReadAlike arguments') :
    Scoped.Alike Fragment.ReadAlike (navigate lookup arguments) (navigate lookup arguments') := by
  refine (Scoped.alike_create .navigator).bind ?_
  rintro navigator _ ⟨rfl, rfl⟩
  exact .pure (readAlike_call (reads_navigate lookup) alike _)

/-- A check of an expression adds the same tokens around it. -/
theorem alike_checkExpression (check : Check) {expression expression' : Fragment}
    (alike : expression.ReadAlike expression') :
    Scoped.Alike Fragment.ReadAlike (checkExpression check expression)
      (checkExpression check expression') := by
  refine (Scoped.alike_create .testContext).bind ?_
  rintro testContext _ ⟨rfl, rfl⟩
  exact .pure (readAlike_call (reads_check check) alike _)

/-- A check of a stored value mentions its target, which is the same on both sides. -/
theorem alike_checkStored (check : Check) {assignment assignment' : Assignment}
    (alike : assignment.Alike assignment') :
    Scoped.Alike Fragment.Alike (checkStored check assignment) (checkStored check assignment') := by
  refine (Scoped.alike_create .testContext).bind ?_
  rintro testContext _ ⟨rfl, _⟩
  refine .pure (Fragment.Alike.concat (.cons alike.fragment (.cons ?_ .nil)))
  rw [alike.target]
  exact .refl _

end Call

namespace Binding

/-- A lookup takes the same placeholders from its scope for every path of the shape. -/
theorem alike_lookup {path path' : ElementPath} (same : path.SameShape path') {target : Placeholder}
    (legible : target.Legible) (probe query : Lookup) :
    Scoped.Alike Assignment.Alike (lookup path target probe query) (lookup path' target probe query) := by
  refine (Scoped.alike_fresh .elementLocator).bind ?_
  rintro locator _ ⟨rfl, locatorLegible⟩
  refine (Scoped.alike_fresh .presence).bind ?_
  rintro presence _ ⟨rfl, presenceLegible⟩
  have arguments := Call.readAlike_locateStored locatorLegible same
  refine (Call.alike_navigate probe arguments).bind ?_
  intro probed probed' probes
  refine (Call.alike_checkStored .isTrue
    (Assignment.alike_ofFragment presenceLegible probes.alike)).bind ?_
  intro checked checked' checks
  refine (Call.alike_navigate query arguments).bind ?_
  intro found found' finds
  have located := Assignment.alike_ofFragment locatorLegible (Call.readAlike_locate path path').alike
  exact .pure (Assignment.alike_of_source legible finds.alike
    (.cons located.fragment (.cons checks .nil)))

/-- Reading a field stores a collection first, under the same placeholder on both sides. -/
theorem alike_fieldValue {path path' : ElementPath} (same : path.SameShape path')
    {target : Placeholder} (legible : target.Legible) :
    Scoped.Alike Assignment.Alike (fieldValue path target) (fieldValue path' target) := by
  refine (Scoped.alike_fresh .collection).bind ?_
  rintro elements _ ⟨rfl, elementsLegible⟩
  refine (alike_lookup same elementsLegible .has .find).bind ?_
  intro stored stored' alike
  refine (Scoped.Alike.refl (Call.readField elements)).bind ?_
  rintro value _ rfl
  exact .pure (Assignment.alike_of_source legible (.refl value) (.cons alike.fragment .nil))

/-- Reading an attribute stores its element first, under the same placeholder on both sides. -/
theorem alike_attributeValue {path path' : AttributePath} (same : path.SameShape path')
    {target : Placeholder} (legible : target.Legible) :
    Scoped.Alike Assignment.Alike (attributeValue path target) (attributeValue path' target) := by
  refine (Scoped.alike_fresh .element).bind ?_
  rintro owner _ ⟨rfl, ownerLegible⟩
  refine (alike_lookup same.element ownerLegible .hasOne .findOne).bind ?_
  intro stored stored' alike
  have access (name : String) : scan (owner.token ++ attributeCall name) = [owner.token] := by
    rw [Placeholder.scan_eq_tokens,
      ((reads_token ownerLegible).append (isPlain_attributeCall name)).symbols_eq]
    simp
  refine .pure (Assignment.alike_of_source legible ?_ (.cons alike.fragment .nil))
  exact Fragment.alike_ofStatement ((access path.name).trans (access path'.name).symm) [owner]

end Binding

/-!
### Values
-/

namespace Value.SameShape

variable {left right : Value}

/-- Values of the same shape are refused for the same cause or not at all. -/
theorem refusal? (same : left.SameShape right) (settings : Settings) :
    Option.Rel Rejection.SameCause (settings.refusal? left) (settings.refusal? right) := by
  cases same with
  | literal | environment =>
      unfold Settings.refusal?
      dsimp only
      split
      · exact .none
      · exact .some (.unhandledNode _ _ _)
  | browser same | page same =>
      unfold Settings.refusal?
      dsimp only
      rw [same]
      split
      · split
        · exact .none
        · exact .some (.unknownProperty _ _ _)
      · exact .some (.unhandledNode _ _ _)
  | element | elementAttribute | dataParameter | elementParameter | pageElement => exact .none

/-- Values of the same shape are read in place alike or not at all. -/
theorem access? (same : left.SameShape right) (fallback : String) :
    Option.Rel Fragment.Alike (left.access? fallback) (right.access? fallback) := by
  cases same with
  | literal text text' =>
      have nothing (text : String) : scan (Text.Quoted.literal text) = [] := by
        rw [Placeholder.scan_eq_tokens, (Placeholder.isPlain_literal text).symbols_eq,
          Placeholder.tokens_plain]
      exact .some (Fragment.alike_ofStatement ((nothing text).trans (nothing text').symm) [])
  | environment ref ref' =>
      -- The fallback may hold tokens of its own; it is the same on both sides.
      have parameter (name : String) :
          scan (Role.environment.placeholder.token ++ "[" ++ Text.Quoted.literal name ++ "]" ++
              " ?? " ++ fallback) =
            Role.environment.placeholder.token :: scan (" ?? " ++ fallback) := by
        rw [Placeholder.scan_eq_tokens, Placeholder.scan_eq_tokens, String.append_assoc,
          (reads_parameter name).symbols_append]
        simp
      exact .some (Fragment.alike_ofStatement
        ((parameter ref.property).trans (parameter ref'.property).symm) _)
  | browser same =>
      unfold Value.access?
      dsimp only
      rw [same]
      split
      · exact .some (.refl _)
      · exact .none
  | page same =>
      unfold Value.access?
      dsimp only
      rw [same]
      split
      · exact .some (.refl _)
      · split
        · exact .some (.refl _)
        · exact .none
  | element | elementAttribute | dataParameter | elementParameter | pageElement => exact .none

/-- Values of the same shape are stored by alike computations or by none. -/
theorem storing? (same : left.SameShape right) {target : Placeholder} (legible : target.Legible)
    (fallback : String) :
    Option.Rel (Scoped.Alike Assignment.Alike) (left.storing? target fallback)
      (right.storing? target fallback) := by
  have stored : Option.Rel (Scoped.Alike Assignment.Alike)
      ((left.access? fallback).map fun access => pure (Assignment.ofFragment target access))
      ((right.access? fallback).map fun access => pure (Assignment.ofFragment target access)) := by
    have accesses := same.access? fallback
    generalize left.access? fallback = one at accesses ⊢
    generalize right.access? fallback = two at accesses ⊢
    cases accesses with
    | none => exact .none
    | some alike => exact .some (.pure (Assignment.alike_ofFragment legible alike))
  cases same with
  | element same => exact .some (Binding.alike_fieldValue same legible)
  | elementAttribute same =>
      unfold Value.storing?
      dsimp only
      rw [same.hasName]
      split
      · exact .some (Binding.alike_attributeValue same legible)
      · exact .none
  | literal | environment | browser | page | dataParameter | elementParameter | pageElement =>
      exact stored

end Value.SameShape

namespace Binder

variable (settings : Settings) {left right : Value}

/-- The shape of a value decides how it is stored. -/
theorem alike_uncast (same : left.SameShape right) {target : Placeholder} (legible : target.Legible)
    (fallback : String) :
    Attempt.Alike Assignment.Alike ((ofSettings settings).uncast left target fallback)
      ((ofSettings settings).uncast right target fallback) := by
  have refusals := same.refusal? settings
  have ways := same.storing? legible fallback
  rw [uncast_eq, uncast_eq]
  generalize settings.refusal? left = refused at refusals ⊢
  generalize settings.refusal? right = refused' at refusals ⊢
  cases refusals with
  | some cause => exact .throw cause
  | none =>
      generalize left.storing? target fallback = way at ways ⊢
      generalize right.storing? target fallback = way' at ways ⊢
      cases ways with
      | some alike => exact .lift alike
      | none => exact .throw (.unusableValue _ _)

/-- The cast holds no text of a user, so nothing is asked of it. -/
theorem alike_castTo (cast : String) {target : Placeholder} (legible : target.Legible)
    {stored stored' : Assignment} (alike : stored.Alike stored') :
    (castTo cast target stored).Alike (castTo cast target stored') :=
  Assignment.alike_of_source legible (.refl _) (.cons alike.fragment .nil)

/-- A cast is one more line, with the same text on both sides. -/
theorem alike_valueAs (same : left.SameShape right) {target : Placeholder} (legible : target.Legible)
    (cast fallback : String) :
    Attempt.Alike Assignment.Alike ((ofSettings settings).valueAs left target cast fallback)
      ((ofSettings settings).valueAs right target cast fallback) := by
  rw [valueAs_eq, valueAs_eq]
  exact (alike_uncast settings same legible fallback).map fun _ _ => alike_castTo cast legible

end Binder

/-!
### Rules
-/

/-- The rule answers for nodes of the same shape or for neither, and weaves them alike. -/
structure Rule.Respects {α : Type} (shape : α → α → Prop) (rule : Rule α) : Prop where
  handles : ∀ {left right}, shape left right → rule.handles left = rule.handles right
  weave : ∀ {left right}, shape left right →
    SameOutcome Fragment.Alike (rule.weave left) (rule.weave right)

namespace Rule

variable (settings : Settings)

theorem alike_sleep {left right : Value} (same : left.SameShape right) :
    Attempt.Alike Fragment.Alike (sleep (Binder.ofSettings settings) left)
      (sleep (Binder.ofSettings settings) right) := by
  refine (Attempt.Alike.lift (Scoped.alike_fresh .duration)).bind ?_
  rintro target _ ⟨rfl, legible⟩
  refine (Binder.alike_valueAs settings same legible _ _).bind ?_
  intro stored stored' alike
  exact .pure (Fragment.Alike.concat (.cons alike.fragment (.cons (.refl _) .nil)))

theorem alike_actOn {path path' : ElementPath} (same : path.SameShape path') (method : String) :
    Scoped.Alike Fragment.Alike (actOn path method) (actOn path' method) := by
  refine (Scoped.alike_fresh .element).bind ?_
  rintro target _ ⟨rfl, legible⟩
  refine (Binding.alike_lookup same legible .hasOne .findOne).bind ?_
  intro stored stored' alike
  exact .pure (Fragment.Alike.concat (.cons alike.fragment (.cons (.refl _) .nil)))

/-- Filling in a field stores the field first and then the value, alike on both sides. -/
theorem alike_fillIn {path path' : ElementPath} (same : path.SameShape path') {left right : Value}
    (sameValue : left.SameShape right) :
    Attempt.Alike Fragment.Alike (fillIn (Binder.ofSettings settings) path left)
      (fillIn (Binder.ofSettings settings) path' right) := by
  refine (Attempt.Alike.lift (Scoped.alike_fresh .collection)).bind ?_
  rintro fields _ ⟨rfl, fieldsLegible⟩
  refine (Attempt.Alike.lift (Scoped.alike_fresh .value)).bind ?_
  rintro target _ ⟨rfl, targetLegible⟩
  refine (Attempt.Alike.lift (Binding.alike_lookup same fieldsLegible .has .find)).bind ?_
  intro storedFields storedFields' fieldsAlike
  refine (Binder.alike_valueAs settings sameValue targetLegible _ _).bind ?_
  intro storedValue storedValue' valueAlike
  refine (Attempt.Alike.lift (.refl (Call.fillField fields target))).bind ?_
  rintro call _ rfl
  exact .pure (Fragment.Alike.concat
    (.cons fieldsAlike.fragment (.cons valueAlike.fragment (.cons (.refl call) .nil))))

/-- A comparison stores its two operands in one scope, alike on both sides. -/
theorem alike_compare (method : String) {examined examined' expected expected' : Value}
    (same : examined.SameShape examined') (sameExpected : expected.SameShape expected') :
    Attempt.Alike Fragment.Alike (compare (Binder.ofSettings settings) method examined expected)
      (compare (Binder.ofSettings settings) method examined' expected') := by
  refine (Attempt.Alike.lift (Scoped.alike_fresh .examinedValue)).bind ?_
  rintro examinedTarget _ ⟨rfl, examinedLegible⟩
  refine (Attempt.Alike.lift (Scoped.alike_fresh .expectedValue)).bind ?_
  rintro expectedTarget _ ⟨rfl, expectedLegible⟩
  refine (Binder.alike_valueAs settings same examinedLegible _ _).bind ?_
  intro storedExamined storedExamined' examinedAlike
  refine (Binder.alike_valueAs settings sameExpected expectedLegible _ _).bind ?_
  intro storedExpected storedExpected' expectedAlike
  refine (Attempt.Alike.lift (.refl (Call.compareStored method expectedTarget examinedTarget))).bind ?_
  rintro call _ rfl
  exact .pure (Fragment.Alike.concat
    (.cons examinedAlike.fragment (.cons expectedAlike.fragment (.cons (.refl call) .nil))))

theorem alike_examineStored {examined examined' : Value} (same : examined.SameShape examined')
    (expected : Bool) :
    Attempt.Alike Fragment.Alike (examineStored (Binder.ofSettings settings) examined expected)
      (examineStored (Binder.ofSettings settings) examined' expected) := by
  refine (Attempt.Alike.lift (Scoped.alike_fresh .examinedValue)).bind ?_
  rintro target _ ⟨rfl, legible⟩
  refine (Binder.alike_uncast settings same legible _).bind ?_
  intro stored stored' alike
  exact .lift (Call.alike_checkStored _ alike)

/-- Whether a value is examined on the spot or stored first is a matter of its shape. -/
theorem alike_examine (node node' : Assertion) {examined examined' : Value}
    (same : examined.SameShape examined') (expected : Bool) :
    Attempt.Alike Fragment.Alike (examine (Binder.ofSettings settings) node examined expected)
      (examine (Binder.ofSettings settings) node' examined' expected) := by
  have stored := alike_examineStored settings same expected
  -- An element is looked up on the spot; all else that can be missing is stored first.
  cases same with
  | @element path path' same =>
      have found := Call.alike_navigate .has (Call.readAlike_locateLineage path path')
      refine (Attempt.Alike.lift found).bind ?_
      intro answer answer' alike scope
      obtain ⟨checked, after⟩ := Call.alike_checkExpression (if expected then .isTrue else .isFalse)
        alike scope
      exact ⟨.accepted checked.alike, after⟩
  | elementAttribute | environment | browser | page => exact stored
  | literal | dataParameter | elementParameter | pageElement =>
      exact .throw (.unhandledNode _ _ _)

theorem respects_wait : (wait (Binder.ofSettings settings)).Respects Action.SameShape where
  handles same := by
    cases same with
    | wait same => exact same.isStorable
    | navigate | interact | input | unrecognised => rfl
  weave same := by
    cases same with
    | wait same => exact (alike_sleep settings same).within_alone _ _
    | navigate | interact | input | unrecognised => exact .ofNode _ _

theorem respects_navigation : navigation.Respects Action.SameShape where
  handles same := by cases same <;> rfl
  weave same := by
    cases same with
    | navigate kind => exact .accepted (.refl _)
    | wait | interact | input | unrecognised => exact .ofNode _ _

theorem respects_interaction (kind : Interaction) (method : String) :
    (interaction kind method).Respects Action.SameShape where
  handles same := by
    cases same with
    | interact other same => cases same <;> rfl
    | wait | navigate | input | unrecognised => rfl
  weave same := by
    cases same with
    | interact other same =>
        cases same with
        | element same =>
            unfold interaction
            dsimp only
            split
            · exact .accepted (alike_actOn same method).alone
            · exact .ofNode _ _
        | elementAttribute | pageElement | elementParameter => exact .ofNode _ _
    | wait | navigate | input | unrecognised => exact .ofNode _ _

/-- A plain call brings no token of its own to the crawler. -/
theorem alike_crawl {call call' : String} (isPlain : IsPlain call) (isPlain' : IsPlain call') :
    (crawl call).Alike (crawl call') := by
  refine Fragment.alike_ofStatement ?_ _
  rw [Placeholder.scan_eq_tokens, Placeholder.scan_eq_tokens, (reads_crawl isPlain).symbols_eq,
    (reads_crawl isPlain').symbols_eq]
  simp

theorem respects_waitFor : waitFor.Respects Action.SameShape where
  handles same := by
    cases same with
    | interact kind same =>
        cases same with
        | element same =>
            cases kind with
            | waitFor => exact same.isBare
            | click | submit => rfl
        | elementAttribute | pageElement | elementParameter => cases kind <;> rfl
    | wait | navigate | input | unrecognised => rfl
  weave same := by
    cases same with
    | interact kind same =>
        cases same with
        | @element path path' same =>
            cases kind with
            | waitFor =>
                unfold waitFor
                dsimp only
                rw [same.isBare]
                split
                · exact .accepted (alike_crawl (isPlain_waitFor path.own.text)
                    (isPlain_waitFor path'.own.text))
                · exact .ofNode _ _
            | click | submit => exact .ofNode _ _
        | elementAttribute | pageElement | elementParameter => cases kind <;> exact .ofNode _ _
    | wait | navigate | input | unrecognised => exact .ofNode _ _

theorem respects_set : (set (Binder.ofSettings settings)).Respects Action.SameShape where
  handles same := by
    cases same with
    | input same sameValue =>
        cases same with
        | element => exact sameValue.isStorable
        | elementAttribute | pageElement | elementParameter => rfl
    | wait | navigate | interact | unrecognised => rfl
  weave same := by
    cases same with
    | input same sameValue =>
        cases same with
        | element same => exact (alike_fillIn settings same sameValue).within_alone _ _
        | elementAttribute | pageElement | elementParameter => exact .ofNode _ _
    | wait | navigate | interact | unrecognised => exact .ofNode _ _

theorem respects_existsComparison :
    (existsComparison (Binder.ofSettings settings)).Respects Assertion.SameShape where
  handles same := by
    cases same with
    | examine same comparison => exact congrArg (_ && ·) same.canBeMissing
    | compare => rfl
  weave same := by
    cases same with
    | examine same comparison =>
        unfold existsComparison
        dsimp only
        split
        · next expected _ => exact (alike_examine settings _ _ same expected).within_alone _ _
        · exact .ofNode _ _
    | compare => exact .ofNode _ _

theorem respects_valueComparison :
    (valueComparison (Binder.ofSettings settings)).Respects Assertion.SameShape where
  handles same := by
    cases same with
    | examine => rfl
    | compare same comparison sameExpected =>
        unfold valueComparison
        dsimp only
        rw [same.isStorable, sameExpected.isStorable]
  weave same := by
    cases same with
    | examine => exact .ofNode _ _
    | compare same comparison sameExpected =>
        unfold valueComparison
        dsimp only
        split
        · next method _ => exact (alike_compare settings method same sameExpected).within_alone _ _
        · exact .ofNode _ _

/-- All rules for actions look only at the shape. -/
theorem respects_forActions :
    ∀ rule ∈ forActions (Binder.ofSettings settings), rule.Respects Action.SameShape := by
  intro rule member
  simp only [forActions, List.mem_cons, List.not_mem_nil, or_false] at member
  rcases member with rfl | rfl | rfl | rfl | rfl | rfl
  · exact respects_wait settings
  · exact respects_navigation
  · exact respects_interaction .click "click"
  · exact respects_interaction .submit "submit"
  · exact respects_waitFor
  · exact respects_set settings

/-- All rules for assertions look only at the shape. -/
theorem respects_forAssertions :
    ∀ rule ∈ forAssertions (Binder.ofSettings settings), rule.Respects Assertion.SameShape := by
  intro rule member
  simp only [forAssertions, List.mem_cons, List.not_mem_nil, or_false] at member
  rcases member with rfl | rfl
  · exact respects_existsComparison settings
  · exact respects_valueComparison settings

end Rule

/-!
### Whole steps
-/

/-- A book of rules that respect a shape asks the same rule about nodes of that shape, and gets the same
    outcome from it. -/
theorem RuleBook.sameOutcome_weave {α : Type} [Node α] {book : RuleBook α} {shape : α → α → Prop}
    (respects : ∀ rule ∈ book.rules, rule.Respects shape) {left right : α} (same : shape left right) :
    SameOutcome Fragment.Alike (book.weave left) (book.weave right) := by
  have selected : book.select? left = book.select? right := by
    unfold select?
    refine List.find?_congr ?_
    intro rule member
    exact (respects rule member).handles same
  unfold weave
  rw [selected]
  split
  · next rule found =>
    exact (respects rule (of_select?_eq_some found).1).weave same
  · exact .ofNode left right

/-- A restricted book has no rules of its own, so what all rules respect it respects too. -/
theorem RuleBook.respects_restrictTo {α : Type} {rules : List (Rule α)} {shape : α → α → Prop}
    (respects : ∀ rule ∈ rules, rule.Respects shape) (settings : Settings) :
    ∀ rule ∈ (restrictTo { rules } settings).rules, rule.Respects shape :=
  fun rule member => respects rule (mem_restrictTo.mp member).1

/-- Under any settings, steps that differ in nothing but the texts of a user are refused for the same
    cause, or their source has as many statements with the same tokens one by one, and depends on the
    same classes and exposes the same placeholders in the same order. -/
theorem Weaver.sameOutcome_weaveStep (settings : Settings) {left right : Step}
    (same : left.SameShape right) :
    SameOutcome Fragment.Alike ((ofSettings settings).weaveStep left)
      ((ofSettings settings).weaveStep right) := by
  have actions := RuleBook.respects_restrictTo (Rule.respects_forActions settings) settings
  have assertions := RuleBook.respects_restrictTo (Rule.respects_forAssertions settings) settings
  refine (SameOutcome.mapM same.actions fun _ _ => RuleBook.sameOutcome_weave actions).bind ?_
  intro done done' doneAlike
  refine (SameOutcome.mapM same.assertions fun _ _ =>
    RuleBook.sameOutcome_weave assertions).bind ?_
  intro checked checked' checkedAlike
  exact .accepted (Fragment.Alike.concat (List.rel_append doneAlike checkedAlike))

-- On the right, every text holds a token, or half of one, or ends the literal that it stands in.
theorem Weaver.sameOutcome_weaveStep_braces :
    let left : Step :=
      { actions := [.input (.element ⟨⟨"#a", .cssSelector, 2, none⟩, [⟨"p", .cssSelector, 1, none⟩]⟩)
          (.elementAttribute ⟨⟨⟨"//q", .xpathExpression, 1, none⟩, []⟩, "title"⟩)]
        assertions := [.compare (.ofEnvironment "KEY") .equal (.literal "x")] }
    let right : Step :=
      { actions := [.input (.element ⟨⟨"\x7b\x7b", .cssSelector, 2, some "a"⟩,
            [⟨" VALUE \x7d\x7d", .cssSelector, 1, none⟩]⟩)
          (.elementAttribute ⟨⟨⟨"'\\", .xpathExpression, 1, none⟩, []⟩, "\x7b\x7b HAS \x7d\x7d"⟩)]
        assertions := [.compare (.ofEnvironment "'] \x7b\x7b ") .equal (.literal "' . '\x7b\x7b")] }
    left.SameShape right ∧
      ∃ source source', (ofSettings .standard).weaveStep left = .ok source ∧
        (ofSettings .standard).weaveStep right = .ok source' ∧ source.Alike source' := by
  intro left right
  have same : left.SameShape right := by
    refine ⟨.cons (.input (.element ⟨⟨rfl, rfl⟩, .cons ⟨rfl, rfl⟩ .nil⟩) ?_) .nil,
      .cons (.compare (.environment _ _) .equal (.literal _ _)) .nil⟩
    exact .elementAttribute ⟨⟨⟨rfl, rfl⟩, .nil⟩, by decide⟩
  obtain ⟨source, woven⟩ : ∃ source, (ofSettings .standard).weaveStep left = .ok source := ⟨_, rfl⟩
  have outcome := sameOutcome_weaveStep .standard same
  rw [woven] at outcome
  generalize (ofSettings .standard).weaveStep right = result at outcome ⊢
  cases outcome with
  | @accepted _ source' alike => exact ⟨same, source, source', woven, rfl, alike⟩

end StepWeaver
