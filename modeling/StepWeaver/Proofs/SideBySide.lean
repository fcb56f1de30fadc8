/-
Module: StepWeaver.Proofs.SideBySide
Layer: Proofs
Purpose: Two tests side by side. `SameShape` says that they differ in nothing but the texts that a user
  has written into them; `Alike` says that fragments hold the same tokens statement by statement, and
  that computations turn the same scope into the same scope. All ways of composing fragments and
  computations keep this.
Main exports: Step.SameShape, Rejection.SameCause, SameOutcome, SameOutcome.mapM, Fragment.Alike,
  Fragment.Alike.concat, Assignment.alike_of_source, Scoped.Alike, Attempt.Alike, Attempt.Alike.bind
-/
import Mathlib.Data.List.Forall2
import StepWeaver.Proofs.ExportExactness

namespace StepWeaver

open Placeholder (Symbol tokens scan)

/-!
### Tests of the same shape

A user chooses literals, the texts and names of locators, the names of attributes and parameters, and how
all this is referred to. The rest is shape: also whether an attribute is named, and which property of
browser or page is meant, because only a few of these exist.
-/

/-- Two locators in the same language that pick the same of the elements they find. -/
structure Locator.SameShape (left right : Locator) : Prop where
  kind : left.kind = right.kind
  position : left.position = right.position

/-- Two paths of the same length, with locators of the same shape. -/
structure ElementPath.SameShape (left right : ElementPath) : Prop where
  own : left.own.SameShape right.own
  ancestors : List.Forall₂ Locator.SameShape left.ancestors right.ancestors

/-- Two attributes of elements that are reached alike, both named or neither. -/
structure AttributePath.SameShape (left right : AttributePath) : Prop where
  element : left.element.SameShape right.element
  hasName : left.hasName = right.hasName

/-- Two values of the same kind. -/
inductive Value.SameShape : Value → Value → Prop
  | literal (text text' : String) : SameShape (.literal text) (.literal text')
  | element {path path' : ElementPath} (same : path.SameShape path') :
      SameShape (.element path) (.element path')
  | elementAttribute {path path' : AttributePath} (same : path.SameShape path') :
      SameShape (.elementAttribute path) (.elementAttribute path')
  | environment (ref ref' : PropertyRef) : SameShape (.environment ref) (.environment ref')
  | browser {ref ref' : PropertyRef} (same : ref.property = ref'.property) :
      SameShape (.browser ref) (.browser ref')
  | page {ref ref' : PropertyRef} (same : ref.property = ref'.property) :
      SameShape (.page ref) (.page ref')
  | dataParameter (ref ref' : PropertyRef) : SameShape (.dataParameter ref) (.dataParameter ref')
  | elementParameter (ref ref' : PropertyRef) :
      SameShape (.elementParameter ref) (.elementParameter ref')
  | pageElement (ref ref' : PropertyRef) : SameShape (.pageElement ref) (.pageElement ref')

/-- Two identifiers of the same kind. -/
inductive Identifier.SameShape : Identifier → Identifier → Prop
  | element {path path' : ElementPath} (same : path.SameShape path') :
      SameShape (.element path) (.element path')
  | elementAttribute {path path' : AttributePath} (same : path.SameShape path') :
      SameShape (.elementAttribute path) (.elementAttribute path')
  | pageElement (ref ref' : PropertyRef) : SameShape (.pageElement ref) (.pageElement ref')
  | elementParameter (ref ref' : PropertyRef) :
      SameShape (.elementParameter ref) (.elementParameter ref')

/-- Two actions that do the same to operands of the same shape. -/
inductive Action.SameShape : Action → Action → Prop
  | wait {duration duration' : Value} (same : duration.SameShape duration') :
      SameShape (.wait duration) (.wait duration')
  | navigate (kind : Navigation) : SameShape (.navigate kind) (.navigate kind)
  | interact (kind : Interaction) {identifier identifier' : Identifier}
      (same : identifier.SameShape identifier') :
      SameShape (.interact kind identifier) (.interact kind identifier')
  | input {identifier identifier' : Identifier} {value value' : Value}
      (same : identifier.SameShape identifier') (sameValue : value.SameShape value') :
      SameShape (.input identifier value) (.input identifier' value')
  | unrecognised (source source' : String) : SameShape (.unrecognised source) (.unrecognised source')

/-- Two assertions that look in the same way at operands of the same shape. -/
inductive Assertion.SameShape : Assertion → Assertion → Prop
  | examine {examined examined' : Value} (same : examined.SameShape examined')
      (comparison : Comparison) : SameShape (.examine examined comparison) (.examine examined' comparison)
  | compare {examined examined' expected expected' : Value} (same : examined.SameShape examined')
      (comparison : Comparison) (sameExpected : expected.SameShape expected') :
      SameShape (.compare examined comparison expected) (.compare examined' comparison expected')

/-- Two steps with as many actions and assertions, of the same shape one by one. -/
structure Step.SameShape (left right : Step) : Prop where
  actions : List.Forall₂ Action.SameShape left.actions right.actions
  assertions : List.Forall₂ Assertion.SameShape left.assertions right.assertions

theorem ElementPath.SameShape.isEmpty_ancestors {left right : ElementPath}
    (same : left.SameShape right) : left.ancestors.isEmpty = right.ancestors.isEmpty := by
  rw [Bool.eq_iff_iff, List.isEmpty_iff_length_eq_zero, List.isEmpty_iff_length_eq_zero,
    same.ancestors.length_eq]

theorem ElementPath.SameShape.isBare {left right : ElementPath} (same : left.SameShape right) :
    Rule.isBare left = Rule.isBare right := by
  rw [Rule.isBare, Rule.isBare, same.isEmpty_ancestors, same.own.position]

/-- Whether a value can be stored is a matter of its shape. -/
theorem Value.SameShape.isStorable {left right : Value} (same : left.SameShape right) :
    left.isStorable = right.isStorable := by
  cases same with
  | elementAttribute same => exact same.hasName
  | literal | element | environment | browser | page | dataParameter | elementParameter
  | pageElement => rfl

/-- Whether a value can be missing is a matter of its shape. -/
theorem Value.SameShape.canBeMissing {left right : Value} (same : left.SameShape right) :
    Rule.canBeMissing left = Rule.canBeMissing right := by
  cases same with
  | elementAttribute same => exact same.hasName
  | literal | element | environment | browser | page | dataParameter | elementParameter
  | pageElement => rfl

/-!
### Outcomes side by side
-/

/-- Two refusals for the same cause, which may quote different texts of the test. -/
inductive Rejection.SameCause : Rejection → Rejection → Prop
  | unhandledNode (category : Category) (node node' : String) :
      SameCause (.unhandledNode category node) (.unhandledNode category node')
  | unusableValue (value value' : String) : SameCause (.unusableValue value) (.unusableValue value')
  | unknownProperty (property value value' : String) :
      SameCause (.unknownProperty property value) (.unknownProperty property value')
  | unknownRule (name name' : String) : SameCause (.unknownRule name) (.unknownRule name')

/-- A refusal that is reported for an enclosing node keeps its cause. -/
theorem Rejection.SameCause.within {α : Type} [Node α] {left right : Rejection}
    (same : left.SameCause right) (node node' : α) :
    (left.within node).SameCause (right.within node') := by
  cases same with
  | unhandledNode category text text' => exact .unhandledNode category text text'
  | unusableValue _ _ => exact .unhandledNode _ _ _
  | unknownProperty property text text' => exact .unknownProperty property text text'
  | unknownRule name name' => exact .unknownRule name name'

/-- Both are refused for the same cause, or both are accepted with related results. -/
inductive SameOutcome {α : Type} (related : α → α → Prop) :
    Except Rejection α → Except Rejection α → Prop
  | refused {left right : Rejection} (same : left.SameCause right) :
      SameOutcome related (.error left) (.error right)
  | accepted {left right : α} (same : related left right) : SameOutcome related (.ok left) (.ok right)

namespace SameOutcome

variable {α β : Type} {related : α → α → Prop} {relatedNext : β → β → Prop}

theorem ofNode [Node β] (left right : β) :
    SameOutcome related (.error (Rejection.ofNode left)) (.error (Rejection.ofNode right)) :=
  .refused (.unhandledNode _ _ _)

/-- Outcomes are the same if those of the two halves are. -/
theorem bind {left right : Except Rejection α} {next next' : α → Except Rejection β}
    (first : SameOutcome related left right)
    (onward : ∀ a b, related a b → SameOutcome relatedNext (next a) (next' b)) :
    SameOutcome relatedNext (left >>= next) (right >>= next') := by
  cases first with
  | refused same => exact .refused same
  | accepted same => exact onward _ _ same

/-- A list is refused at the same place or accepted as a whole on both sides. -/
theorem mapM {shape : β → β → Prop} {weave : β → Except Rejection α} {left right : List β}
    (same : List.Forall₂ shape left right)
    (each : ∀ node node', shape node node' → SameOutcome related (weave node) (weave node')) :
    SameOutcome (List.Forall₂ related) (left.mapM weave) (right.mapM weave) := by
  induction same with
  | nil => exact .accepted .nil
  | cons first _ ih =>
      rw [List.mapM_cons, List.mapM_cons]
      refine (each _ _ first).bind ?_
      intro head head' heads
      refine ih.bind ?_
      intro tail tail' tails
      exact .accepted (.cons heads tails)

end SameOutcome

/-!
### Fragments side by side
-/

/-- As many statements, with the same tokens one by one, and the same demands in the same order. -/
structure Fragment.Alike (left right : Fragment) : Prop where
  scans : left.statements.map scan = right.statements.map scan
  linkage : left.linkage = right.linkage

namespace Fragment

theorem Alike.refl (fragment : Fragment) : fragment.Alike fragment := ⟨rfl, rfl⟩

theorem Alike.append {first first' second second' : Fragment} (firstAlike : first.Alike first')
    (secondAlike : second.Alike second') : (first.append second).Alike (first'.append second') := by
  constructor
  · rw [statements_append, statements_append, List.map_append, List.map_append, firstAlike.scans,
      secondAlike.scans]
  · show first.linkage.merge [second.linkage] = first'.linkage.merge [second'.linkage]
    rw [firstAlike.linkage, secondAlike.linkage]

theorem Alike.foldl {left right : List Fragment} (alike : List.Forall₂ Alike left right)
    {first first' : Fragment} (start : first.Alike first') :
    (left.foldl Fragment.append first).Alike (right.foldl Fragment.append first') := by
  induction alike generalizing first first' with
  | nil => exact start
  | cons head _ ih => exact ih (start.append head)

/-- Fragments one after the other are alike if they are one by one. -/
theorem Alike.concat {left right : List Fragment} (alike : List.Forall₂ Alike left right) :
    (concat left).Alike (concat right) :=
  Alike.foldl alike (.refl ∅)

/-- Two fragments of one statement each that hold the same tokens, whatever follows them. -/
structure ReadAlike (left right : Fragment) : Prop where
  reads : ∃ read read', left.ReadsAs read ∧ right.ReadsAs read' ∧ tokens read = tokens read'
  linkage : left.linkage = right.linkage

/-- A fragment that reads as some symbols has one statement, with their tokens. -/
theorem ReadsAs.scans {fragment : Fragment} {read : List Symbol} (readsAs : fragment.ReadsAs read) :
    fragment.statements.map scan = [tokens read] := by
  obtain ⟨text, only, reads⟩ := readsAs
  rw [only, List.map_singleton, Placeholder.scan_eq_tokens, reads.symbols_eq]

/-- Fragments that hold the same tokens before anything that follows also hold them at the end. -/
theorem ReadAlike.alike {left right : Fragment} (alike : left.ReadAlike right) : left.Alike right := by
  obtain ⟨⟨read, read', leftReads, rightReads, same⟩, linkage⟩ := alike
  exact ⟨by rw [leftReads.scans, rightReads.scans, same], linkage⟩

/-- Statements with the same tokens that expose the same placeholders. -/
theorem alike_ofStatement {left right : String} (same : scan left = scan right)
    (placeholders : List Placeholder) :
    (ofStatement left placeholders).Alike (ofStatement right placeholders) :=
  ⟨congrArg (List.cons · []) same, rfl⟩

end Fragment

/-- The same target, and alike as fragments. -/
structure Assignment.Alike (left right : Assignment) : Prop where
  target : left.target = right.target
  fragment : left.toFragment.Alike right.toFragment

namespace Assignment

/-- The tokens of statements of which the last one is stored. -/
def storedScans (target : Placeholder) (scans : List (List String)) : List (List String) :=
  match scans.getLast? with
  | none => []
  | some last => scans.dropLast ++ [target.token :: last]

/-- Storing a fragment puts the token of the target before its last statement. -/
theorem scans_sourceStatements {target : Placeholder} (legible : target.Legible) (source : Fragment) :
    (ofFragment target source).sourceStatements.map scan =
      storedScans target (source.statements.map scan) := by
  have final : (ofFragment target source).source.final? = source.statements.getLast? := rfl
  have setup : (ofFragment target source).source.statements = source.statements := rfl
  rw [sourceStatements, storedScans, final, setup, List.getLast?_map]
  cases source.statements.getLast? with
  | none => rfl
  | some value =>
      show List.map scan (source.statements.dropLast ++ [target.token ++ " = " ++ value]) = _
      rw [List.map_append, List.map_singleton, scan_line legible, List.map_dropLast]
      rfl

/-- What is stored in one placeholder is alike if the sources are and everything that runs first is. -/
theorem alike_of_source {target : Placeholder} (legible : target.Legible) {source source' : Fragment}
    (alike : source.Alike source') {predecessors predecessors' : List Fragment}
    (preceding : List.Forall₂ Fragment.Alike predecessors predecessors') :
    ((ofFragment target source).precededBy predecessors).Alike
      ((ofFragment target source').precededBy predecessors') := by
  have before := (Fragment.Alike.concat preceding).scans
  rw [Fragment.statements_concat, Fragment.statements_concat] at before
  have demands : predecessors.map Fragment.linkage = predecessors'.map Fragment.linkage := by
    rw [← List.forall₂_eq_eq_eq, List.forall₂_map_left_iff, List.forall₂_map_right_iff]
    exact preceding.imp fun _ _ alike => alike.linkage
  refine ⟨rfl, ?_, ?_⟩
  · show List.map scan (predecessors.flatMap _ ++ (ofFragment target source).sourceStatements) =
      List.map scan (predecessors'.flatMap _ ++ (ofFragment target source').sourceStatements)
    rw [List.map_append, List.map_append, before, scans_sourceStatements legible,
      scans_sourceStatements legible, alike.scans]
  · show (source.linkage.addExports [target]).merge (predecessors.map Fragment.linkage) =
      (source'.linkage.addExports [target]).merge (predecessors'.map Fragment.linkage)
    rw [alike.linkage, demands]

/-- Fragments that are alike are stored alike in one target. -/
theorem alike_ofFragment {target : Placeholder} (legible : target.Legible) {source source' : Fragment}
    (alike : source.Alike source') : (ofFragment target source).Alike (ofFragment target source') :=
  alike_of_source legible alike .nil

end Assignment

/-!
### Computations side by side

Both computations start in the same scope. What they allocate does not depend on texts, so both leave the
same scope behind, and what one allocates next is what the other one does.
-/

/-- From every scope, related results and the same scope afterwards. -/
def Scoped.Alike {α : Type} (related : α → α → Prop) (left right : Scoped α) : Prop :=
  ∀ scope, related (left.runIn scope).1 (right.runIn scope).1 ∧
    (left.runIn scope).2 = (right.runIn scope).2

/-- From every scope, the same outcome and the same scope afterwards. -/
def Attempt.Alike {α : Type} (related : α → α → Prop) (left right : Attempt α) : Prop :=
  ∀ scope, SameOutcome related (left.runIn scope).1 (right.runIn scope).1 ∧
    (left.runIn scope).2 = (right.runIn scope).2

section Computations

variable {α β : Type} {related : α → α → Prop} {relatedNext : β → β → Prop}

namespace Scoped

theorem Alike.pure {a b : α} (same : related a b) :
    Alike related (Pure.pure a) (Pure.pure b) :=
  fun _ => ⟨same, rfl⟩

/-- Computations in a scope are alike if their halves are, for the scope between them is the same. -/
theorem Alike.bind {left right : Scoped α} {next next' : α → Scoped β}
    (first : Alike related left right)
    (onward : ∀ a b, related a b → Alike relatedNext (next a) (next' b)) :
    Alike relatedNext (left >>= next) (right >>= next') := by
  intro scope
  obtain ⟨same, left⟩ := first scope
  rw [runIn_bind, runIn_bind, left]
  exact onward _ _ same _

theorem Alike.refl (computation : Scoped α) : Alike Eq computation computation :=
  fun _ => ⟨rfl, rfl⟩

/-- Both computations are given the same fresh placeholder. -/
theorem alike_fresh (role : Role) :
    Alike (fun left right => left = right ∧ left.Legible) (fresh role) (fresh role) :=
  fun scope => ⟨⟨rfl, Binding.legible_fresh scope role⟩, rfl⟩

/-- Both computations are given the placeholder that everybody shares. -/
theorem alike_create (role : Role) :
    Alike (fun left right => left = right ∧ left = role.placeholder) (create role) (create role) :=
  fun _ => ⟨⟨rfl, rfl⟩, rfl⟩

/-- Computations that are alike in every scope are so in the empty one. -/
theorem Alike.alone {left right : Scoped α} (alike : Alike related left right) :
    related left.alone right.alone :=
  (alike ∅).1

end Scoped

namespace Attempt

theorem Alike.pure {a b : α} (same : related a b) :
    Alike related (Pure.pure a : Attempt α) (Pure.pure b) :=
  fun _ => ⟨.accepted same, rfl⟩

theorem Alike.throw {left right : Rejection} (same : left.SameCause right) :
    Alike related (MonadExcept.throw left : Attempt α) (MonadExcept.throw right) :=
  fun _ => ⟨.refused same, rfl⟩

theorem Alike.lift {left right : Scoped α} (alike : Scoped.Alike related left right) :
    Alike related (liftM left : Attempt α) (liftM right) := by
  intro scope
  rw [runIn_lift, runIn_lift]
  exact ⟨.accepted (alike scope).1, (alike scope).2⟩

/-- Attempts are alike if their halves are; a refusal in the first half is one of the whole. -/
theorem Alike.bind {left right : Attempt α} {next next' : α → Attempt β}
    (first : Alike related left right)
    (onward : ∀ a b, related a b → Alike relatedNext (next a) (next' b)) :
    Alike relatedNext (left >>= next) (right >>= next') := by
  intro scope
  have both := first scope
  rw [runIn_bind, runIn_bind]
  generalize left.runIn scope = one at both ⊢
  generalize right.runIn scope = two at both ⊢
  obtain ⟨outcome, after⟩ := one
  obtain ⟨outcome', after'⟩ := two
  obtain ⟨same, rfl⟩ := both
  cases same with
  | refused cause => exact ⟨.refused cause, rfl⟩
  | accepted same => exact onward _ _ same after

/-- What is made of related results in the same way is related. -/
theorem Alike.map {left right : Attempt α} (alike : Alike related left right) {f : α → β}
    (onward : ∀ a b, related a b → relatedNext (f a) (f b)) :
    Alike relatedNext (f <$> left) (f <$> right) := by
  rw [← bind_pure_comp, ← bind_pure_comp]
  exact alike.bind fun a b same => .pure (onward a b same)

/-- The outcome of a node is the same for alike attempts in a scope of its own. -/
theorem Alike.within_alone {left right : Attempt α} (alike : Alike related left right) [Node β]
    (node node' : β) :
    SameOutcome related (left.within node).alone (right.within node').alone := by
  rw [alone, alone, runIn_within, runIn_within]
  have same := (alike ∅).1
  generalize (left.runIn ∅).1 = one at same ⊢
  generalize (right.runIn ∅).1 = two at same ⊢
  cases same with
  | refused cause => exact .refused (cause.within node node')
  | accepted same => exact .accepted same

end Attempt

end Computations

end StepWeaver
