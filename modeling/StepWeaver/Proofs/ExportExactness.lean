/-
Module: StepWeaver.Proofs.ExportExactness
Layer: Proofs
Purpose: Woven source exposes exactly the placeholders that its statements mention. Each way of
  composing fragments keeps this, and so does each call and each binding, whatever text a user put
  into literals; from that it follows for every rule and for whole steps.
Main exports: Fragment.mentioned, Fragment.exposed, Fragment.IsExact, Fragment.IsExact.concat,
  Assignment.isExact_toFragment, Settings.Inert, Weaver.Yields, Weaver.mentioned_eq_exposed
-/
import Mathlib.Data.Set.Insert
import StepWeaver.Proofs.CallText
import StepWeaver.Proofs.Composition
import StepWeaver.Proofs.Inversion

namespace StepWeaver

open Placeholder (IsPlain Symbol Inert plain symbols tokens isPlain_of_not_mem reads_token)

namespace Fragment

/-- The tokens that a scan finds in the statements. -/
def mentioned (fragment : Fragment) : Set String :=
  { token | ∃ statement ∈ fragment.statements, token ∈ Placeholder.scan statement }

/-- The tokens of the placeholders that the fragment exposes. -/
def exposed (fragment : Fragment) : Set String :=
  { token | ∃ placeholder ∈ fragment.exports, placeholder.token = token }

/-- The fragment exposes what its statements mention, and nothing else. -/
def IsExact (fragment : Fragment) : Prop := fragment.mentioned = fragment.exposed

/-- What a scan finds are the tokens among the symbols of the statements. -/
theorem mem_mentioned {fragment : Fragment} {token : String} :
    token ∈ fragment.mentioned ↔
      ∃ statement ∈ fragment.statements, token ∈ tokens (symbols statement.toList) := by
  simp only [← Placeholder.scan_eq_tokens]
  exact Iff.rfl

theorem mem_exposed {fragment : Fragment} {token : String} :
    token ∈ fragment.exposed ↔ ∃ placeholder ∈ fragment.exports, placeholder.token = token :=
  Iff.rfl

/-- Exactness is checked token by token. -/
theorem isExact_iff {fragment : Fragment} :
    fragment.IsExact ↔ ∀ token, token ∈ fragment.mentioned ↔ token ∈ fragment.exposed :=
  Set.ext_iff

/-- A fragment of one statement mentions the tokens that it is read as. -/
theorem ReadsAs.mem_mentioned {fragment : Fragment} {read : List Symbol}
    (readsAs : fragment.ReadsAs read) {token : String} :
    token ∈ fragment.mentioned ↔ token ∈ tokens read := by
  obtain ⟨text, only, reads⟩ := readsAs
  rw [Fragment.mem_mentioned, only]
  simp only [List.mem_singleton, exists_eq_left]
  rw [reads.symbols_eq]

end Fragment

/-!
### Composition
-/

namespace Fragment

/-- Fragments that are exact are exact one after the other. -/
theorem IsExact.concat {fragments : List Fragment} (exact : ∀ fragment ∈ fragments, fragment.IsExact) :
    (concat fragments).IsExact := by
  rw [isExact_iff]
  intro token
  rw [Fragment.mem_mentioned, statements_concat]
  constructor
  · rintro ⟨statement, member, found⟩
    obtain ⟨fragment, listed, within⟩ := List.mem_flatMap.mp member
    have here : token ∈ fragment.mentioned := Fragment.mem_mentioned.mpr ⟨statement, within, found⟩
    rw [exact fragment listed] at here
    obtain ⟨placeholder, exported, named⟩ := here
    exact ⟨placeholder, mem_exports_concat.mpr ⟨fragment, listed, exported⟩, named⟩
  · rintro ⟨placeholder, exported, named⟩
    obtain ⟨fragment, listed, here⟩ := mem_exports_concat.mp exported
    have shown : token ∈ fragment.exposed := ⟨placeholder, here, named⟩
    rw [← exact fragment listed] at shown
    obtain ⟨statement, within, found⟩ := Fragment.mem_mentioned.mp shown
    exact ⟨statement, List.mem_flatMap.mpr ⟨fragment, listed, within⟩, found⟩

/-- Two exact fragments are exact one after the other. -/
theorem IsExact.pair {first second : Fragment} (firstExact : first.IsExact)
    (secondExact : second.IsExact) : (Fragment.concat [first, second]).IsExact := by
  apply IsExact.concat
  intro fragment member
  simp only [List.mem_cons, List.not_mem_nil, or_false] at member
  rcases member with rfl | rfl
  · exact firstExact
  · exact secondExact

/-- So are three. -/
theorem IsExact.triple {first second third : Fragment} (firstExact : first.IsExact)
    (secondExact : second.IsExact) (thirdExact : third.IsExact) :
    (Fragment.concat [first, second, third]).IsExact := by
  apply IsExact.concat
  intro fragment member
  simp only [List.mem_cons, List.not_mem_nil, or_false] at member
  rcases member with rfl | rfl | rfl
  · exact firstExact
  · exact secondExact
  · exact thirdExact

/-- One statement is exact if the placeholders it exposes are the tokens among its symbols. -/
theorem isExact_ofStatement {text : String} {placeholders : List Placeholder} {read : List Symbol}
    (reading : symbols text.toList = read)
    (same : tokens read = placeholders.map Placeholder.token) :
    (ofStatement text placeholders).IsExact := by
  rw [isExact_iff]
  intro token
  have mentions : token ∈ (ofStatement text placeholders).mentioned ↔ token ∈ tokens read := by
    rw [Fragment.mem_mentioned, ← reading]
    simp [ofStatement]
  have exposes : token ∈ (ofStatement text placeholders).exposed ↔
      token ∈ placeholders.map Placeholder.token := by
    rw [mem_exposed, List.mem_map]
    simp only [ofStatement, exports, Linkage.mem_exports_ofExports]
  rw [mentions, exposes, same]

end Fragment

namespace Assignment

/-- An assignment mentions its target, what its source mentions, and what runs before it mentions. -/
theorem mem_mentioned_toFragment {target : Placeholder} {source : Fragment} (legible : target.Legible)
    (nonempty : source.statements ≠ []) (predecessors : List Fragment) (token : String) :
    token ∈ ((ofFragment target source).precededBy predecessors).toFragment.mentioned ↔
      token = target.token ∨ token ∈ source.mentioned ∨
        ∃ fragment ∈ predecessors, token ∈ fragment.mentioned := by
  obtain ⟨setup, last, split⟩ : ∃ setup last, source.statements = setup ++ [last] :=
    ⟨_, _, (List.dropLast_append_getLast nonempty).symm⟩
  have line : token ∈ tokens (symbols (target.token ++ " = " ++ last).toList) ↔
      token = target.token ∨ token ∈ tokens (symbols last.toList) := by
    rw [symbols_line legible]
    simp
  simp only [Fragment.mem_mentioned, statements_toFragment predecessors split, split,
    List.mem_append, List.mem_flatMap, List.mem_singleton]
  constructor
  · rintro ⟨statement, ⟨fragment, listed, within⟩ | inSetup | rfl, found⟩
    · exact Or.inr (Or.inr ⟨fragment, listed, statement, within, found⟩)
    · exact Or.inr (Or.inl ⟨statement, Or.inl inSetup, found⟩)
    · rcases line.mp found with rfl | inLast
      · exact Or.inl rfl
      · exact Or.inr (Or.inl ⟨last, Or.inr rfl, inLast⟩)
  · rintro (rfl | ⟨statement, inSetup | rfl, found⟩ | ⟨fragment, listed, statement, within, found⟩)
    · exact ⟨_, Or.inr (Or.inr rfl), line.mpr (Or.inl rfl)⟩
    · exact ⟨statement, Or.inr (Or.inl inSetup), found⟩
    · exact ⟨_, Or.inr (Or.inr rfl), line.mpr (Or.inr found)⟩
    · exact ⟨statement, Or.inl ⟨fragment, listed, within⟩, found⟩

/-- An assignment exposes its target, what its source exposes, and what runs before it exposes. -/
theorem mem_exposed_toFragment {target : Placeholder} {source : Fragment}
    (predecessors : List Fragment) (token : String) :
    token ∈ ((ofFragment target source).precededBy predecessors).toFragment.exposed ↔
      token = target.token ∨ token ∈ source.exposed ∨
        ∃ fragment ∈ predecessors, token ∈ fragment.exposed := by
  simp only [Fragment.mem_exposed, mem_exports_toFragment]
  constructor
  · rintro ⟨placeholder, rfl | inSource | ⟨fragment, listed, exported⟩, rfl⟩
    · exact Or.inl rfl
    · exact Or.inr (Or.inl ⟨placeholder, inSource, rfl⟩)
    · exact Or.inr (Or.inr ⟨fragment, listed, placeholder, exported, rfl⟩)
  · rintro (rfl | ⟨placeholder, inSource, rfl⟩ | ⟨fragment, listed, placeholder, exported, rfl⟩)
    · exact ⟨target, Or.inl rfl, rfl⟩
    · exact ⟨placeholder, Or.inr (Or.inl inSource), rfl⟩
    · exact ⟨placeholder, Or.inr (Or.inr ⟨fragment, listed, exported⟩), rfl⟩

/-- Storing the value of a fragment is exact if the fragment is, but for the target, and if everything
    that runs first is. -/
theorem isExact_toFragment {target : Placeholder} {source : Fragment} {predecessors : List Fragment}
    (legible : target.Legible) (nonempty : source.statements ≠ [])
    (upToTarget : ∀ token, token ≠ target.token →
      (token ∈ source.mentioned ↔ token ∈ source.exposed))
    (exact : ∀ fragment ∈ predecessors, fragment.IsExact) :
    ((ofFragment target source).precededBy predecessors).toFragment.IsExact := by
  rw [Fragment.isExact_iff]
  intro token
  have preceding : (∃ fragment ∈ predecessors, token ∈ fragment.mentioned) ↔
      ∃ fragment ∈ predecessors, token ∈ fragment.exposed := by
    constructor
    · rintro ⟨fragment, listed, found⟩
      exact ⟨fragment, listed, exact fragment listed ▸ found⟩
    · rintro ⟨fragment, listed, found⟩
      exact ⟨fragment, listed, (exact fragment listed).symm ▸ found⟩
  rw [mem_mentioned_toFragment legible nonempty, mem_exposed_toFragment, preceding]
  by_cases isTarget : token = target.token
  · simp only [isTarget, true_or]
  · rw [upToTarget token isTarget]

/-- Storing the value of an exact fragment is exact if everything that runs first is. -/
theorem isExact_of_isExact {target : Placeholder} {source : Fragment} {predecessors : List Fragment}
    (legible : target.Legible) (nonempty : source.statements ≠ []) (sourceExact : source.IsExact)
    (exact : ∀ fragment ∈ predecessors, fragment.IsExact) :
    ((ofFragment target source).precededBy predecessors).toFragment.IsExact := by
  refine isExact_toFragment legible nonempty ?_ exact
  intro token _
  exact Fragment.isExact_iff.mp sourceExact token

/-- The same with nothing that runs first. -/
theorem isExact_ofFragment {target : Placeholder} {source : Fragment} (legible : target.Legible)
    (nonempty : source.statements ≠ []) (sourceExact : source.IsExact) :
    (ofFragment target source).toFragment.IsExact := by
  have nothing : ∀ fragment ∈ ([] : List Fragment), fragment.IsExact := by
    intro fragment member
    exact absurd member List.not_mem_nil
  exact isExact_of_isExact legible nonempty sourceExact nothing

end Assignment

/-!
### Calls and bindings
-/

namespace Call

/-- Source without tokens is exact if it exposes nothing. -/
theorem isExact_of_plain {fragment : Fragment} {text : String} (readsAs : fragment.ReadsAs (plain text))
    (none : ∀ placeholder, placeholder ∉ fragment.exports) : fragment.IsExact := by
  rw [Fragment.isExact_iff]
  intro token
  rw [readsAs.mem_mentioned, Placeholder.tokens_plain]
  constructor
  · intro found
    exact absurd found List.not_mem_nil
  · rintro ⟨placeholder, exported, _⟩
    exact absurd exported (none placeholder)

theorem isExact_locate (path : ElementPath) : (locate path).IsExact :=
  isExact_of_plain (readsAs_locate path) Pool.not_mem_empty

theorem isExact_locateLineage (path : ElementPath) : (locateLineage path).IsExact :=
  isExact_of_plain (readsAs_locateLineage path) Pool.not_mem_empty

/-- Of the arguments of a lookup only the stored locator is a placeholder. -/
theorem mem_exports_locateStored {stored : Placeholder} {path : ElementPath}
    {placeholder : Placeholder} :
    placeholder ∈ (locateStored stored path).exports ↔ placeholder = stored := by
  unfold locateStored
  dsimp only [Fragment.exports]
  split
  · rw [Linkage.mem_exports_ofExports, List.mem_singleton]
  · rw [Linkage.mem_exports_merge, Linkage.mem_exports_ofExports, List.mem_singleton]
    simp [locatorClasses, Linkage.ofDependencies]

/-- The arguments of a lookup mention the stored locator, and expose it. -/
theorem isExact_locateStored {stored : Placeholder} (legible : stored.Legible) (path : ElementPath) :
    (locateStored stored path).IsExact := by
  rw [Fragment.isExact_iff]
  intro token
  rw [(readsAs_locateStored legible path).mem_mentioned, Fragment.mem_exposed]
  simp [mem_exports_locateStored, eq_comm]

/-- Calling a method of a shared object on an exact fragment is exact. -/
theorem isExact_call {object : Placeholder} {method : String} {arguments call : Fragment}
    {read : List Symbol} (exact : arguments.IsExact) (argumentsRead : arguments.ReadsAs read)
    (callRead : call.ReadsAs (callRead object.token method read))
    (exports : ∀ placeholder, placeholder ∈ call.exports ↔
      placeholder ∈ arguments.exports ∨ placeholder = object) : call.IsExact := by
  rw [Fragment.isExact_iff] at exact ⊢
  intro token
  have inArguments : token ∈ tokens read ↔ token ∈ arguments.exposed := by
    rw [← argumentsRead.mem_mentioned, exact]
  rw [callRead.mem_mentioned, Fragment.mem_exposed]
  simp only [tokens_callRead, List.mem_cons, inArguments, exports]
  constructor
  · rintro (rfl | ⟨placeholder, exported, rfl⟩)
    · exact ⟨object, Or.inr rfl, rfl⟩
    · exact ⟨placeholder, Or.inl exported, rfl⟩
  · rintro ⟨placeholder, exported | rfl, rfl⟩
    · exact Or.inr ⟨placeholder, exported, rfl⟩
    · exact Or.inl rfl

/-- Text around a fragment adds what it mentions itself. -/
theorem mem_exports_wrap {fragment : Fragment} {template : String → String}
    {placeholders : List Placeholder} {placeholder : Placeholder} :
    placeholder ∈ (fragment.wrap template (Linkage.ofExports placeholders)).exports ↔
      placeholder ∈ fragment.exports ∨ placeholder ∈ placeholders := by
  rw [Fragment.wrap, Fragment.exports, Linkage.mem_exports_merge]
  simp only [List.mem_singleton, exists_eq_left, Linkage.mem_exports_ofExports]

/-- Asking the navigator keeps the arguments exact. -/
theorem isExact_navigate (lookup : Lookup) {arguments : Fragment} {read : List Symbol}
    (exact : arguments.IsExact) (readsAs : arguments.ReadsAs read) (scope : Pool) :
    ((navigate lookup arguments).runIn scope).1.IsExact := by
  refine isExact_call exact readsAs (readsAs_navigate lookup readsAs scope) ?_
  intro placeholder
  exact mem_exports_wrap.trans (or_congr_right List.mem_singleton)

/-- Checking an expression keeps it exact. -/
theorem isExact_checkExpression (check : Check) {expression : Fragment} {read : List Symbol}
    (exact : expression.IsExact) (readsAs : expression.ReadsAs read) (scope : Pool) :
    ((checkExpression check expression).runIn scope).1.IsExact := by
  refine isExact_call exact readsAs (readsAs_checkExpression check readsAs scope) ?_
  intro placeholder
  exact mem_exports_wrap.trans (or_congr_right List.mem_singleton)

/-- Checking what an assignment stores keeps the assignment exact. -/
theorem isExact_checkStored (check : Check) {assignment : Assignment}
    (exact : assignment.toFragment.IsExact) (legible : assignment.target.Legible) (scope : Pool) :
    ((checkStored check assignment).runIn scope).1.IsExact := by
  apply Fragment.IsExact.pair
  · exact exact
  · refine Fragment.isExact_ofStatement (reads_check check (reads_token legible)).symbols_eq ?_
    rw [tokens_callRead]
    rfl

theorem isExact_readField {collection : Placeholder} (legible : collection.Legible) (scope : Pool) :
    ((readField collection).runIn scope).1.IsExact := by
  obtain ⟨text, only, reads⟩ := readsAs_readField legible scope
  obtain rfl := List.singleton_inj.mp only
  exact Fragment.isExact_ofStatement reads.symbols_eq (tokens_callRead _ _ _)

end Call

namespace Binding

/-- The role decides that a placeholder which a scope has just allocated is legible. -/
theorem legible_fresh (scope : Pool) (role : Role) : (scope.fresh role.name).1.Legible :=
  Placeholder.PlaysRole.legible ⟨role, Pool.fresh_name scope role.name⟩

/-- Storing what a path leads to is exact, since each of its four lines is. -/
theorem isExact_lookup (path : ElementPath) {target : Placeholder} (legible : target.Legible)
    (probe query : Lookup) (scope : Pool) :
    ((lookup path target probe query).runIn scope).1.toFragment.IsExact := by
  have locatorLegible := legible_fresh scope .elementLocator
  have presenceLegible := legible_fresh (scope.fresh Role.elementLocator.name).2 .presence
  -- What a call is does not depend on the scope in which it is built.
  have navigated (lookup : Lookup) := Call.isExact_navigate lookup
    (Call.isExact_locateStored locatorLegible path) (Call.readsAs_locateStored locatorLegible path) scope
  refine Assignment.isExact_of_isExact legible (List.cons_ne_nil _ _) (navigated query) ?_
  intro fragment member
  simp only [List.mem_cons, List.not_mem_nil, or_false] at member
  rcases member with rfl | rfl
  · exact Assignment.isExact_ofFragment locatorLegible (List.cons_ne_nil _ _)
      (Call.isExact_locate path)
  · have probed := Assignment.isExact_ofFragment presenceLegible (List.cons_ne_nil _ _)
      (navigated probe)
    exact Call.isExact_checkStored .isTrue probed presenceLegible scope

/-- Storing the value of a form field is exact. -/
theorem isExact_fieldValue (path : ElementPath) {target : Placeholder} (legible : target.Legible)
    (scope : Pool) : ((fieldValue path target).runIn scope).1.toFragment.IsExact := by
  have elementsLegible := legible_fresh scope .collection
  refine Assignment.isExact_of_isExact legible (List.cons_ne_nil _ _)
    (Call.isExact_readField elementsLegible scope) ?_
  intro fragment member
  obtain rfl := List.mem_singleton.mp member
  exact isExact_lookup path elementsLegible .has .find _

/-- Storing the value of an attribute is exact, whatever its name is. -/
theorem isExact_attributeValue (path : AttributePath) {target : Placeholder}
    (legible : target.Legible) (scope : Pool) :
    ((attributeValue path target).runIn scope).1.toFragment.IsExact := by
  have ownerLegible := legible_fresh scope .element
  have access := (reads_token ownerLegible).append (isPlain_attributeCall path.name)
  refine Assignment.isExact_of_isExact legible (List.cons_ne_nil _ _) ?_ ?_
  · refine Fragment.isExact_ofStatement access.symbols_eq ?_
    rw [Placeholder.tokens_append, Placeholder.tokens_plain]
    rfl
  · intro fragment member
    obtain rfl := List.mem_singleton.mp member
    exact isExact_lookup path.element ownerLegible .hasOne .findOne _

end Binding

/-!
### Values
-/

namespace Rule

/-- Client and size are all that the size of the window mentions. -/
theorem isExact_windowSize : windowSize.IsExact := by
  rw [Fragment.isExact_iff]
  intro token
  have line := Assignment.symbols_line (Call.legible_role .windowSize)
    (Role.client.placeholder.token ++ windowCall)
  rw [reads_windowCall.symbols_eq, ← String.append_assoc] at line
  rw [Fragment.mem_mentioned, Fragment.mem_exposed, statements_windowSize]
  simp only [List.mem_cons, List.not_mem_nil, or_false, exists_eq_left, line,
    reads_windowText.symbols_eq, windowSize, Fragment.exports, Linkage.mem_exports_ofExports,
    Placeholder.tokens_append, Placeholder.tokens_cons_token, Placeholder.tokens_plain,
    List.cons_append, List.nil_append, or_and_right, exists_or]
  grind

theorem isExact_clientCall {method : String} (isPlain : IsPlain method) :
    (clientCall method).IsExact := by
  refine Fragment.isExact_ofStatement
    (Call.reads_methodCall (Call.legible_role .client) isPlain).symbols_eq ?_
  rw [Placeholder.tokens_cons_token, Placeholder.tokens_plain]
  rfl

end Rule

/-- Source for a scalar value is exact if it finishes what the environment gives in an exact way. -/
theorem Value.Source.isExact {finish : String → String} {value : Value} {fragment : Fragment}
    (source : Value.Source finish value fragment)
    (finished : ∀ ref, Value.Source finish (.environment ref) fragment → fragment.IsExact) :
    fragment.IsExact ∧ fragment.statements ≠ [] := by
  cases source with
  | literal text =>
      refine ⟨?_, List.cons_ne_nil _ _⟩
      exact Fragment.isExact_ofStatement (Placeholder.isPlain_literal text).symbols_eq
        (Placeholder.tokens_plain _)
  | environment ref => exact ⟨finished ref (.environment ref), List.cons_ne_nil _ _⟩
  | windowSize size => exact ⟨Rule.isExact_windowSize, List.cons_ne_nil _ _⟩
  | title title =>
      exact ⟨Rule.isExact_clientCall (isPlain_of_not_mem (by decide)), List.cons_ne_nil _ _⟩
  | address url =>
      exact ⟨Rule.isExact_clientCall (isPlain_of_not_mem (by decide)), List.cons_ne_nil _ _⟩

/-- The source that gives a scalar value is exact if its fallback holds no opening mark. -/
theorem Value.isExact_access? {value : Value} {fallback : String} {access : Fragment}
    (inert : Inert fallback) (found : value.access? fallback = some access) :
    access.IsExact ∧ access.statements ≠ [] := by
  apply (Value.source_of_access? found).isExact
  intro ref source
  cases source with
  | environment ref =>
      exact Fragment.isExact_ofStatement (symbols_fallback (reads_parameter ref.property) inert)
        (by simp)

/-- Storing a value of any kind is exact. -/
theorem Value.isExact_storing? {value : Value} {target : Placeholder} {fallback : String}
    {computation : Scoped Assignment} (legible : target.Legible) (inert : Inert fallback)
    (found : value.storing? target fallback = some computation) (scope : Pool) :
    (computation.runIn scope).1.toFragment.IsExact := by
  obtain ⟨path, _, rfl⟩ | ⟨path, _, _, rfl⟩ | ⟨access, accessed, rfl⟩ := storing?_cases found
  · exact Binding.isExact_fieldValue path legible scope
  · exact Binding.isExact_attributeValue path legible scope
  · obtain ⟨exact, nonempty⟩ := isExact_access? inert accessed
    exact Assignment.isExact_ofFragment legible nonempty exact

/-- A cast mentions only its target, which has been exposed before. -/
theorem Binder.isExact_castTo {cast : String} {target : Placeholder} {stored : Assignment}
    (inert : Inert cast) (legible : target.Legible) (exact : stored.toFragment.IsExact) :
    (castTo cast target stored).toFragment.IsExact := by
  refine Assignment.isExact_toFragment legible (List.cons_ne_nil _ _) ?_ ?_
  · -- The cast exposes nothing and mentions the target alone.
    intro token other
    have readsAs : (Fragment.ofStatement ("(" ++ cast ++ ") " ++ target.token)).ReadsAs _ :=
      ⟨_, rfl, reads_cast inert legible⟩
    rw [readsAs.mem_mentioned]
    simp [other, Fragment.mem_exposed, Fragment.ofStatement, Fragment.exports,
      Linkage.mem_exports_ofExports]
  · intro fragment member
    obtain rfl := List.mem_singleton.mp member
    exact exact

/-!
### Settings
-/

/-- None of the texts that settings choose holds an opening mark. -/
structure Settings.Inert (settings : Settings) : Prop where
  valueCast : Placeholder.Inert settings.valueCast
  absentDefault : Placeholder.Inert settings.absentDefault
  durationCast : Placeholder.Inert settings.durationCast

namespace Settings

theorem inert_standard : standard.Inert :=
  ⟨by decide, by decide, by decide⟩

/-- Switching rules off one after the other leaves the chosen texts alone. -/
theorem Inert.foldlM {start settings : Settings} (inert : start.Inert) {names : List String}
    (done : names.foldlM (fun settings name =>
        match RuleName.ofName? name with
        | some rule => Except.ok (settings.disable rule)
        | none => Except.error (Rejection.unknownRule name)) start = .ok settings) :
    settings.Inert := by
  induction names generalizing start with
  | nil =>
      cases done
      exact inert
  | cons name names ih =>
      rw [List.foldlM_cons] at done
      cases found : RuleName.ofName? name with
      | some rule =>
          rw [found] at done
          have disabled : (start.disable rule).Inert :=
            ⟨inert.valueCast, inert.absentDefault, inert.durationCast⟩
          exact ih disabled done
      | none =>
          rw [found] at done
          cases done

/-- A skip list changes which rules are switched on and nothing else. -/
theorem inert_ofSkipList {names : List String} {settings : Settings}
    (done : ofSkipList names = .ok settings) : settings.Inert :=
  inert_standard.foldlM done

end Settings

/-!
### Nodes
-/

theorem Rule.isExact_crawl {call : String} (isPlain : IsPlain call) : (crawl call).IsExact :=
  Fragment.isExact_ofStatement (reads_crawl isPlain).symbols_eq (by simp)

theorem isPlain_navigation (kind : Navigation) : IsPlain (kind.name ++ "()") := by
  cases kind <;> exact isPlain_of_not_mem (by decide)

theorem isPlain_interaction (kind : Interaction) : IsPlain kind.name := by
  cases kind <;> exact isPlain_of_not_mem (by decide)

/-- The locator that is waited for stands in a literal. -/
theorem isPlain_waitFor (text : String) : IsPlain ("waitFor(" ++ Text.Quoted.literal text ++ ")") := by
  have method : IsPlain "waitFor(" := isPlain_of_not_mem (by decide)
  exact (method.append (Placeholder.isPlain_literal text)).append isPlain_bracket

theorem isPlain_comparisonMethod {comparison : Comparison} {method : String}
    (asked : Rule.comparisonMethod? comparison = some method) : IsPlain method := by
  cases comparison <;> cases asked <;> exact isPlain_of_not_mem (by decide)

/-- The source of an action is exact. -/
theorem Action.Source.isExact {settings : Settings} {action : Action} {fragment : Fragment}
    (inert : settings.Inert) (source : Action.Source settings action fragment) :
    fragment.IsExact := by
  cases source with
  | wait found =>
      have legible := Call.legible_role .duration
      have exact := Value.isExact_storing? legible (by decide) found (Pool.ofNames [Role.duration.name])
      apply Fragment.IsExact.pair
      · exact Binder.isExact_castTo inert.durationCast legible exact
      · exact Fragment.isExact_ofStatement (reads_sleep legible).symbols_eq (by simp)
  | navigate kind => exact Rule.isExact_crawl (isPlain_navigation kind)
  | @act kind path _ =>
      have legible := Call.legible_role .element
      apply Fragment.IsExact.pair
      · exact Binding.isExact_lookup path legible .hasOne .findOne _
      · exact Fragment.isExact_ofStatement
          (Call.reads_methodCall legible (isPlain_interaction kind)).symbols_eq (by simp)
  | waitFor path => exact Rule.isExact_crawl (isPlain_waitFor path.own.text)
  | @input path _ _ fields between found lookedUp =>
      have fieldsLegible := Call.legible_role .collection
      have valueLegible := Call.legible_role .value
      have exact := Value.isExact_storing? valueLegible inert.absentDefault found between
      apply Fragment.IsExact.triple
      · have looked := Binding.isExact_lookup path fieldsLegible .has .find
          (Pool.ofNames [Role.collection.name, Role.value.name])
        obtain rfl := congrArg Prod.fst lookedUp
        exact looked
      · exact Binder.isExact_castTo inert.valueCast valueLegible exact
      · exact Fragment.isExact_ofStatement
          (Call.reads_fillField fieldsLegible valueLegible).symbols_eq
          (Call.tokens_callRead _ _ _)

/-- The source of an assertion is exact. -/
theorem Assertion.Source.isExact {settings : Settings} {assertion : Assertion} {fragment : Fragment}
    (inert : settings.Inert) (source : Assertion.Source settings assertion fragment) :
    fragment.IsExact := by
  cases source with
  | elementPresence path asked =>
      have arguments := Call.readsAs_locateLineage path
      have found := Call.isExact_navigate .has (Call.isExact_locateLineage path) arguments ∅
      exact Call.isExact_checkExpression _ found (Call.readsAs_navigate .has arguments ∅) ∅
  | presence asked noElement found =>
      have legible := Call.legible_role .examinedValue
      have exact := Value.isExact_storing? legible inert.absentDefault found
        (Pool.ofNames [Role.examinedValue.name])
      refine Call.isExact_checkStored _ exact ?_ ∅
      rw [Value.target_storing? found]
      exact legible
  | @compare _ _ _ _ _ _ stored between asked foundExamined foundExpected ran =>
      have examinedLegible := Call.legible_role .examinedValue
      have expectedLegible := Call.legible_role .expectedValue
      have examined := Value.isExact_storing? examinedLegible inert.absentDefault foundExamined
        (Pool.ofNames [Role.examinedValue.name, Role.expectedValue.name])
      rw [ran] at examined
      have expected := Value.isExact_storing? expectedLegible inert.absentDefault foundExpected between
      apply Fragment.IsExact.triple
      · exact Binder.isExact_castTo inert.valueCast examinedLegible examined
      · exact Binder.isExact_castTo inert.valueCast expectedLegible expected
      · exact Fragment.isExact_ofStatement
          (Call.reads_compareStored (isPlain_comparisonMethod asked) expectedLegible
            examinedLegible).symbols_eq
          (Call.tokens_callRead _ _ _)

/-- The source of a value by itself is exact, with no fallback to ask about. -/
theorem Value.isExact_of_weave {settings : Settings} {value : Value} {fragment : Fragment}
    (woven : (Weaver.ofSettings settings).values.weave value = .ok fragment) : fragment.IsExact := by
  refine ((Value.source_of_weave woven).isExact ?_).1
  intro ref source
  cases source with
  | environment ref =>
      exact Fragment.isExact_ofStatement (reads_parameter ref.property).symbols_eq (by simp)

/-- Text without tokens after an exact fragment keeps it exact. -/
theorem Call.isExact_wrap_append {fragment : Fragment} {read : List Symbol} {text : String}
    (exact : fragment.IsExact) (readsAs : fragment.ReadsAs read) (isPlain : IsPlain text) :
    (fragment.wrap (· ++ text)).IsExact := by
  rw [Fragment.isExact_iff] at exact ⊢
  intro token
  have wrapped : (fragment.wrap (· ++ text)).ReadsAs (read ++ plain text) :=
    ⟨_, rfl, readsAs.text.append isPlain⟩
  have exposes : token ∈ (fragment.wrap (· ++ text)).exposed ↔ token ∈ fragment.exposed := by
    simp [Fragment.mem_exposed, Fragment.wrap, Fragment.exports, Linkage.mem_exports_merge]
  rw [wrapped.mem_mentioned, exposes, ← exact, readsAs.mem_mentioned, Placeholder.tokens_append,
    Placeholder.tokens_plain, List.append_nil]

/-- The source of an identifier is exact. -/
theorem Identifier.Source.isExact {identifier : Identifier} {fragment : Fragment}
    (source : Identifier.Source identifier fragment) : fragment.IsExact := by
  have found (path : ElementPath) : (Call.lookUp .findOne path).alone.IsExact :=
    Call.isExact_navigate .findOne (Call.isExact_locateLineage path)
      (Call.readsAs_locateLineage path) ∅
  cases source with
  | element path => exact found path
  | @elementAttribute path named =>
      exact Call.isExact_wrap_append (found path.element)
        (Call.readsAs_navigate .findOne (Call.readsAs_locateLineage _) ∅)
        (isPlain_attributeCall path.name)

/-!
### The weaver
-/

namespace Weaver

/-- The fragment is source that the weaver gives for some node: a value, an identifier, an action, an
    assertion or a whole step. -/
inductive Yields (weaver : Weaver) : Fragment → Prop
  | value {node : Value} {fragment : Fragment} (woven : weaver.values.weave node = .ok fragment) :
      Yields weaver fragment
  | identifier {node : Identifier} {fragment : Fragment}
      (woven : weaver.identifiers.weave node = .ok fragment) : Yields weaver fragment
  | action {node : Action} {fragment : Fragment} (woven : weaver.actions.weave node = .ok fragment) :
      Yields weaver fragment
  | assertion {node : Assertion} {fragment : Fragment}
      (woven : weaver.assertions.weave node = .ok fragment) : Yields weaver fragment
  | step {node : Step} {fragment : Fragment} (woven : weaver.weaveStep node = .ok fragment) :
      Yields weaver fragment

/-- The source of a step is exact, because that of each part is. -/
theorem isExact_of_weaveStep {settings : Settings} (inert : settings.Inert) {step : Step}
    {fragment : Fragment} (woven : (ofSettings settings).weaveStep step = .ok fragment) :
    fragment.IsExact := by
  obtain ⟨parts, wovenParts, rfl⟩ := weaveStep_eq_ok_iff.mp woven
  refine Fragment.IsExact.concat (wovenParts.forall_mem ?_ ?_)
  · intro action part source
    exact (Action.source_of_weave source).isExact inert
  · intro assertion part source
    exact (Assertion.source_of_weave source).isExact inert

/-- All source that a weaver gives is exact. -/
theorem Yields.isExact {settings : Settings} (inert : settings.Inert) {fragment : Fragment}
    (yields : (ofSettings settings).Yields fragment) : fragment.IsExact := by
  cases yields with
  | value woven => exact Value.isExact_of_weave woven
  | identifier woven => exact (Identifier.source_of_weave woven).isExact
  | action woven => exact (Action.source_of_weave woven).isExact inert
  | assertion woven => exact (Assertion.source_of_weave woven).isExact inert
  | step woven => exact isExact_of_weaveStep inert woven

end Weaver

/-- A fragment that exposes all it mentions leaves nothing dangling. -/
theorem Fragment.IsExact.dangling {fragment : Fragment} (exact : fragment.IsExact) :
    fragment.dangling = [] := by
  have none : (fragment.statements.flatMap Placeholder.scan).filter
      (· ∉ fragment.exports.toList.map Placeholder.token) = [] := by
    rw [List.filter_eq_nil_iff]
    intro token found
    have mentioned : token ∈ fragment.mentioned := List.mem_flatMap.mp found
    rw [exact] at mentioned
    have exported : token ∈ fragment.exports.toList.map Placeholder.token := List.mem_map.mpr mentioned
    simpa using exported
  rw [Fragment.dangling, none]
  rfl

/-- Unless settings choose a text with an opening mark in it, which neither the standard settings nor
    any skip list does, the tokens in woven source are exactly those of the placeholders that it
    exposes: none is left dangling, and none is exposed without being mentioned. -/
theorem Weaver.mentioned_eq_exposed :
    Settings.standard.Inert ∧
    (∀ names settings, Settings.ofSkipList names = .ok settings → settings.Inert) ∧
    ∀ settings : Settings, settings.Inert → ∀ fragment, (Weaver.ofSettings settings).Yields fragment →
      fragment.mentioned = fragment.exposed ∧ fragment.dangling = [] ∧
        ∀ placeholder ∈ fragment.exports,
          ∃ statement ∈ fragment.statements, placeholder.token ∈ Placeholder.scan statement := by
  refine ⟨Settings.inert_standard, fun _ _ => Settings.inert_ofSkipList, ?_⟩
  intro settings inert fragment yields
  have exact := yields.isExact inert
  refine ⟨exact, exact.dangling, ?_⟩
  intro placeholder exported
  have exposed : placeholder.token ∈ fragment.exposed := ⟨placeholder, exported, rfl⟩
  rwa [← exact] at exposed

-- Both texts of the user hold a whole token, and the settings hold two braces.
theorem Weaver.mentioned_eq_exposed_braces :
    let settings : Settings := { absentDefault := "\x7b\x7b" }
    let node : Assertion :=
      .compare (.elementAttribute ⟨⟨.ofText "p", [.ofText "//q"]⟩, "\x7b\x7b VALUE \x7d\x7d"⟩) .equal
        (.ofEnvironment "\x7b\x7b HAS \x7d\x7d")
    settings.Inert ∧ ∃ fragment, (ofSettings settings).assertions.weave node = .ok fragment ∧
      fragment.mentioned = fragment.exposed := by
  intro settings node
  have inert : settings.Inert := ⟨by decide, by decide, by decide⟩
  obtain ⟨fragment, woven⟩ : ∃ fragment, (ofSettings settings).assertions.weave node = .ok fragment :=
    ⟨_, rfl⟩
  have exact := (mentioned_eq_exposed.2.2 settings inert fragment (.assertion woven)).1
  exact ⟨inert, fragment, woven, exact⟩

end StepWeaver
