/-
Module: StepWeaver.Proofs.Initialisation
Layer: Proofs
Purpose: Woven source stores before it reads. The source of each action and of each assertion assigns to
  a placeholder of its own before any of its statements uses it. The parts of a step share the names of
  their placeholders, so this is what keeps a part from seeing what another part has stored: a step has
  the effects of its parts, one after the other.
Main exports: Statement.assigned?, Statement.used, Initialised, Machine.run_agrees,
  Assignment.Prepared, Weaver.initialised_weaveStep
-/
import StepWeaver.Proofs.Execution
import StepWeaver.Proofs.ExportExactness

namespace StepWeaver

open Placeholder (IsPlain Symbol Inert plain symbols tokens isPlain_of_not_mem reads_token)

/-!
### What a statement assigns to and what it uses
-/

namespace Statement

/-- The token on the left of an assignment line, and what stands on its right. -/
def line? : List Symbol → Option (String × List Symbol)
  | .token token :: .char ' ' :: .char '=' :: .char ' ' :: value => some (token, value)
  | _ => none

/-- The token that stands on the left-hand side of a statement, if it is an assignment. -/
def assigned? (statement : String) : Option String :=
  (line? (symbols statement.toList)).map Prod.fst

/-- The tokens that a statement uses: all that a scan finds in it, but for its left-hand side. -/
def used (statement : String) : List String :=
  match assigned? statement with
  | some _ => (Placeholder.scan statement).tail
  | none => Placeholder.scan statement

/-- A line is its target, an equals sign between blanks, and the rest. -/
theorem eq_of_line?_eq_some {read value : List Symbol} {token : String}
    (found : line? read = some (token, value)) :
    read = .token token :: .char ' ' :: .char '=' :: .char ' ' :: value := by
  unfold line? at found
  split at found
  · simp only [Option.some.injEq, Prod.mk.injEq] at found
    obtain ⟨rfl, rfl⟩ := found
    rfl
  · cases found

/-- A statement uses no token that it does not mention. -/
theorem used_subset_scan {statement token : String} (member : token ∈ used statement) :
    token ∈ Placeholder.scan statement := by
  unfold used at member
  split at member
  · exact List.mem_of_mem_tail member
  · exact member

/-- A line for a placeholder assigns to its token. -/
theorem assigned?_line {target : Placeholder} (legible : target.Legible) (value : String) :
    assigned? (target.token ++ " = " ++ value) = some target.token := by
  rw [assigned?, Assignment.symbols_line legible]
  rfl

/-- A line uses what stands on its right. -/
theorem used_line {target : Placeholder} (legible : target.Legible) (value : String) :
    used (target.token ++ " = " ++ value) = tokens (symbols value.toList) := by
  rw [used, assigned?_line legible, Placeholder.scan_eq_tokens, Assignment.symbols_line legible]
  simp

end Statement

open Statement (assigned? used line?)

/-- The token stands for something that the surroundings provide, or one of the statements assigns
    to it. -/
def Available (statements : List String) (token : String) : Prop :=
  Placeholder.isEnvironmentToken token = true ∨
    ∃ statement ∈ statements, assigned? statement = some token

/-- Each token that a statement uses is provided by the surroundings, or is the left-hand side of a
    statement before it. -/
def Initialised (statements : List String) : Prop :=
  ∀ before statement after, statements = before ++ statement :: after →
    ∀ token ∈ used statement, Available before token

/-- What the surroundings provide is available from the start. -/
theorem available_role (role : Role) (environment : role.isEnvironment = true)
    (statements : List String) : Available statements role.placeholder.token :=
  Or.inl (Placeholder.isEnvironmentToken_iff.mpr ⟨role, environment, rfl⟩)

/-- What is available stays so. -/
theorem Available.mono {first second : List String} {token : String}
    (available : Available first token) (within : first ⊆ second) : Available second token := by
  rcases available with environment | ⟨statement, member, assigned⟩
  · exact Or.inl environment
  · exact Or.inr ⟨statement, within member, assigned⟩

/-- A statement makes available what it assigns to, and nothing else. -/
theorem available_snoc {statements : List String} {statement token : String} :
    Available (statements ++ [statement]) token ↔
      Available statements token ∨ assigned? statement = some token := by
  unfold Available
  simp only [List.mem_append, List.mem_singleton, or_and_right, exists_or, exists_eq_left, or_assoc]

/-- After the statements, all tokens among the symbols are available. -/
def Provides (statements : List String) (read : List Symbol) : Prop :=
  ∀ token ∈ tokens read, Available statements token

theorem provides_plain (statements : List String) (text : String) :
    Provides statements (plain text) := by
  unfold Provides
  rw [Placeholder.tokens_plain]
  intro token member
  exact absurd member List.not_mem_nil

/-- Two pieces of source are provided for if each is. -/
theorem Provides.append {statements : List String} {first second : List Symbol}
    (firstProvided : Provides statements first) (secondProvided : Provides statements second) :
    Provides statements (first ++ second) := by
  intro token member
  rw [Placeholder.tokens_append] at member
  rcases List.mem_append.mp member with inFirst | inSecond
  · exact firstProvided token inFirst
  · exact secondProvided token inSecond

theorem Provides.cons {statements : List String} {text : String} {read : List Symbol}
    (available : Available statements text) (provided : Provides statements read) :
    Provides statements (.token text :: read) := by
  unfold Provides
  rw [Placeholder.tokens_cons_token, List.forall_mem_cons]
  exact ⟨available, provided⟩

theorem provides_token {statements : List String} {text : String}
    (available : Available statements text) : Provides statements [.token text] :=
  Provides.cons available (provides_plain statements "")

/-- A call of something that the surroundings provide needs only its arguments. -/
theorem Provides.call {statements : List String} {arguments : List Symbol}
    (provided : Provides statements arguments) (role : Role) (environment : role.isEnvironment = true)
    (method : String) :
    Provides statements (Call.callRead role.placeholder.token method arguments) := by
  unfold Provides
  rw [Call.tokens_callRead, List.forall_mem_cons]
  exact ⟨available_role role environment statements, provided⟩

/-!
### Sequences of statements
-/

theorem initialised_nil : Initialised [] := by
  intro before statement after split
  simp at split

/-- A statement may follow if what it uses is available by then. -/
theorem initialised_snoc {statements : List String} {statement : String} :
    Initialised (statements ++ [statement]) ↔
      Initialised statements ∧ ∀ token ∈ used statement, Available statements token := by
  constructor
  · intro initialised
    constructor
    · intro before other after split
      apply initialised before other (after ++ [statement])
      rw [split, List.append_assoc, List.cons_append]
    · exact initialised statements statement [] rfl
  · rintro ⟨initialised, available⟩ before other after split
    rcases List.eq_nil_or_concat after with rfl | ⟨rest, last, rfl⟩
    · obtain ⟨rfl, same⟩ := List.append_inj' split rfl
      obtain rfl := List.singleton_inj.mp same
      exact available
    · rw [List.concat_eq_append, ← List.cons_append, ← List.append_assoc] at split
      obtain ⟨rfl, _⟩ := List.append_inj' split rfl
      exact initialised before other rest rfl

/-- A statement may follow if everything that it mentions is available. -/
theorem Initialised.snoc_tokens {statements : List String} {statement : String} {read : List Symbol}
    (initialised : Initialised statements) (reading : symbols statement.toList = read)
    (provided : Provides statements read) : Initialised (statements ++ [statement]) := by
  apply initialised_snoc.mpr
  refine ⟨initialised, ?_⟩
  intro token member
  apply provided
  rw [← reading, ← Placeholder.scan_eq_tokens]
  exact Statement.used_subset_scan member

/-- A line may follow if what it stores is available by then, and its target is available after it. -/
theorem Initialised.store {statements : List String} {target : Placeholder} {value : String}
    {read : List Symbol} (initialised : Initialised statements) (legible : target.Legible)
    (reading : symbols value.toList = read) (provided : Provides statements read) :
    Initialised (statements ++ [target.token ++ " = " ++ value]) ∧
      Available (statements ++ [target.token ++ " = " ++ value]) target.token := by
  constructor
  · rw [initialised_snoc, Statement.used_line legible, reading]
    exact ⟨initialised, provided⟩
  · rw [available_snoc]
    exact Or.inr (Statement.assigned?_line legible value)

/-- Statements that store before they read may follow others that do: they rely on none of them. -/
theorem Initialised.append {first second : List String} (firstInitialised : Initialised first)
    (secondInitialised : Initialised second) : Initialised (first ++ second) := by
  induction second using List.reverseRecOn with
  | nil =>
      rw [List.append_nil]
      exact firstInitialised
  | append_singleton second statement ih =>
      obtain ⟨earlier, available⟩ := initialised_snoc.mp secondInitialised
      rw [← List.append_assoc]
      apply initialised_snoc.mpr
      refine ⟨ih earlier, ?_⟩
      intro token member
      exact (available token member).mono (List.subset_append_right first second)

/-!
### Execution

Two machines that agree on what is available run such statements alike. So it does not matter what has
been stored before.
-/

namespace Machine

/-- Two machines replace alike what they agree on. -/
theorem map_resolve_congr {machine other : Machine} {read : List Symbol}
    (agree : ∀ token ∈ tokens read, machine.store token = other.store token) :
    read.map machine.resolve = read.map other.resolve := by
  apply List.map_congr_left
  intro symbol member
  cases symbol with
  | char c => rfl
  | token text =>
      have here : text ∈ tokens read := List.mem_filterMap.mpr ⟨.token text, member, rfl⟩
      rw [resolve, resolve, agree text here]

/-- A line binds its target unless that belongs to the surroundings. -/
theorem binding?_of_line? {read value : List Symbol} {token : String}
    (found : line? read = some (token, value)) :
    binding? read = if Placeholder.isEnvironmentToken token then none else some (token, value) := by
  rw [Statement.eq_of_line?_eq_some found]
  rfl

theorem binding?_of_line?_eq_none {read : List Symbol} (none : line? read = none) :
    binding? read = .none := by
  unfold binding?
  split
  · cases none
  · rfl

/-- How two machines relate that have run the same statements: they agree on what is available, and
    they have emitted the same effects since then. -/
structure Agrees (statements : List String) (machine other machine' other' : Machine) : Prop where
  store : ∀ token, Available statements token → machine'.store token = other'.store token
  effects : ∃ emitted, machine'.effects = machine.effects ++ emitted ∧
    other'.effects = other.effects ++ emitted

/-- Machines that agree still do after the same effect. -/
theorem Agrees.emit {statements : List String} {machine other machine' other' : Machine}
    (agrees : Agrees statements machine other machine' other') {statement : String}
    (known : ∀ token, assigned? statement = some token → Available statements token)
    (effect : List Term) :
    Agrees (statements ++ [statement]) machine other (machine'.emit effect)
      (other'.emit effect) := by
  constructor
  · intro token after
    rcases available_snoc.mp after with before | here
    · exact agrees.store token before
    · exact agrees.store token (known token here)
  · obtain ⟨emitted, machineEmitted, otherEmitted⟩ := agrees.effects
    refine ⟨emitted ++ [effect], ?_, ?_⟩
    · rw [Machine.emit, machineEmitted, List.append_assoc]
    · rw [Machine.emit, otherEmitted, List.append_assoc]

/-- Machines that agree still do after the same binding, which makes its target available. -/
theorem Agrees.bind {statements : List String} {machine other machine' other' : Machine}
    (agrees : Agrees statements machine other machine' other') {statement target : String}
    (assigned : assigned? statement = some target) (body : List Term) :
    Agrees (statements ++ [statement]) machine other (machine'.bind target body)
      (other'.bind target body) := by
  constructor
  · intro token after
    by_cases isTarget : token = target
    · subst isTarget
      simp only [Machine.bind, Function.update_self]
    · simp only [Machine.bind, Function.update_of_ne isTarget]
      rcases available_snoc.mp after with before | here
      · exact agrees.store token before
      · exact absurd (Option.some.inj (here.symm.trans assigned)) isTarget
  · exact agrees.effects

/-- A statement that uses only what is available does the same to machines that agree. -/
theorem Agrees.step {statements : List String} {machine other machine' other' : Machine}
    (agrees : Agrees statements machine other machine' other') {statement : String}
    (available : ∀ token ∈ used statement, Available statements token) :
    Agrees (statements ++ [statement]) machine other (machine'.step statement)
      (other'.step statement) := by
  unfold used at available
  rw [Placeholder.scan_eq_tokens] at available
  cases found : line? (symbols statement.toList) with
  | none =>
      have assigned : assigned? statement = none := by rw [assigned?, found, Option.map_none]
      rw [assigned] at available
      have same := map_resolve_congr fun token member => agrees.store token (available token member)
      have emits := binding?_of_line?_eq_none found
      rw [step_emits machine' rfl emits, step_emits other' rfl emits, same]
      apply agrees.emit
      intro token here
      rw [assigned] at here
      cases here
  | some line =>
      obtain ⟨target, value⟩ := line
      have assigned : assigned? statement = some target := by rw [assigned?, found, Option.map_some]
      have shown : tokens (symbols statement.toList) = target :: tokens value := by
        rw [Statement.eq_of_line?_eq_some found]
        rfl
      rw [assigned, shown] at available
      have binds := binding?_of_line? found
      by_cases environment : Placeholder.isEnvironmentToken target = true
      · -- The surroundings own the target, so the line is an effect and its target is available.
        rw [if_pos environment] at binds
        have provided : Available statements target := Or.inl environment
        have known : Provides statements (symbols statement.toList) := by
          unfold Provides
          rw [shown, List.forall_mem_cons]
          exact ⟨provided, available⟩
        have same := map_resolve_congr fun token member => agrees.store token (known token member)
        rw [step_emits machine' rfl binds, step_emits other' rfl binds, same]
        apply agrees.emit
        intro token here
        obtain rfl := Option.some.inj (assigned.symm.trans here)
        exact provided
      · rw [if_neg environment] at binds
        have same := map_resolve_congr fun token member => agrees.store token (available token member)
        have machineStep : machine'.step statement =
            machine'.bind target (value.map machine'.resolve) := by rw [Machine.step, binds]
        have otherStep : other'.step statement =
            other'.bind target (value.map machine'.resolve) := by rw [Machine.step, binds, same]
        rw [machineStep, otherStep]
        exact agrees.bind assigned _

/-- Statements that store before they read do the same whatever has been stored before. -/
theorem run_agrees {statements : List String} (initialised : Initialised statements)
    {machine other : Machine} (ambient : machine.IsAmbient) (otherAmbient : other.IsAmbient) :
    Agrees statements machine other (machine.run statements) (other.run statements) := by
  induction statements using List.reverseRecOn with
  | nil =>
      constructor
      · rintro token (environment | ⟨statement, member, _⟩)
        · exact (ambient token environment).trans (otherAmbient token environment).symm
        · exact absurd member List.not_mem_nil
      · exact ⟨[], (List.append_nil _).symm, (List.append_nil _).symm⟩
  | append_singleton statements statement ih =>
      obtain ⟨earlier, available⟩ := initialised_snoc.mp initialised
      rw [run_append, run_append, run_singleton, run_singleton]
      exact (ih earlier).step available

/-- Whatever has been stored before, a fragment that stores before it reads has its own effects. -/
theorem output_run_of_initialised {fragment : Fragment} (initialised : Initialised fragment.statements)
    {machine : Machine} (ambient : machine.IsAmbient) :
    (machine.run fragment.statements).output = machine.output ++ fragment.effects := by
  obtain ⟨emitted, here, alone⟩ := (run_agrees initialised ambient isAmbient_start).effects
  rw [Fragment.effects, output, output, output, here, alone, start, List.nil_append, List.map_append]

/-- Fragments that store before they read have their own effects, one after the other. -/
theorem output_run_flatMap {parts : List Fragment}
    (initialised : ∀ part ∈ parts, Initialised part.statements) {machine : Machine}
    (ambient : machine.IsAmbient) :
    (machine.run (parts.flatMap Fragment.statements)).output =
      machine.output ++ parts.flatMap Fragment.effects := by
  induction parts generalizing machine with
  | nil => exact (List.append_nil _).symm
  | cons part parts ih =>
      rw [List.forall_mem_cons] at initialised
      rw [List.flatMap_cons, List.flatMap_cons, run_append,
        ih initialised.2 (ambient.run part.statements),
        output_run_of_initialised initialised.1 ambient, List.append_assoc]

end Machine

/-- Fragments that store before they read keep their effects in a sequence. -/
theorem Fragment.effects_concat {parts : List Fragment}
    (initialised : ∀ part ∈ parts, Initialised part.statements) :
    (concat parts).effects = parts.flatMap Fragment.effects := by
  rw [Fragment.effects, statements_concat,
    Machine.output_run_flatMap initialised Machine.isAmbient_start]
  rfl

/-!
### Assignments
-/

namespace Assignment

/-- The assignment stores before it reads, and in the end it has stored its target. -/
structure Prepared (assignment : Assignment) : Prop where
  initialised : Initialised assignment.toFragment.statements
  stored : Available assignment.toFragment.statements assignment.target.token

/-- An assignment is prepared if what runs before its last line provides for that line. -/
theorem prepared_of_split {target : Placeholder} {source : Fragment} {predecessors : List Fragment}
    {last : String} {read : List Symbol} (setup : List String) (legible : target.Legible)
    (split : source.statements = setup ++ [last]) (reading : symbols last.toList = read)
    (initialised : Initialised (predecessors.flatMap Fragment.statements ++ setup))
    (provided : Provides (predecessors.flatMap Fragment.statements ++ setup) read) :
    ((ofFragment target source).precededBy predecessors).Prepared := by
  have lines : ((ofFragment target source).precededBy predecessors).toFragment.statements =
      predecessors.flatMap Fragment.statements ++ setup ++ [target.token ++ " = " ++ last] := by
    rw [statements_toFragment predecessors split, List.append_assoc]
  obtain ⟨whole, stored⟩ := initialised.store legible reading provided
  constructor
  · rw [lines]
    exact whole
  · rw [lines]
    exact stored

/-- The same for a source of one statement. -/
theorem prepared_of_readsAs {target : Placeholder} {source : Fragment} {read : List Symbol}
    (predecessors : List Fragment) (legible : target.Legible) (readsAs : source.ReadsAs read)
    (initialised : Initialised (predecessors.flatMap Fragment.statements))
    (provided : Provides (predecessors.flatMap Fragment.statements) read) :
    ((ofFragment target source).precededBy predecessors).Prepared := by
  obtain ⟨text, only, reads⟩ := readsAs
  have split : source.statements = [] ++ [text] := only
  rw [← List.append_nil (predecessors.flatMap Fragment.statements)] at initialised provided
  exact prepared_of_split [] legible split reads.symbols_eq initialised provided

/-- An assignment may use what another one has stored before it. -/
theorem Prepared.assign {stored : Assignment} {target : Placeholder} {source : Fragment}
    {read : List Symbol} (prepared : stored.Prepared) (legible : target.Legible)
    (readsAs : source.ReadsAs read) (provided : Provides stored.toFragment.statements read) :
    ((ofFragment target source).precededBy [stored.toFragment]).Prepared := by
  have initialised := prepared.initialised
  rw [← List.flatMap_singleton Fragment.statements] at initialised provided
  exact prepared_of_readsAs [stored.toFragment] legible readsAs initialised provided

/-- A last statement may use what two assignments have stored before it. -/
theorem Prepared.snoc_pair {first second : Assignment} {statement : String} {read : List Symbol}
    (firstPrepared : first.Prepared) (secondPrepared : second.Prepared)
    (reading : symbols statement.toList = read)
    (provided : ∀ statements, Available statements first.target.token →
      Available statements second.target.token → Provides statements read) :
    Initialised (first.toFragment.statements ++ (second.toFragment.statements ++ [statement])) := by
  rw [← List.append_assoc]
  apply (firstPrepared.initialised.append secondPrepared.initialised).snoc_tokens reading
  apply provided
  · exact firstPrepared.stored.mono (List.subset_append_left _ _)
  · exact secondPrepared.stored.mono (List.subset_append_right _ _)

end Assignment

/-!
### Elements and attributes
-/

namespace Binding

/-- Looking a path up stores locator and answer before it uses them. -/
theorem prepared_lookup (path : ElementPath) {target : Placeholder} (legible : target.Legible)
    (probe query : Lookup) (scope : Pool) :
    ((lookup path target probe query).runIn scope).1.Prepared := by
  have locatorLegible := legible_fresh scope .elementLocator
  have presenceLegible := legible_fresh (scope.fresh Role.elementLocator.name).2 .presence
  have arguments := Call.readsAs_locateStored locatorLegible path
  have asks {statements : List String} (lookup : Lookup)
      (stored : Available statements (scope.fresh Role.elementLocator.name).1.token) :=
    ((provides_plain statements (Call.furtherArguments path.ancestors)).cons stored).call
      .navigator rfl (Call.methodText lookup.method)
  -- The four lines in turn: the locator, the answer to the probe, its check, and the query.
  obtain ⟨located, locatorStored⟩ := initialised_nil.store locatorLegible
    (Call.isPlain_newLocator path.own).symbols_eq (provides_plain [] (Call.newLocator path.own))
  obtain ⟨probed, presenceStored⟩ := located.store presenceLegible
    (Call.reads_navigate probe arguments.text).symbols_eq (asks probe locatorStored)
  have checked := probed.snoc_tokens
    (Call.reads_check .isTrue (reads_token presenceLegible)).symbols_eq
    ((provides_token presenceStored).call .testContext rfl _)
  apply Assignment.prepared_of_readsAs _ legible (Call.readsAs_navigate query arguments scope)
  · exact checked
  · exact asks query (locatorStored.mono (List.subset_append_left _ [_, _]))

/-- The elements of a form field are stored before the field is read. -/
theorem prepared_fieldValue (path : ElementPath) {target : Placeholder} (legible : target.Legible)
    (scope : Pool) : ((fieldValue path target).runIn scope).1.Prepared := by
  have elementsLegible := legible_fresh scope .collection
  have found := prepared_lookup path elementsLegible .has .find (scope.fresh Role.collection.name).2
  exact found.assign legible (Call.readsAs_readField elementsLegible scope)
    ((provides_token found.stored).call .inspector rfl _)

/-- The owner of an attribute is stored before the attribute is read. -/
theorem prepared_attributeValue (path : AttributePath) {target : Placeholder}
    (legible : target.Legible) (scope : Pool) :
    ((attributeValue path target).runIn scope).1.Prepared := by
  have ownerLegible := legible_fresh scope .element
  have found := prepared_lookup path.element ownerLegible .hasOne .findOne
    (scope.fresh Role.element.name).2
  have access := (reads_token ownerLegible).append (isPlain_attributeCall path.name)
  exact found.assign legible ⟨_, rfl, access⟩
    ((provides_token found.stored).append (provides_plain _ _))

end Binding

/-!
### Values
-/

namespace Rule

/-- The size of the window is stored before its width and its height are read. -/
theorem prepared_windowSize {target : Placeholder} (legible : target.Legible) :
    (Assignment.ofFragment target windowSize).Prepared := by
  have client := available_role .client rfl []
  obtain ⟨sized, sizeStored⟩ := initialised_nil.store (Call.legible_role .windowSize)
    reads_windowCall.symbols_eq ((provides_plain [] windowCall).cons client)
  rw [← String.append_assoc] at sized sizeStored
  apply Assignment.prepared_of_split [_] legible statements_windowSize reads_windowText.symbols_eq
  · exact sized
  · have height := (provides_plain _ "->getHeight()").cons sizeStored
    have width := (provides_plain _ "->getWidth() . 'x' . (string) ").cons sizeStored
    exact (provides_plain _ "(string) ").append (width.append height)

theorem prepared_clientCall {target : Placeholder} (legible : target.Legible) {method : String}
    (isPlain : IsPlain method) : (Assignment.ofFragment target (clientCall method)).Prepared := by
  have reads := Call.reads_methodCall (Call.legible_role .client) isPlain
  apply Assignment.prepared_of_readsAs [] legible ⟨_, rfl, reads⟩
  · exact initialised_nil
  · exact (provides_plain [] _).cons (available_role .client rfl [])

end Rule

/-- The source of a scalar value relies on nothing but the surroundings. -/
theorem Value.prepared_access? {value : Value} {fallback : String} {access : Fragment}
    {target : Placeholder} (legible : target.Legible) (inert : Inert fallback)
    (found : value.access? fallback = some access) :
    (Assignment.ofFragment target access).Prepared := by
  cases Value.source_of_access? found with
  | literal text =>
      apply Assignment.prepared_of_readsAs [] legible ⟨_, rfl, Placeholder.isPlain_literal text⟩
      · exact initialised_nil
      · exact provides_plain [] _
  | environment ref =>
      have reading := symbols_fallback (reads_parameter ref.property) inert
      apply Assignment.prepared_of_split [] legible rfl reading
      · exact initialised_nil
      · apply Provides.append
        · exact (provides_plain [] _).cons (available_role .environment rfl [])
        · exact provides_plain [] _
  | windowSize size => exact Rule.prepared_windowSize legible
  | title title => exact Rule.prepared_clientCall legible (isPlain_of_not_mem (by decide))
  | address url => exact Rule.prepared_clientCall legible (isPlain_of_not_mem (by decide))

/-- Storing a value of any kind stores before it reads. -/
theorem Value.prepared_storing? {value : Value} {target : Placeholder} {fallback : String}
    {computation : Scoped Assignment} (legible : target.Legible) (inert : Inert fallback)
    (found : value.storing? target fallback = some computation) (scope : Pool) :
    (computation.runIn scope).1.Prepared := by
  obtain ⟨path, _, rfl⟩ | ⟨path, _, _, rfl⟩ | ⟨access, accessed, rfl⟩ := storing?_cases found
  · exact Binding.prepared_fieldValue path legible scope
  · exact Binding.prepared_attributeValue path legible scope
  · exact prepared_access? legible inert accessed

/-- A cast reads the target that it is about to overwrite. -/
theorem Binder.prepared_castTo {cast : String} {target : Placeholder} {stored : Assignment}
    (inert : Inert cast) (legible : target.Legible) (prepared : stored.Prepared)
    (same : stored.target = target) : (castTo cast target stored).Prepared := by
  subst same
  exact prepared.assign legible ⟨_, rfl, reads_cast inert legible⟩
    ((provides_plain _ _).append (provides_token prepared.stored))

/-!
### Nodes
-/

/-- Leading the client to another page uses only the surroundings. -/
theorem Rule.initialised_crawl {call : String} (isPlain : IsPlain call) :
    Initialised (crawl call).statements := by
  have called := (provides_plain [] ("->" ++ call)).cons (available_role .client rfl [])
  have line := ((provides_plain [] " = ").append called).cons (available_role .crawler rfl [])
  exact initialised_nil.snoc_tokens (reads_crawl isPlain).symbols_eq line

/-- The source of an action stores before it reads. -/
theorem Action.Source.initialised {settings : Settings} {action : Action} {fragment : Fragment}
    (inert : settings.Inert) (source : Action.Source settings action fragment) :
    Initialised fragment.statements := by
  cases source with
  | wait found =>
      have legible := Call.legible_role .duration
      have stored := Value.prepared_storing? legible (by decide) found (Pool.ofNames [Role.duration.name])
      have casted := Binder.prepared_castTo inert.durationCast legible stored
        (Value.target_storing? found _)
      rw [Fragment.statements_concat]
      apply casted.initialised.snoc_tokens (reads_sleep legible).symbols_eq
      exact (provides_plain _ _).append ((provides_plain _ _).cons casted.stored)
  | navigate kind => exact Rule.initialised_crawl (isPlain_navigation kind)
  | @act kind path _ =>
      have legible := Call.legible_role .element
      have found := Binding.prepared_lookup path legible .hasOne .findOne
        (Pool.ofNames [Role.element.name])
      rw [Fragment.statements_concat]
      apply found.initialised.snoc_tokens
        (Call.reads_methodCall legible (isPlain_interaction kind)).symbols_eq
      exact (provides_plain _ _).cons found.stored
  | waitFor path => exact Rule.initialised_crawl (isPlain_waitFor path.own.text)
  | @input path _ _ fields between found lookedUp =>
      have fieldsLegible := Call.legible_role .collection
      have valueLegible := Call.legible_role .value
      have looked := Binding.prepared_lookup path fieldsLegible .has .find
        (Pool.ofNames [Role.collection.name, Role.value.name])
      obtain rfl := congrArg Prod.fst lookedUp
      have stored := Value.prepared_storing? valueLegible inert.absentDefault found between
      have casted := Binder.prepared_castTo inert.valueCast valueLegible stored
        (Value.target_storing? found between)
      rw [Fragment.statements_concat]
      apply looked.snoc_pair casted (Call.reads_fillField fieldsLegible valueLegible).symbols_eq
      intro statements fieldsStored valueStored
      have arguments := (provides_plain statements ", ").append (provides_token valueStored)
      exact (arguments.cons fieldsStored).call .mutator rfl _

/-- The source of an assertion stores before it reads. -/
theorem Assertion.Source.initialised {settings : Settings} {assertion : Assertion}
    {fragment : Fragment} (inert : settings.Inert)
    (source : Assertion.Source settings assertion fragment) : Initialised fragment.statements := by
  cases source with
  | elementPresence path asked =>
      have found := Call.readsAs_navigate .has (Call.readsAs_locateLineage path) ∅
      obtain ⟨text, only, reads⟩ := Call.readsAs_checkExpression _ found ∅
      have lookup := (provides_plain [] (Call.locateLineage path).text).call .navigator rfl
        (Call.methodText Lookup.has.method)
      have checked := initialised_nil.snoc_tokens reads.symbols_eq (lookup.call .testContext rfl _)
      rw [← only] at checked
      exact checked
  | @presence examined _ expected computation asked _ found =>
      have legible := Call.legible_role .examinedValue
      have stored := Value.prepared_storing? legible inert.absentDefault found
        (Pool.ofNames [Role.examinedValue.name])
      have targetLegible := legible
      rw [← Value.target_storing? found (Pool.ofNames [Role.examinedValue.name])] at targetLegible
      exact stored.initialised.snoc_tokens
        (Call.reads_check (if expected then .isNotNull else .isNull)
          (reads_token targetLegible)).symbols_eq
        ((provides_token stored.stored).call .testContext rfl _)
  | @compare _ _ _ _ _ _ stored between asked foundExamined foundExpected ran =>
      have examinedLegible := Call.legible_role .examinedValue
      have expectedLegible := Call.legible_role .expectedValue
      let scope := Pool.ofNames [Role.examinedValue.name, Role.expectedValue.name]
      have examined := Value.prepared_storing? examinedLegible inert.absentDefault foundExamined scope
      have target := Value.target_storing? foundExamined scope
      rw [ran] at examined target
      have expected := Value.prepared_storing? expectedLegible inert.absentDefault foundExpected between
      have castExamined := Binder.prepared_castTo inert.valueCast examinedLegible examined target
      have castExpected := Binder.prepared_castTo inert.valueCast expectedLegible expected
        (Value.target_storing? foundExpected between)
      rw [Fragment.statements_concat]
      apply castExamined.snoc_pair castExpected
        (Call.reads_compareStored (isPlain_comparisonMethod asked) expectedLegible
          examinedLegible).symbols_eq
      intro statements examinedStored expectedStored
      have arguments := (provides_plain statements ", ").append (provides_token examinedStored)
      exact (arguments.cons expectedStored).call .testContext rfl _

/-- Unless settings choose a text with an opening mark in it, each part of a woven step assigns to its
    placeholders before it uses them, but for those of the surroundings. So no part sees what another
    one has stored in a placeholder of the same name, and the step does what its parts do. -/
theorem Weaver.initialised_weaveStep (settings : Settings) (inert : settings.Inert) (step : Step)
    (fragment : Fragment) (woven : (ofSettings settings).weaveStep step = .ok fragment) :
    ∃ parts, (ofSettings settings).WovenParts step parts ∧
      fragment.statements = parts.flatMap Fragment.statements ∧
      (∀ part ∈ parts, Initialised part.statements) ∧
      fragment.effects = parts.flatMap Fragment.effects := by
  obtain ⟨parts, wovenParts, rfl⟩ := weaveStep_eq_ok_iff.mp woven
  have initialised : ∀ part ∈ parts, Initialised part.statements := by
    refine wovenParts.forall_mem ?_ ?_
    · intro action part source
      exact (Action.source_of_weave source).initialised inert
    · intro assertion part source
      exact (Assertion.source_of_weave source).initialised inert
  exact ⟨parts, wovenParts, Fragment.statements_concat parts, initialised,
    Fragment.effects_concat initialised⟩

-- Both clicks store a locator, an answer and an element under the same names.
theorem Weaver.initialised_weaveStep_clicks :
    let step : Step :=
      { actions :=
          [.interact .click (.element ⟨.ofText ".a", []⟩), .interact .click (.element ⟨.ofText ".b", []⟩)]
        assertions := [.compare (.element ⟨.ofText ".c", []⟩) .equal (.ofBrowser "size")] }
    Settings.standard.Inert ∧
      ∃ fragment parts, (ofSettings .standard).weaveStep step = .ok fragment ∧
        (ofSettings .standard).WovenParts step parts ∧ parts.length = 3 ∧
        (∀ part ∈ parts, Initialised part.statements) ∧
        fragment.effects = parts.flatMap Fragment.effects := by
  intro step
  obtain ⟨fragment, woven⟩ : ∃ fragment, (ofSettings .standard).weaveStep step = .ok fragment :=
    ⟨_, rfl⟩
  obtain ⟨parts, wovenParts, _, initialised, effects⟩ :=
    initialised_weaveStep .standard Settings.inert_standard step fragment woven
  have count : parts.length = 3 := by
    obtain ⟨done, checked, rfl, actions, assertions⟩ := wovenParts
    rw [List.length_append, ← actions.length_eq, ← assertions.length_eq]
    rfl
  exact ⟨Settings.inert_standard, fragment, parts, woven, wovenParts, count, initialised, effects⟩

end StepWeaver
