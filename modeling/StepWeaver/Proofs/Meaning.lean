/-
Module: StepWeaver.Proofs.Meaning
Layer: Proofs
Purpose: Woven source means what its node says. `Direct` gives, for an action or an assertion, the
  effects that it asks for, as expressions without intermediate placeholders. Executed symbolically,
  the source of the node emits exactly these effects: locators, guards, casts and fresh placeholders
  drop out.
Main exports: Direct.mention, Direct.value?, Direct.guards, Direct.action?, Direct.assertion?, Stores,
  Weaver.effects_eq_direct
-/
import StepWeaver.Proofs.Execution
import StepWeaver.Proofs.ExportExactness

namespace StepWeaver

open Placeholder (IsPlain Symbol Inert plain symbols isPlain_of_not_mem reads_token)

/-!
### Direct expressions
-/

namespace Direct

/-- How source mentions what its surroundings provide. What a fragment stores itself is never mentioned:
    it has been replaced by what it holds. -/
def mention : Role → String
  | .testContext => "\x7b\x7b TEST_CONTEXT \x7d\x7d"
  | .navigator => "\x7b\x7b NAVIGATOR \x7d\x7d"
  | .environment => "\x7b\x7b ENV_ARRAY \x7d\x7d"
  | .client => "\x7b\x7b CLIENT \x7d\x7d"
  | .crawler => "\x7b\x7b CRAWLER \x7d\x7d"
  | .inspector => "\x7b\x7b INSPECTOR \x7d\x7d"
  | .mutator => "\x7b\x7b MUTATOR \x7d\x7d"
  | _ => ""

/-- A method of something that the surroundings provide, called with some arguments. -/
def call (role : Role) (method arguments : String) : String :=
  mention role ++ "->" ++ method ++ "(" ++ arguments ++ ")"

/-- Asks the navigator about a path. -/
def ask (method : String) (path : ElementPath) : String :=
  call .navigator method (Call.locateLineage path).text

/-- The size of the browser window. -/
def windowSize : String := call .client "getWebDriver" "" ++ "->manage()->window()->getSize()"

/-- The expression that a value stands for, with a fallback for what the environment may lack. -/
def value? (fallback : String) : Value → Option String
  | .literal text => some (Text.Quoted.literal text)
  | .environment ref =>
    some (mention .environment ++ "[" ++ Text.Quoted.literal ref.property ++ "]" ++ " ?? " ++ fallback)
  | .browser ref =>
    if ref.property = "size" then
      some ("(string) " ++ windowSize ++ "->getWidth() . 'x' . (string) " ++ windowSize ++
        "->getHeight()")
    else none
  | .page ref =>
    if ref.property = "title" then some (call .client "getTitle" "")
    else if ref.property = "url" then some (call .client "getCurrentURL" "")
    else none
  | .element path => some (call .inspector "getValue" (ask "find" path))
  | .elementAttribute path =>
    if path.hasName then
      some (ask "findOne" path.element ++ "->getAttribute(" ++ Text.Quoted.literal path.name ++ ")")
    else none
  | _ => none

/-- What has to hold before a value can be read. -/
def guards : Value → List String
  | .element path => [call .testContext "assertTrue" (ask "has" path)]
  | .elementAttribute path => [call .testContext "assertTrue" (ask "hasOne" path.element)]
  | _ => []

/-- An expression with a cast before it. -/
def cast (type expression : String) : String := "(" ++ type ++ ") " ++ expression

/-- Leads the client to another page. -/
def lead (method arguments : String) : String :=
  mention .crawler ++ " = " ++ call .client method arguments

/-- Calls a method of the one element that a path leads to, which has to be there. -/
def act (method : String) (path : ElementPath) : List String :=
  [call .testContext "assertTrue" (ask "hasOne" path),
    ask "findOne" path ++ "->" ++ method ++ "()"]

/-- The effects that an action asks for. -/
def action? (settings : Settings) : Action → Option (List String)
  | .wait time => do
    let expression ← value? "0" time
    return guards time ++ ["usleep(" ++ cast settings.durationCast expression ++ " * 1000)"]
  | .navigate .back => some [lead "back" ""]
  | .navigate .forward => some [lead "forward" ""]
  | .navigate .reload => some [lead "reload" ""]
  | .interact .click (.element path) => some (act "click" path)
  | .interact .submit (.element path) => some (act "submit" path)
  | .interact .waitFor (.element path) => some [lead "waitFor" (Text.Quoted.literal path.own.text)]
  | .input (.element path) text => do
    let expression ← value? settings.absentDefault text
    return call .testContext "assertTrue" (ask "has" path) :: guards text ++
      [call .mutator "setValue" (ask "find" path ++ ", " ++ cast settings.valueCast expression)]
  | _ => none

/-- The method that checks for presence or for absence, out of one for each. -/
def presenceMethod? (present absent : String) : Comparison → Option String
  | .present => some present
  | .absent => some absent
  | _ => none

/-- The method that compares two values. -/
def comparisonMethod? : Comparison → Option String
  | .equal => some "assertEquals"
  | .unequal => some "assertNotEquals"
  | .includes => some "assertStringContainsString"
  | .excludes => some "assertStringNotContainsString"
  | .matching => some "assertRegExp"
  | .present | .absent => none

/-- The effects that an assertion asks for. -/
def assertion? (settings : Settings) : Assertion → Option (List String)
  | .examine (.element path) comparison => do
    let method ← presenceMethod? "assertTrue" "assertFalse" comparison
    return [call .testContext method (ask "has" path)]
  | .examine examined comparison => do
    let method ← presenceMethod? "assertNotNull" "assertNull" comparison
    let expression ← value? settings.absentDefault examined
    return guards examined ++ [call .testContext method expression]
  | .compare examined comparison expected => do
    let method ← comparisonMethod? comparison
    let actual ← value? settings.absentDefault examined
    let wanted ← value? settings.absentDefault expected
    return guards examined ++ guards expected ++
      [call .testContext method
        (cast settings.valueCast wanted ++ ", " ++ cast settings.valueCast actual)]

/-!
The texts above are spelled out once more on purpose. That source uses the same ones is part of what is
shown below.
-/

/-- A token of the surroundings is written as it is mentioned here. -/
theorem token_eq_mention {role : Role} (environment : role.isEnvironment = true) :
    role.placeholder.token = mention role := by
  cases role with
  | testContext | navigator | environment | client | crawler | inspector | mutator => rfl
  | _ => cases environment

/-- Presence and absence are told apart by the same comparisons. -/
theorem presenceMethod?_eq (present absent : String) (comparison : Comparison) :
    presenceMethod? present absent comparison =
      (Rule.expectsPresence? comparison).map fun expected => if expected then present else absent := by
  cases comparison <;> rfl

/-- Values are compared by the same methods. -/
theorem comparisonMethod?_eq (comparison : Comparison) :
    comparisonMethod? comparison = Rule.comparisonMethod? comparison := by
  cases comparison <;> rfl

/-- A call without arguments ends in two brackets. -/
theorem call_empty (role : Role) (method : String) :
    call role method "" = mention role ++ "->" ++ method ++ "()" := by
  have brackets : "(" ++ "" ++ ")" = "()" := by decide
  rw [call, ← brackets]
  simp only [String.append_assoc]

end Direct

/-!
### Storing

Statements store a text in a placeholder if they leave it there whatever was bound before. They may
also bind placeholders that are not in the scope yet, and the size of the window.
-/

/-- The statements emit `emitted`, leave the target reading as `text`, and keep how everything else in
    the scope reads. -/
structure Stores (scope : Pool) (statements emitted : List String) (target : Placeholder)
    (text : String) : Prop where
  output : ∀ machine : Machine, machine.IsAmbient →
    (machine.run statements).output = machine.output ++ emitted
  value : ∀ machine : Machine, machine.IsAmbient →
    (machine.run statements).value target.token = text
  frame : ∀ machine : Machine, ∀ other ∈ scope, other.PlaysRole → other ≠ target →
    other ≠ Role.windowSize.placeholder →
      (machine.run statements).value other.token = machine.value other.token

/-- A line whose right side reads the same in all surroundings stores that text. -/
theorem stores_line (scope : Pool) {target : Placeholder} (isLocal : target.IsLocal)
    {text result : String} {read : List Symbol} (reading : symbols text.toList = read)
    (spelled : ∀ machine : Machine, machine.IsAmbient → machine.spelling read = result) :
    Stores scope [target.token ++ " = " ++ text] [] target result where
  output := by
    intro machine _
    rw [Machine.run_singleton, Machine.output_step_line machine isLocal, List.append_nil]
  value := by
    intro machine ambient
    rw [Machine.run_singleton, Machine.value_step_line machine isLocal, reading, spelled machine ambient]
  frame := by
    intro machine other _ plays differs _
    rw [Machine.run_singleton, Machine.value_step_line_of_ne machine isLocal plays differs]

/-- What has been stored in `source` may be used to store something in `target`. -/
theorem Stores.line {scope inner : Pool} {statements emitted : List String}
    {source target : Placeholder} {stored text result : String} {read : List Symbol}
    (first : Stores inner statements emitted source stored) (isLocal : target.IsLocal)
    (reading : symbols text.toList = read)
    (spelled : ∀ machine : Machine, machine.IsAmbient → machine.value source.token = stored →
      machine.spelling read = result)
    (within : ∀ other ∈ scope, other ≠ target → other ≠ Role.windowSize.placeholder →
      other ∈ inner ∧ other ≠ source) :
    Stores scope (statements ++ [target.token ++ " = " ++ text]) emitted target result where
  output := by
    intro machine ambient
    rw [Machine.run_append, Machine.run_singleton, Machine.output_step_line _ isLocal,
      first.output machine ambient]
  value := by
    intro machine ambient
    rw [Machine.run_append, Machine.run_singleton, Machine.value_step_line _ isLocal, reading]
    exact spelled _ (ambient.run statements) (first.value machine ambient)
  frame := by
    intro machine other member plays differs noWindow
    obtain ⟨inside, noSource⟩ := within other member differs noWindow
    rw [Machine.run_append, Machine.run_singleton,
      Machine.value_step_line_of_ne _ isLocal plays differs]
    exact first.frame machine other inside plays noSource noWindow

/-- What the surroundings provide reads as it is mentioned. -/
theorem Machine.IsAmbient.value_mention {machine : Machine} (ambient : machine.IsAmbient) {role : Role}
    (environment : role.isEnvironment = true) :
    machine.value role.placeholder.token = Direct.mention role :=
  (ambient.value_role environment).trans (Direct.token_eq_mention environment)

/-- A call reads as the same call with its arguments replaced. -/
theorem Machine.IsAmbient.spelling_call {machine : Machine} (ambient : machine.IsAmbient) {role : Role}
    (environment : role.isEnvironment = true) (method : String) (read : List Symbol) :
    machine.spelling (Call.callRead role.placeholder.token (Call.methodText method) read) =
      Direct.call role method (machine.spelling read) := by
  simp [Call.callRead, Call.methodText, Direct.call, ambient.value_mention environment,
    String.append_assoc]

/-- A call with one stored argument reads as a call with what is stored. -/
theorem Machine.IsAmbient.spelling_call_token {machine : Machine} (ambient : machine.IsAmbient)
    {role : Role} (environment : role.isEnvironment = true) (method token : String) :
    machine.spelling (Call.callRead role.placeholder.token (Call.methodText method) [.token token]) =
      Direct.call role method (machine.value token) := by
  rw [ambient.spelling_call environment, spelling_cons_token, spelling_nil, String.append_empty]

/-- A call with two stored arguments reads as a call with what is stored in them. -/
theorem Machine.IsAmbient.spelling_call_pair {machine : Machine} (ambient : machine.IsAmbient)
    {role : Role} (environment : role.isEnvironment = true) (method first second : String) :
    machine.spelling (Call.callRead role.placeholder.token (Call.methodText method)
        (.token first :: plain ", " ++ [.token second])) =
      Direct.call role method (machine.value first ++ ", " ++ machine.value second) := by
  rw [ambient.spelling_call environment, List.cons_append, spelling_cons_token, spelling_append,
    spelling_plain, spelling_cons_token, spelling_nil, String.append_empty, String.append_assoc]

/-- With its locator stored, a lookup reads like the one that builds all its locators on the spot. -/
theorem Machine.IsAmbient.spelling_ask {machine : Machine} (ambient : machine.IsAmbient)
    {locator : Placeholder} {path : ElementPath}
    (stored : machine.value locator.token = Call.newLocator path.own) (lookup : Lookup) :
    machine.spelling (Call.callRead Role.navigator.placeholder.token (Call.methodText lookup.method)
        (.token locator.token :: plain (Call.furtherArguments path.ancestors))) =
      Direct.ask lookup.method path := by
  rw [ambient.spelling_call rfl, spelling_cons_token, spelling_plain, stored, Direct.ask,
    Call.text_locateLineage]

/-- A call is no line that stores something. -/
theorem Machine.binding?_call (object method : String) (read : List Symbol) :
    binding? (Call.callRead object (Call.methodText method) read) = none := by
  simp [Call.callRead, Call.methodText, plain, binding?]

/-- While something is stored in `source`, something else may be stored and checked. -/
theorem Stores.checked {scope : Pool} {statements emitted : List String} {source found : Placeholder}
    {stored text result : String} {read : List Symbol} (check : Check)
    (first : Stores scope statements emitted source stored) (sourcePlays : source.PlaysRole)
    (foundLocal : found.IsLocal) (foundNew : found ∉ scope) (differ : source ≠ found)
    (reading : symbols text.toList = read)
    (spelled : ∀ machine : Machine, machine.IsAmbient → machine.value source.token = stored →
      machine.spelling read = result) :
    Stores scope
      (statements ++ [found.token ++ " = " ++ text,
        Role.testContext.placeholder.token ++ "->" ++ check.method ++ "(" ++ found.token ++ ")"])
      (emitted ++ [Direct.call .testContext check.method result]) source stored := by
  have checkReads := (Call.reads_check check (reads_token foundLocal.playsRole.legible)).symbols_eq
  have emits := Machine.binding?_call Role.testContext.placeholder.token check.method
    [.token found.token]
  have ran (machine : Machine) :
      machine.run [found.token ++ " = " ++ text,
          Role.testContext.placeholder.token ++ "->" ++ check.method ++ "(" ++ found.token ++ ")"] =
        ((machine.step (found.token ++ " = " ++ text)).emit
          ((Call.callRead Role.testContext.placeholder.token (Call.methodText check.method)
            [.token found.token]).map (machine.step (found.token ++ " = " ++ text)).resolve)) :=
    Machine.step_emits _ checkReads emits
  constructor
  · intro machine ambient
    have before := first.output machine ambient
    have value := first.value machine ambient
    have ambientBefore := ambient.run statements
    have ambientAfter := ambientBefore.step (found.token ++ " = " ++ text)
    rw [Machine.run_append, ran, Machine.output_emit, Machine.output_step_line _ foundLocal, before,
      ← Machine.spelling, ambientAfter.spelling_call_token rfl,
      Machine.value_step_line _ foundLocal, reading, spelled _ ambientBefore value,
      List.append_assoc]
  · intro machine ambient
    rw [Machine.run_append, ran, Machine.value_emit,
      Machine.value_step_line_of_ne _ foundLocal sourcePlays differ]
    exact first.value machine ambient
  · intro machine other member plays differs noWindow
    -- What is stored for the check is new to the scope, so nothing that the scope holds is lost.
    have noFound : other ≠ found := by
      rintro rfl
      exact foundNew member
    rw [Machine.run_append, ran, Machine.value_emit,
      Machine.value_step_line_of_ne _ foundLocal plays noFound]
    exact first.frame machine other member plays differs noWindow

/-!
### Elements and attributes
-/

open Role (elementLocator presence)

/-- A path is looked up after a check, and what it stores reads as one direct question. The locator and
    the answer to the check drop out. -/
theorem stores_lookup (path : ElementPath) {target : Placeholder} (isLocal : target.IsLocal)
    (probe query : Lookup) {scope : Pool} (room : scope.size + 1 < UInt32.size) :
    Stores scope ((Binding.lookup path target probe query).runIn scope).1.toFragment.statements
      [Direct.call .testContext "assertTrue" (Direct.ask probe.method path)] target
      (Direct.ask query.method path) := by
  let inner := (scope.fresh elementLocator.name).2
  have innerRoom : inner.size + 0 < UInt32.size :=
    (Pool.extends_fresh scope elementLocator.name).room room
  have locatorLocal := Placeholder.isLocal_fresh scope elementLocator rfl
  have foundLocal := Placeholder.isLocal_fresh inner presence rfl
  have foundNew := Pool.fresh_not_mem presence.name innerRoom
  have reading (lookup : Lookup) := (Call.reads_navigate lookup
    (Call.readsAs_locateStored locatorLocal.playsRole.legible path).text).symbols_eq
  have located := stores_line scope locatorLocal (Call.isPlain_newLocator path.own).symbols_eq
    (fun machine _ => machine.spelling_plain (Call.newLocator path.own))
  have checked := located.checked .isTrue locatorLocal.playsRole foundLocal
    (fun member => foundNew (Pool.mem_fresh.mpr (Or.inl member)))
    (fun same => foundNew (Pool.mem_fresh.mpr (Or.inr same.symm))) (reading probe)
    (fun _ ambient stored => ambient.spelling_ask stored probe)
  refine checked.line isLocal (reading query)
    (fun _ ambient stored => ambient.spelling_ask stored query) ?_
  intro other member _ _
  exact ⟨member, Pool.ne_fresh_of_mem _ (by omega) member⟩

/-- The one element of a path is asked for by name, after a check that there is one. -/
theorem stores_element (path : ElementPath) {target : Placeholder} (isLocal : target.IsLocal)
    {scope : Pool} (room : scope.size + 1 < UInt32.size) :
    Stores scope ((Binding.element path target).runIn scope).1.toFragment.statements
      [Direct.call .testContext "assertTrue" (Direct.ask "hasOne" path)] target
      (Direct.ask "findOne" path) :=
  stores_lookup path isLocal .hasOne .findOne room

/-- All elements of a path are asked for by name, after a check that there are any. -/
theorem stores_collection (path : ElementPath) {target : Placeholder} (isLocal : target.IsLocal)
    {scope : Pool} (room : scope.size + 1 < UInt32.size) :
    Stores scope ((Binding.collection path target).runIn scope).1.toFragment.statements
      [Direct.call .testContext "assertTrue" (Direct.ask "has" path)] target
      (Direct.ask "find" path) :=
  stores_lookup path isLocal .has .find room

/-- Looking a path up asks for five placeholders. -/
theorem extends_lookup (path : ElementPath) (target : Placeholder) (probe query : Lookup)
    (scope : Pool) :
    scope.Extends ((Binding.lookup path target probe query).runIn scope).2 5 :=
  ((((Pool.extends_fresh scope elementLocator.name).trans (Pool.extends_fresh _ presence.name)).trans
    (Pool.extends_create _ Role.navigator.name)).trans
      (Pool.extends_create _ Role.testContext.name)).trans
        (Pool.extends_create _ Role.navigator.name)

/-- An assignment that runs after another one may use what that one has stored. -/
theorem Stores.assign {scope inner : Pool} {emitted : List String} {stored : Assignment}
    {holder target : Placeholder} {source : Fragment} {held text result : String} {read : List Symbol}
    (first : Stores inner stored.toFragment.statements emitted holder held) (isLocal : target.IsLocal)
    (only : source.statements = [text]) (reading : symbols text.toList = read)
    (spelled : ∀ machine : Machine, machine.IsAmbient → machine.value holder.token = held →
      machine.spelling read = result)
    (within : ∀ other ∈ scope, other ≠ target → other ≠ Role.windowSize.placeholder →
      other ∈ inner ∧ other ≠ holder) :
    Stores scope
      ((Assignment.ofFragment target source).precededBy [stored.toFragment]).toFragment.statements
      emitted target result := by
  have split : source.statements = [] ++ [text] := only
  rw [Assignment.statements_toFragment [stored.toFragment] split, List.flatMap_singleton,
    List.nil_append]
  exact first.line isLocal reading spelled within

/-- Once the elements have been stored and checked, the value of a form field reads as one expression. -/
theorem stores_fieldValue (path : ElementPath) {target : Placeholder} (isLocal : target.IsLocal)
    {scope : Pool} (room : scope.size + 2 < UInt32.size) :
    Stores scope ((Binding.fieldValue path target).runIn scope).1.toFragment.statements
      (Direct.guards (.element path)) target
      (Direct.call .inspector "getValue" (Direct.ask "find" path)) := by
  let inner := (scope.fresh Role.collection.name).2
  have innerRoom : inner.size + 1 < UInt32.size :=
    (Pool.extends_fresh scope Role.collection.name).room room
  have elementsLocal := Placeholder.isLocal_fresh scope .collection rfl
  have lookedUp := stores_collection path elementsLocal innerRoom
  obtain ⟨text, only, reads⟩ := Call.readsAs_readField elementsLocal.playsRole.legible scope
  refine lookedUp.assign isLocal only reads.symbols_eq ?_ ?_
  · intro machine ambient stored
    rw [ambient.spelling_call_token rfl, stored]
  · intro other member _ _
    exact ⟨Pool.mem_fresh.mpr (Or.inl member), Pool.ne_fresh_of_mem _ (by omega) member⟩

theorem append_attributeCall (owner name : String) :
    owner ++ Binding.attributeCall name =
      owner ++ "->getAttribute(" ++ Text.Quoted.literal name ++ ")" := by
  unfold Binding.attributeCall
  simp only [String.append_assoc]

/-- Once its element has been stored and checked, the value of an attribute reads as one expression. -/
theorem stores_attributeValue (path : AttributePath) {target : Placeholder} (isLocal : target.IsLocal)
    {scope : Pool} (room : scope.size + 2 < UInt32.size) :
    Stores scope ((Binding.attributeValue path target).runIn scope).1.toFragment.statements
      (Direct.guards (.elementAttribute path)) target
      (Direct.ask "findOne" path.element ++ "->getAttribute(" ++ Text.Quoted.literal path.name ++ ")") := by
  let inner := (scope.fresh Role.element.name).2
  have innerRoom : inner.size + 1 < UInt32.size :=
    (Pool.extends_fresh scope Role.element.name).room room
  have ownerLocal := Placeholder.isLocal_fresh scope .element rfl
  have lookedUp := stores_element path.element ownerLocal innerRoom
  have reads := (reads_token ownerLocal.playsRole.legible).append (isPlain_attributeCall path.name)
  refine lookedUp.assign isLocal rfl reads.symbols_eq ?_ ?_
  · intro machine ambient stored
    rw [List.singleton_append, Machine.spelling_cons_token, stored, Machine.spelling_plain,
      append_attributeCall]
  · intro other member _ _
    exact ⟨Pool.mem_fresh.mpr (Or.inl member), Pool.ne_fresh_of_mem _ (by omega) member⟩

/-!
### Scalar values
-/

theorem Machine.IsAmbient.spelling_client {machine : Machine} (ambient : machine.IsAmbient)
    (method : String) :
    machine.spelling (.token Role.client.placeholder.token :: plain ("->" ++ method ++ "()")) =
      Direct.call .client method "" := by
  rw [spelling_cons_token, ambient.value_mention rfl, spelling_plain, Direct.call_empty]
  simp only [String.append_assoc]

theorem Machine.IsAmbient.spelling_windowCall {machine : Machine} (ambient : machine.IsAmbient) :
    machine.spelling (.token Role.client.placeholder.token :: plain windowCall) =
      Direct.windowSize := by
  have text : windowCall = "->" ++ "getWebDriver" ++ "()" ++ "->manage()->window()->getSize()" := by
    decide
  rw [spelling_cons_token, ambient.value_mention rfl, spelling_plain, text, Direct.windowSize,
    Direct.call_empty]
  simp only [String.append_assoc]

/-- The size of the window goes through a shared placeholder, and reads as if it were asked for twice. -/
theorem stores_windowSize (scope : Pool) {target : Placeholder} (isLocal : target.IsLocal) :
    Stores scope (Assignment.ofFragment target Rule.windowSize).toFragment.statements [] target
      ("(string) " ++ Direct.windowSize ++ "->getWidth() . 'x' . (string) " ++ Direct.windowSize ++
        "->getHeight()") := by
  have sized := stores_line scope (Placeholder.isLocal_role .windowSize rfl)
    reads_windowCall.symbols_eq (fun _ ambient => ambient.spelling_windowCall)
  refine sized.line isLocal reads_windowText.symbols_eq ?_ ?_
  · intro machine _ stored
    simp only [Machine.spelling_append, Machine.spelling_cons_token, stored, Machine.spelling_plain,
      String.append_assoc]
  · intro other member _ noWindow
    exact ⟨member, noWindow⟩

theorem stores_clientCall (scope : Pool) {target : Placeholder} (isLocal : target.IsLocal)
    {method : String} (isPlain : IsPlain method) :
    Stores scope (Assignment.ofFragment target (Rule.clientCall method)).toFragment.statements []
      target (Direct.call .client method "") :=
  stores_line scope isLocal
    (Call.reads_methodCall (Call.legible_role .client) isPlain).symbols_eq
    (fun _ ambient => ambient.spelling_client method)

/-- A scalar value is stored as its direct expression, without any guard. -/
theorem stores_access {value : Value} {fallback : String} {access : Fragment} (inert : Inert fallback)
    (found : value.access? fallback = some access) {target : Placeholder} (isLocal : target.IsLocal)
    (scope : Pool) :
    ∃ text, Direct.value? fallback value = some text ∧
      Stores scope (Assignment.ofFragment target access).toFragment.statements
        (Direct.guards value) target text := by
  cases Value.source_of_access? found with
  | literal text =>
      exact ⟨_, rfl, stores_line scope isLocal (Placeholder.isPlain_literal text).symbols_eq
        (fun machine _ => machine.spelling_plain _)⟩
  | environment ref =>
      refine ⟨_, rfl, stores_line scope isLocal
        (symbols_fallback (reads_parameter ref.property) inert) ?_⟩
      intro machine ambient
      rw [List.cons_append, Machine.spelling_cons_token, ambient.value_mention rfl,
        Machine.spelling_append, Machine.spelling_plain, Machine.spelling_plain]
      simp only [String.append_assoc]
  | windowSize size => exact ⟨_, if_pos size, stores_windowSize scope isLocal⟩
  | title title =>
      exact ⟨_, if_pos title, stores_clientCall scope isLocal (isPlain_of_not_mem (by decide))⟩
  | @address ref url =>
      have other : ref.property ≠ "title" := by
        rw [url]
        decide
      refine ⟨_, ?_, stores_clientCall scope isLocal (isPlain_of_not_mem (by decide))⟩
      rw [Direct.value?, if_neg other, if_pos url]

/-!
### Operands
-/

/-- A value of any kind is stored as its direct expression, after its guards. -/
theorem stores_storing {value : Value} {fallback : String} {target : Placeholder}
    {computation : Scoped Assignment} (inert : Inert fallback) (isLocal : target.IsLocal)
    (found : value.storing? target fallback = some computation) {scope : Pool}
    (room : scope.size + 2 < UInt32.size) :
    ∃ text, Direct.value? fallback value = some text ∧
      Stores scope (computation.runIn scope).1.toFragment.statements (Direct.guards value) target
        text := by
  obtain ⟨path, rfl, rfl⟩ | ⟨path, rfl, named, rfl⟩ | ⟨access, accessed, rfl⟩ :=
    Value.storing?_cases found
  · exact ⟨_, rfl, stores_fieldValue path isLocal room⟩
  · exact ⟨_, if_pos named, stores_attributeValue path isLocal room⟩
  · exact stores_access inert accessed isLocal scope

/-- A cast in place stores the same expression with the cast before it. -/
theorem Stores.castTo {scope : Pool} {emitted : List String} {stored : Assignment}
    {target : Placeholder} {cast text : String}
    (first : Stores scope stored.toFragment.statements emitted target text) (inert : Inert cast)
    (isLocal : target.IsLocal) :
    Stores scope (Binder.castTo cast target stored).toFragment.statements emitted target
      (Direct.cast cast text) := by
  refine first.assign isLocal rfl (reads_cast inert isLocal.playsRole.legible).symbols_eq ?_ ?_
  · intro machine _ held
    rw [Machine.spelling_append, Machine.spelling_plain, Machine.spelling_cons_token, held,
      Machine.spelling_nil, String.append_empty]
    rfl
  · intro other member noTarget _
    exact ⟨member, noTarget⟩

theorem extends_fieldValue (path : ElementPath) (target : Placeholder) (scope : Pool) :
    scope.Extends ((Binding.fieldValue path target).runIn scope).2 7 := by
  have allocated := Pool.extends_fresh scope Role.collection.name
  have lookedUp := extends_lookup path (scope.fresh Role.collection.name).1 .has .find
    (scope.fresh Role.collection.name).2
  exact (allocated.trans lookedUp).trans (Pool.extends_create _ Role.inspector.name)

theorem extends_attributeValue (path : AttributePath) (target : Placeholder) (scope : Pool) :
    scope.Extends ((Binding.attributeValue path target).runIn scope).2 6 := by
  have allocated := Pool.extends_fresh scope Role.element.name
  have lookedUp := extends_lookup path.element (scope.fresh Role.element.name).1 .hasOne .findOne
    (scope.fresh Role.element.name).2
  exact allocated.trans lookedUp

/-- Storing a value asks for seven placeholders at most, so that a scope does not run out of numbers. -/
theorem extends_storing {value : Value} {fallback : String} {target : Placeholder}
    {computation : Scoped Assignment} (found : value.storing? target fallback = some computation)
    (scope : Pool) : scope.Extends (computation.runIn scope).2 7 := by
  obtain ⟨path, _, rfl⟩ | ⟨path, _, _, rfl⟩ | ⟨access, _, rfl⟩ := Value.storing?_cases found
  · exact extends_fieldValue path target scope
  · exact (extends_attributeValue path target scope).mono (by decide)
  · exact (Pool.Extends.refl scope).mono (by decide)

/-!
### Whole nodes

A node starts in an empty scope and allocates its own placeholders first. Its operands are stored one
after the other, each leaving the earlier ones alone, and the last statement puts them together.
-/

/-- One operand is stored, and the last statement uses it. -/
theorem Stores.effects {scope : Pool} {statements emitted : List String} {target : Placeholder}
    {text call : String} {read : List Symbol} (result : String)
    (stored : Stores scope statements emitted target text)
    (reading : symbols call.toList = read) (emits : Machine.binding? read = none)
    (spelled : ∀ machine : Machine, machine.IsAmbient → machine.value target.token = text →
      machine.spelling read = result) :
    (Machine.start.run (statements ++ [call])).output = emitted ++ [result] := by
  have ambient := Machine.isAmbient_start
  have value := stored.value Machine.start ambient
  rw [Machine.run_append, Machine.run_singleton, Machine.output_step_emits _ reading emits,
    stored.output Machine.start ambient, spelled _ (ambient.run statements) value]
  rfl

/-- Two operands are stored one after the other; the second one finds the first in its scope. -/
theorem Stores.effects_pair {scope between : Pool} {firstLines firstEmitted secondLines
    secondEmitted : List String} {first second : Placeholder} {firstText secondText call : String}
    {read : List Symbol} (result : String)
    (firstStored : Stores scope firstLines firstEmitted first firstText)
    (secondStored : Stores between secondLines secondEmitted second secondText)
    (firstPlays : first.PlaysRole) (inScope : first ∈ between) (differ : first ≠ second)
    (noWindow : first ≠ Role.windowSize.placeholder) (reading : symbols call.toList = read)
    (emits : Machine.binding? read = none)
    (spelled : ∀ machine : Machine, machine.IsAmbient → machine.value first.token = firstText →
      machine.value second.token = secondText → machine.spelling read = result) :
    (Machine.start.run (firstLines ++ (secondLines ++ [call]))).output =
      firstEmitted ++ secondEmitted ++ [result] := by
  have ambient := Machine.isAmbient_start.run firstLines
  have kept := secondStored.frame (Machine.start.run firstLines) first inScope firstPlays differ noWindow
  rw [firstStored.value Machine.start Machine.isAmbient_start] at kept
  have value := secondStored.value (Machine.start.run firstLines) ambient
  rw [Machine.run_append, Machine.run_append, Machine.run_singleton,
    Machine.output_step_emits _ reading emits, secondStored.output _ ambient,
    firstStored.output Machine.start Machine.isAmbient_start,
    spelled _ (ambient.run secondLines) kept value]
  rfl

/-- Calling a method without arguments stores nothing. -/
theorem Machine.binding?_methodCall (object method : String) :
    binding? (.token object :: plain ("->" ++ method ++ "()")) = none := by
  simp [plain, binding?]

/-- The client is part of the surroundings, so leading it to another page is an effect. -/
theorem effects_crawl {call : String} (isPlain : IsPlain call) :
    (Rule.crawl call).effects =
      [Direct.mention .crawler ++ " = " ++ Direct.mention .client ++ "->" ++ call] := by
  have emits : Machine.binding? (.token Role.crawler.placeholder.token :: plain " = " ++
      .token Role.client.placeholder.token :: plain ("->" ++ call)) = none := by
    have environment : Placeholder.isEnvironmentToken Role.crawler.placeholder.token = true :=
      Placeholder.isEnvironmentToken_iff.mpr ⟨.crawler, rfl, rfl⟩
    simp [Machine.binding?, plain, environment]
  have ambient := Machine.isAmbient_start
  have output := Machine.output_step_emits Machine.start (reads_crawl isPlain).symbols_eq emits
  rw [List.cons_append, Machine.spelling_cons_token, Machine.spelling_append,
    Machine.spelling_cons_token, ambient.value_mention rfl, ambient.value_mention rfl,
    Machine.spelling_plain, Machine.spelling_plain] at output
  refine output.trans ?_
  simp only [String.append_assoc]
  rfl

/-- The effects of an operand and a call after it. -/
theorem Fragment.effects_concat_pair (first : Fragment) (call : String)
    (placeholders : List Placeholder) :
    (concat [first, ofStatement call placeholders]).effects =
      (Machine.start.run (first.statements ++ [call])).output := by
  simp [Fragment.effects, ofStatement]

/-- The effects of two operands and a call after them. -/
theorem Fragment.effects_concat_triple (first second : Fragment) (call : String)
    (placeholders : List Placeholder) :
    (concat [first, second, ofStatement call placeholders]).effects =
      (Machine.start.run (first.statements ++ (second.statements ++ [call]))).output := by
  simp [Fragment.effects, ofStatement]

/-- Each form that the source of an action can take has the effects of the action. -/
theorem Action.Source.effects_eq {settings : Settings} {action : Action} {fragment : Fragment}
    (inert : settings.Inert) (source : Action.Source settings action fragment) :
    Direct.action? settings action = some fragment.effects := by
  cases source with
  | wait found =>
      have isLocal := Placeholder.isLocal_role .duration rfl
      obtain ⟨text, direct, stored⟩ := stores_storing (by decide) isLocal found
        (show (Pool.ofNames [Role.duration.name]).size + 2 < UInt32.size by decide)
      have slept := (stored.castTo inert.durationCast isLocal).effects
        ("usleep(" ++ Direct.cast settings.durationCast text ++ " * 1000)")
        (reads_sleep isLocal.playsRole.legible).symbols_eq (by simp [Machine.binding?, plain]) (by
          intro machine _ held
          rw [Machine.spelling_append, Machine.spelling_plain, Machine.spelling_cons_token, held,
            Machine.spelling_plain, String.append_assoc])
      rw [Direct.action?, direct, Fragment.effects_concat_pair, slept]
      rfl
  | navigate kind =>
      have led : [Direct.lead kind.name ""] = (Rule.crawl (kind.name ++ "()")).effects := by
        rw [effects_crawl (isPlain_navigation kind), Direct.lead, Direct.call_empty]
        simp only [String.append_assoc]
      refine Eq.trans ?_ (congrArg some led)
      cases kind <;> rfl
  | @act kind path direct =>
      have isLocal := Placeholder.isLocal_role .element rfl
      have found := stores_element path isLocal
        (show (Pool.ofNames [Role.element.name]).size + 1 < UInt32.size by decide)
      have acted := found.effects (Direct.ask "findOne" path ++ "->" ++ kind.name ++ "()")
        (Call.reads_methodCall isLocal.playsRole.legible (isPlain_interaction kind)).symbols_eq
        (Machine.binding?_methodCall _ _) (by
          intro machine _ held
          rw [Machine.spelling_cons_token, held, Machine.spelling_plain]
          simp only [String.append_assoc])
      rw [Fragment.effects_concat_pair]
      refine Eq.trans ?_ (congrArg some acted.symm)
      -- To wait for an element is to lead the crawler, so only two kinds are left to call.
      cases kind with
      | click => rfl
      | submit => rfl
      | waitFor => exact absurd rfl direct
  | waitFor path =>
      rw [effects_crawl (isPlain_waitFor path.own.text)]
      have method : "waitFor(" = "waitFor" ++ "(" := by decide
      simp only [Direct.action?, Direct.lead, Direct.call, method, String.append_assoc]
  | @input path value _ fields between found lookedUp =>
      have fieldsLocal := Placeholder.isLocal_role .collection rfl
      have valueLocal := Placeholder.isLocal_role .value rfl
      have fieldsStored := stores_collection path fieldsLocal
        (show (Pool.ofNames [Role.collection.name, Role.value.name]).size + 1 < UInt32.size by decide)
      have grown := extends_lookup path Role.collection.placeholder .has .find
        (Pool.ofNames [Role.collection.name, Role.value.name])
      obtain rfl : _ = fields := congrArg Prod.fst lookedUp
      obtain rfl : _ = between := congrArg Prod.snd lookedUp
      -- The value is stored in the scope that the lookup has left, so it takes none of the lookup's helpers.
      obtain ⟨text, direct, valueStored⟩ := stores_storing inert.absentDefault valueLocal found
        (grown.room (by decide))
      have filled := fieldsStored.effects_pair
        (Direct.call .mutator "setValue"
          (Direct.ask "find" path ++ ", " ++ Direct.cast settings.valueCast text))
        (valueStored.castTo inert.valueCast valueLocal) fieldsLocal.playsRole
        (grown.mem (Pool.mem_ofNames.mpr ⟨_, List.mem_cons_self, rfl⟩)) (by decide) (by decide)
        (Call.reads_fillField fieldsLocal.playsRole.legible valueLocal.playsRole.legible).symbols_eq
        (Machine.binding?_call _ _ _) (by
          intro machine ambient fieldsHeld valueHeld
          rw [ambient.spelling_call_pair rfl, fieldsHeld, valueHeld])
      rw [Direct.action?, direct]
      exact congrArg some (filled.symm.trans (Fragment.effects_concat_triple _ _ _ _).symm)

/-- What is not an element is read before it is checked. -/
theorem Direct.assertion?_examine (settings : Settings) {examined : Value} (comparison : Comparison)
    (noElement : ∀ path, examined ≠ .element path) :
    assertion? settings (.examine examined comparison) = do
      let method ← presenceMethod? "assertNotNull" "assertNull" comparison
      let expression ← value? settings.absentDefault examined
      return guards examined ++ [call .testContext method expression] := by
  cases examined with
  | element path => exact absurd rfl (noElement path)
  | _ => rfl

/-- A single statement that stores nothing is its own effect. -/
theorem Fragment.ReadsAs.effects {fragment : Fragment} {read : List Symbol}
    (readsAs : fragment.ReadsAs read) (emits : Machine.binding? read = none) :
    fragment.effects = [Machine.start.spelling read] := by
  obtain ⟨text, only, reads⟩ := readsAs
  rw [Fragment.effects, only, Machine.run_singleton,
    Machine.output_step_emits _ reads.symbols_eq emits]
  rfl

/-- Each form that the source of an assertion can take has the effects of the assertion. -/
theorem Assertion.Source.effects_eq {settings : Settings} {assertion : Assertion}
    {fragment : Fragment} (inert : settings.Inert)
    (source : Assertion.Source settings assertion fragment) :
    Direct.assertion? settings assertion = some fragment.effects := by
  cases source with
  | @elementPresence comparison expected path asked =>
      have ambient := Machine.isAmbient_start
      have found := Call.readsAs_navigate .has (Call.readsAs_locateLineage path) ∅
      have checked := Call.readsAs_checkExpression (if expected then .isTrue else .isFalse) found ∅
      have effects := checked.effects (Machine.binding?_call _ _ _)
      rw [ambient.spelling_call rfl, ambient.spelling_call rfl, Machine.spelling_plain] at effects
      rw [Direct.assertion?, Direct.presenceMethod?_eq, asked]
      refine congrArg some (Eq.trans ?_ effects.symm)
      cases expected <;> rfl
  | @presence examined comparison expected computation asked noElement found =>
      have isLocal := Placeholder.isLocal_role .examinedValue rfl
      obtain ⟨text, direct, stored⟩ := stores_storing inert.absentDefault isLocal found
        (show (Pool.ofNames [Role.examinedValue.name]).size + 2 < UInt32.size by decide)
      let check : Check := if expected then .isNotNull else .isNull
      have checked := stored.effects (Direct.call .testContext check.method text)
        (Call.reads_check check (reads_token isLocal.playsRole.legible)).symbols_eq
        (Machine.binding?_call _ _ _) (by
          intro machine ambient held
          rw [ambient.spelling_call_token rfl, held])
      have target := Value.target_storing? found (Pool.ofNames [Role.examinedValue.name])
      rw [Direct.assertion?_examine settings comparison noElement, Direct.presenceMethod?_eq, asked,
        direct]
      refine congrArg some (Eq.trans ?_ (checked.symm.trans ?_))
      · cases expected <;> rfl
      · rw [← target]
        exact (Fragment.effects_concat_pair _ _ _).symm
  | @compare examined expected _ method _ _ stored between asked foundExamined foundExpected ran =>
      have examinedLocal := Placeholder.isLocal_role .examinedValue rfl
      have expectedLocal := Placeholder.isLocal_role .expectedValue rfl
      let scope := Pool.ofNames [Role.examinedValue.name, Role.expectedValue.name]
      obtain ⟨actual, directActual, examinedStored⟩ := stores_storing inert.absentDefault
        examinedLocal foundExamined (show scope.size + 2 < UInt32.size by decide)
      have grown := extends_storing foundExamined scope
      rw [ran] at examinedStored grown
      obtain ⟨wanted, directWanted, expectedStored⟩ := stores_storing inert.absentDefault
        expectedLocal foundExpected
        (grown.room (by decide))
      have compared := (examinedStored.castTo inert.valueCast examinedLocal).effects_pair
        (Direct.call .testContext method
          (Direct.cast settings.valueCast wanted ++ ", " ++ Direct.cast settings.valueCast actual))
        (expectedStored.castTo inert.valueCast expectedLocal) examinedLocal.playsRole
        (grown.mem (Pool.mem_ofNames.mpr ⟨_, List.mem_cons_self, rfl⟩)) (by decide) (by decide)
        (Call.reads_compareStored (isPlain_comparisonMethod asked) expectedLocal.playsRole.legible
          examinedLocal.playsRole.legible).symbols_eq
        (Machine.binding?_call _ _ _) (by
          intro machine ambient actualHeld wantedHeld
          rw [ambient.spelling_call_pair rfl, wantedHeld, actualHeld])
      rw [Direct.assertion?, Direct.comparisonMethod?_eq, asked, directActual, directWanted]
      exact congrArg some (compared.symm.trans (Fragment.effects_concat_triple _ _ _ _).symm)

/-- Executed symbolically, the source of an action or of an assertion emits exactly the effects that
    the node asks for. -/
theorem Weaver.effects_eq_direct (settings : Settings) (inert : settings.Inert) :
    (∀ action fragment, (ofSettings settings).actions.weave action = .ok fragment →
      Direct.action? settings action = some fragment.effects) ∧
    ∀ assertion fragment, (ofSettings settings).assertions.weave assertion = .ok fragment →
      Direct.assertion? settings assertion = some fragment.effects :=
  ⟨fun _ _ woven => (Action.source_of_weave woven).effects_eq inert,
    fun _ _ woven => (Assertion.source_of_weave woven).effects_eq inert⟩

-- Both operands are elements, so both need a locator, a check and a list of elements of their own.
theorem Weaver.effects_eq_direct_elements :
    let node : Assertion :=
      .compare (.element ⟨.ofText "p", [.ofText "//q"]⟩) .unequal (.element ⟨.ofText "p", []⟩)
    Settings.standard.Inert ∧
      ∃ fragment, (ofSettings .standard).assertions.weave node = .ok fragment ∧
        Direct.assertion? .standard node = some fragment.effects := by
  intro node
  obtain ⟨fragment, woven⟩ : ∃ fragment, (ofSettings .standard).assertions.weave node = .ok fragment :=
    ⟨_, rfl⟩
  exact ⟨Settings.inert_standard, fragment, woven,
    (effects_eq_direct .standard Settings.inert_standard).2 node fragment woven⟩

end StepWeaver
