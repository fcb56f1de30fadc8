/-
Module: StepWeaver.Proofs.Sessions
Layer: Proofs
Purpose: Requests that share a scope do not overwrite each other. A session allocates a target and carries
  out a request for it, again and again, in one scope that starts empty. Whatever the requests and however
  many they are, no two of them assign to the same placeholder, but for the size of the window. One request
  assigns to each placeholder once, and to its target a second time if it casts what it has stored or
  compares it with null.
Main exports: Request, Request.perform, Session, Request.exists_allots, Session.bindings_disjoint
-/
import StepWeaver.Proofs.Bindings

namespace StepWeaver

open Placeholder (canonical numbered)
open Statement (assignedAll)

/-!
### Requests
-/

/-- Something that is to be stored. -/
inductive Request where
  | element (path : ElementPath)
  | collection (path : ElementPath)
  | fieldValue (path : ElementPath)
  | elementAttribute (path : AttributePath)
  | scalar (operand : Value) (fallback : String)
  | value (operand : Value)
  | valueAs (operand : Value) (cast fallback : String)
  | presence (operand : Value)

namespace Request

/-- Stores what a request asks for. -/
def perform (binder : Binder) (target : Placeholder) : Request → Attempt Assignment
  | .element path => liftM (Binding.element path target)
  | .collection path => liftM (Binding.collection path target)
  | .fieldValue path => liftM (Binding.fieldValue path target)
  | .elementAttribute path => Binding.elementAttribute path target
  | .scalar operand fallback => liftM (binder.scalar operand target fallback)
  | .value operand => binder.value operand target
  | .valueAs operand cast fallback => binder.valueAs operand target cast fallback
  | .presence operand => binder.presence operand target

/-- The names of the placeholders that a request takes from the scope, in the order in which it does. -/
def helpers : Request → List String
  | .element _ | .collection _ => Binding.lookupHelpers
  | .fieldValue path => (Value.element path).helpers
  | .elementAttribute path => (Value.elementAttribute path).helpers
  | .scalar _ _ | .presence (.element _) => []
  | .value operand | .valueAs operand _ _ | .presence operand => operand.helpers

/-- The placeholders that a request fills although it did not take them from the scope. -/
def shared : Request → List Placeholder
  | .scalar operand _ | .value operand | .valueAs operand _ _ | .presence operand => operand.shared
  | _ => []

/-- What replaces the stored value in the end: a cast of it, or whether it is anything at all. -/
def revision? (settings : Settings) (target : Placeholder) : Request → Option String
  | .value _ => some ("(" ++ settings.valueCast ++ ") " ++ target.token)
  | .valueAs _ cast _ => some ("(" ++ cast ++ ") " ++ target.token)
  | .presence (.element _) => none
  | .presence _ => some (target.token ++ " !== null")
  | _ => none

end Request

/-- Whether a value is there is found out by storing it, but for an element. -/
theorem Binder.exists_of_presence_eq_ok {settings : Settings} {operand : Value} {target : Placeholder}
    {scope after : Pool} {stored : Assignment} (noElement : ∀ path, operand ≠ .element path)
    (done : ((ofSettings settings).presence operand target).runIn scope = (.ok stored, after)) :
    ∃ computation plain, operand.storing? target settings.absentDefault = some computation ∧
      computation.runIn scope = (plain, after) ∧ stored = notNull plain target := by
  apply exists_of_map_uncast_eq_ok
  cases operand with
  | element path => exact absurd rfl (noElement path)
  | elementAttribute path | environment ref | browser ref | page ref => exact done
  | literal text | dataParameter ref | elementParameter ref | pageElement ref => cases done

/-- The name of a target is not the one that is shared, and it has no colon, which would look like a
    number, and no brace, which could end a token. -/
structure IsTargetName (name : String) : Prop where
  notShared : name ≠ Role.windowSize.name
  noColon : ':' ∉ name.toList
  noBrace : '}' ∉ name.toList

/-- Every role but the shared one may name a target. -/
theorem isTargetName_role {role : Role} (notShared : role ≠ .windowSize) : IsTargetName role.name where
  notShared same := notShared (Role.name_injective same)
  noColon := by cases role <;> decide
  noBrace := by cases role <;> decide

/-- A target that is named so can be read back from its token. -/
theorem IsTargetName.legible {placeholder : Placeholder} (targetName : IsTargetName placeholder.name) :
    placeholder.Legible := by
  intro closes
  have brace : '}' ∈ ' ' :: placeholder.name.toList := closes.subset (by decide)
  rcases List.mem_cons.mp brace with blank | inName
  · exact absurd blank (by decide)
  · exact targetName.noBrace inName

theorem IsTargetName.legible_fresh {name : String} (targetName : IsTargetName name) (scope : Pool) :
    (scope.fresh name).1.Legible := by
  apply IsTargetName.legible
  rw [Pool.fresh_name]
  exact targetName

namespace Request

variable {settings : Settings} {target : Placeholder} {scope after : Pool} {stored : Assignment}

/-- The lines that revise what a request has stored. -/
def revisions (settings : Settings) (target : Placeholder) (request : Request) : List String :=
  (request.revision? settings target).toList.map fun text => target.token ++ " = " ++ text

/-- A request that is carried out stores something with helpers of its own, and then it may revise what
    it has stored. -/
theorem exists_allots {request : Request}
    (done : (request.perform (Binder.ofSettings settings) target).runIn scope = (.ok stored, after)) :
    ∃ plain, plain.target = target ∧ Binding.Allots request.helpers request.shared scope (plain, after) ∧
      stored.toFragment.statements =
        plain.toFragment.statements ++ request.revisions settings target := by
  -- Without a revision, and with one: in both cases what matters is the computation that stores.
  have unrevised {computation : Scoped Assignment} {names : List String}
      (allots : Binding.Allots names [] scope (computation.runIn scope))
      (own : (computation.runIn scope).1.target = target)
      (done : (liftM computation : Attempt Assignment).runIn scope = (.ok stored, after)) :
      ∃ plain, plain.target = target ∧ Binding.Allots names [] scope (plain, after) ∧
        stored.toFragment.statements = plain.toFragment.statements ++ [] := by
    rw [Attempt.runIn_of_lift done] at allots own
    exact ⟨stored, own, allots, (List.append_nil _).symm⟩
  have viaStoring {operand : Value} {fallback : String} {computation : Scoped Assignment}
      {plain : Assignment} (found : operand.storing? target fallback = some computation)
      (ran : computation.runIn scope = (plain, after)) :
      plain.target = target ∧ Binding.Allots operand.helpers operand.shared scope (plain, after) := by
    have own := Value.target_storing? found scope
    have allots := Value.allots_storing? found scope
    rw [ran] at own allots
    exact ⟨own, allots⟩
  cases request with
  | element path => exact unrevised (Binding.allots_lookup path target .hasOne .findOne scope) rfl done
  | collection path => exact unrevised (Binding.allots_lookup path target .has .find scope) rfl done
  | fieldValue path => exact unrevised (Binding.allots_fieldValue path target scope) rfl done
  | elementAttribute path =>
      rw [perform, Binding.elementAttribute_eq] at done
      split at done
      · exact unrevised (Binding.allots_attributeValue path target scope) rfl done
      · cases done
  | scalar operand fallback =>
      rw [perform, Attempt.runIn_ofExcept, Binder.scalar_eq, Prod.mk.injEq] at done
      obtain ⟨result, rfl⟩ := done
      split at result
      · cases result
      · next access _ accessed =>
        obtain rfl := Except.ok.inj result
        refine ⟨_, rfl, ⟨?_, fun _ member => member, id⟩, (List.append_nil _).symm⟩
        rw [helpers, Pool.freshAll, List.append_nil]
        exact Value.fillsAfter_access? accessed target
      · cases result
  | value operand =>
      obtain ⟨computation, plain, found, ran, rfl⟩ := Binder.exists_of_valueAs_eq_ok done
      obtain ⟨own, allots⟩ := viaStoring found ran
      exact ⟨plain, own, allots, Assignment.statements_revise target _ plain⟩
  | valueAs operand cast fallback =>
      obtain ⟨computation, plain, found, ran, rfl⟩ := Binder.exists_of_valueAs_eq_ok done
      obtain ⟨own, allots⟩ := viaStoring found ran
      exact ⟨plain, own, allots, Assignment.statements_revise target _ plain⟩
  | presence operand =>
      cases operand with
      | element path =>
          obtain ⟨rfl, rfl⟩ := Prod.mk.inj (Attempt.runIn_of_lift done)
          refine ⟨_, rfl, ⟨Assignment.fillsAfter_of_only rfl, ?_, ?_⟩, (List.append_nil _).symm⟩
          · intro placeholder member
            exact Pool.mem_create.mpr (Or.inl member)
          · intro sound
            exact sound.insert Role.navigator.placeholder
      | elementAttribute path | environment ref | browser ref | page ref =>
          rw [perform] at done
          obtain ⟨computation, plain, found, ran, rfl⟩ :=
            Binder.exists_of_presence_eq_ok (by intro _ same; cases same) done
          obtain ⟨own, allots⟩ := viaStoring found ran
          exact ⟨plain, own, allots, Assignment.statements_revise target _ plain⟩
      | literal text | dataParameter ref | elementParameter ref | pageElement ref => cases done

/-!
### The placeholders of a request
-/

theorem helpers_subset (request : Request) : request.helpers ⊆ Value.helperNames := by
  cases request with
  | element path => exact Value.lookupHelpers_subset
  | collection path => exact Value.lookupHelpers_subset
  | fieldValue path => exact (Value.element path).helpers_subset
  | elementAttribute path => exact (Value.elementAttribute path).helpers_subset
  | scalar operand fallback => exact List.nil_subset _
  | value operand => exact operand.helpers_subset
  | valueAs operand cast fallback => exact operand.helpers_subset
  | presence operand =>
      cases operand with
      | elementAttribute path => exact (Value.elementAttribute path).helpers_subset
      | _ => exact List.nil_subset _

theorem shared_cases (request : Request) :
    request.shared = [] ∨ request.shared = [Role.windowSize.placeholder] := by
  cases request with
  | scalar operand fallback => exact operand.shared_cases
  | value operand => exact operand.shared_cases
  | valueAs operand cast fallback => exact operand.shared_cases
  | presence operand => exact operand.shared_cases
  | element path | collection path | fieldValue path | elementAttribute path => exact Or.inl rfl

/-- The placeholders that a request takes from a scope: its target, and then its helpers. -/
def batch (request : Request) (scope : Pool) (name : String) : List Placeholder :=
  (scope.freshAll (name :: request.helpers)).1

variable {request : Request} {name : String} {placeholder : Placeholder}

/-- Everything a request takes from a scope is named like a target. -/
theorem isTargetName_of_mem_batch (targetName : IsTargetName name)
    (member : placeholder ∈ request.batch scope name) : IsTargetName placeholder.name := by
  rcases List.mem_cons.mp (Pool.name_mem_of_mem_freshAll member) with same | helper
  · rw [same]
    exact targetName
  · obtain ⟨role, notShared, named⟩ := Value.role_of_mem_helperNames (request.helpers_subset helper)
    rw [named]
    exact isTargetName_role notShared

/-- What a request fills, it fills under tokens that differ from each other. -/
theorem nodup_tokens (sound : scope.Sound) (targetName : IsTargetName name)
    (affords : scope.Affords (name :: request.helpers)) :
    ((request.shared ++ request.batch scope name).map Placeholder.token).Nodup := by
  have batch : (request.batch scope name).Nodup := Pool.nodup_freshAll sound affords
  have clean : ∀ placeholder ∈ request.batch scope name, ':' ∉ placeholder.name.toList :=
    fun _ member => (isTargetName_of_mem_batch targetName member).noColon
  have own : ((request.batch scope name).map Placeholder.token).Nodup := by
    apply batch.map_on
    intro one oneMember other otherMember same
    exact Placeholder.eq_of_token_eq (clean one oneMember) (clean other otherMember) same
  rcases request.shared_cases with none | size
  · rw [none, List.nil_append]
    exact own
  · rw [size, List.singleton_append, List.map_cons, List.nodup_cons]
    refine ⟨?_, own⟩
    intro again
    obtain ⟨placeholder, member, same⟩ := List.mem_map.mp again
    have windowSize : placeholder = Role.windowSize.placeholder :=
      Placeholder.eq_of_token_eq (clean placeholder member) (by decide) same
    exact (isTargetName_of_mem_batch targetName member).notShared (congrArg Placeholder.name windowSize)

/-- A request fills each of its placeholders once, the target last, and then it may revise the target. -/
theorem exists_lines (targetName : IsTargetName name)
    (done : (request.perform (Binder.ofSettings settings) (scope.fresh name).1).runIn
      (scope.fresh name).2 = (.ok stored, after)) :
    ∃ setup value,
      stored.toFragment.statements =
        setup ++ ((scope.fresh name).1.token ++ " = " ++ value) ::
          request.revisions settings (scope.fresh name).1 ∧
      (assignedAll (setup ++ [(scope.fresh name).1.token ++ " = " ++ value])).Perm
        ((request.shared ++ request.batch scope name).map Placeholder.token) := by
  obtain ⟨plain, own, allots, lines⟩ := exists_allots done
  obtain ⟨setup, value, plainLines, assigned⟩ := allots.fills
  rw [own] at plainLines
  refine ⟨setup, value, ?_, ?_⟩
  · rw [lines, plainLines, List.append_assoc, List.singleton_append]
  · rw [Statement.assignedAll_append, Statement.assignedAll_line (targetName.legible_fresh scope)]
    exact (List.perm_append_singleton _ _).trans
      ((assigned.cons _).trans (List.perm_middle.symm.map Placeholder.token))

/-- A revision assigns to the target and to nothing else. -/
theorem assignedAll_revisions (legible : target.Legible) :
    assignedAll (request.revisions settings target) ⊆ [target.token] := by
  rw [revisions]
  cases request.revision? settings target with
  | none => exact List.nil_subset _
  | some text =>
      intro token member
      have line := Statement.assignedAll_line legible text
      exact line ▸ member

/-- Whatever a request assigns to is the size of the window or comes from its batch. -/
theorem assigned_cases (targetName : IsTargetName name)
    (done : (request.perform (Binder.ofSettings settings) (scope.fresh name).1).runIn
      (scope.fresh name).2 = (.ok stored, after)) {token : String}
    (member : token ∈ assignedAll stored.toFragment.statements) :
    token = Role.windowSize.placeholder.token ∨
      ∃ placeholder ∈ request.batch scope name, placeholder.token = token := by
  obtain ⟨setup, value, lines, assigned⟩ := exists_lines targetName done
  rw [lines, List.append_cons, Statement.assignedAll_append, List.mem_append] at member
  rcases member with early | late
  · obtain ⟨placeholder, listed, same⟩ := List.mem_map.mp (assigned.subset early)
    rcases List.mem_append.mp listed with inShared | inBatch
    · rcases request.shared_cases with none | size
      · rw [none] at inShared
        exact absurd inShared List.not_mem_nil
      · rw [size, List.mem_singleton] at inShared
        rw [← same, inShared]
        exact Or.inl rfl
    · exact Or.inr ⟨placeholder, inBatch, same⟩
  · have revised := assignedAll_revisions (targetName.legible_fresh scope) late
    exact Or.inr ⟨(scope.fresh name).1, List.mem_cons_self, (List.mem_singleton.mp revised).symm⟩

/-- The scope keeps what it held and what the request took from it. -/
theorem kept (done : (request.perform (Binder.ofSettings settings) (scope.fresh name).1).runIn
      (scope.fresh name).2 = (.ok stored, after))
    (member : placeholder ∈ scope ∨ placeholder ∈ request.batch scope name) : placeholder ∈ after := by
  obtain ⟨plain, _, allots, _⟩ := exists_allots done
  have inBatch : placeholder ∈ (scope.freshAll (name :: request.helpers)).2 :=
    Pool.mem_freshAll.mpr member
  exact allots.kept placeholder inBatch

end Request

/-!
### Sessions
-/

/-- What a session has stored for one request. -/
structure Entry where
  request : Request
  target : Placeholder
  stored : Assignment

namespace Entry

/-- The statements that carry out the request. -/
def statements (entry : Entry) : List String := entry.stored.toFragment.statements

/-- The line that stores a value in the target. -/
def line (entry : Entry) (value : String) : String := entry.target.token ++ " = " ++ value

/-- The tokens on the left-hand sides of the statements. -/
def assigned (entry : Entry) : List String := assignedAll entry.statements

end Entry

/-- Requests that are carried out one after the other in a scope, and the scope after them. The scope
    starts empty, and each target is allocated in it just before its request. Every search for a fresh
    placeholder ends; a search among numbers that are all taken would never end, and give nothing. -/
inductive Session (settings : Settings) : List Entry → Pool → Prop
  | start : Session settings [] ∅
  | next {entries : List Entry} {scope after : Pool} {name : String} {request : Request}
      {stored : Assignment} (earlier : Session settings entries scope) (targetName : IsTargetName name)
      (affords : scope.Affords (name :: request.helpers))
      (done : (request.perform (Binder.ofSettings settings) (scope.fresh name).1).runIn
        (scope.fresh name).2 = (.ok stored, after)) :
      Session settings (entries ++ [⟨request, (scope.fresh name).1, stored⟩]) after

namespace Session

variable {settings : Settings} {entries : List Entry} {scope : Pool}

/-- The scope of a session stays sound, so a search in it never skips a free number. -/
theorem sound (session : Session settings entries scope) : scope.Sound := by
  induction session with
  | start => exact Pool.sound_of_isEmpty rfl
  | next earlier targetName affords done ih =>
      obtain ⟨plain, _, allots, _⟩ := Request.exists_allots done
      exact allots.sound (ih.fresh _)

/-- The scope remembers what has been assigned to. -/
theorem exists_mem_scope (session : Session settings entries scope) :
    ∀ entry ∈ entries, ∀ token ∈ entry.assigned,
      token = Role.windowSize.placeholder.token ∨
        ∃ placeholder ∈ scope, ':' ∉ placeholder.name.toList ∧ placeholder.token = token := by
  induction session with
  | start =>
      intro entry member
      exact absurd member List.not_mem_nil
  | next earlier targetName affords done ih =>
      intro entry member token assigned
      rcases List.mem_append.mp member with before | last
      · rcases ih entry before token assigned with size | ⟨placeholder, inScope, clean, same⟩
        · exact Or.inl size
        · exact Or.inr ⟨placeholder, Request.kept done (Or.inl inScope), clean, same⟩
      · obtain rfl := List.mem_singleton.mp last
        rcases Request.assigned_cases targetName done assigned with size | ⟨placeholder, own, same⟩
        · exact Or.inl size
        · have clean := (Request.isTargetName_of_mem_batch targetName own).noColon
          exact Or.inr ⟨placeholder, Request.kept done (Or.inr own), clean, same⟩

/-- Whatever is requested and however often, no two requests of a session assign to the same placeholder,
    but for the size of the window. The statements of one request assign to nothing twice, up to the line
    that stores the value in its target; after that line there is at most one more, which casts the value
    in its place or compares it with null. -/
theorem bindings_disjoint (session : Session settings entries scope) :
    entries.Pairwise (fun one other => ∀ token ∈ one.assigned, token ∈ other.assigned →
      token = Role.windowSize.placeholder.token) ∧
    ∀ entry ∈ entries, ∃ setup value,
      entry.statements = setup ++ entry.line value ::
        (entry.request.revision? settings entry.target).toList.map entry.line ∧
      (assignedAll (setup ++ [entry.line value])).Nodup := by
  induction session with
  | start => exact ⟨List.Pairwise.nil, fun entry member => absurd member List.not_mem_nil⟩
  | next earlier targetName affords done ih =>
      obtain ⟨disjoint, once⟩ := ih
      constructor
      · apply List.pairwise_append.mpr
        refine ⟨disjoint, List.pairwise_singleton _ _, ?_⟩
        intro one before other last token assigned again
        obtain rfl := List.mem_singleton.mp last
        rcases earlier.exists_mem_scope one before token assigned with
          size | ⟨placeholder, inScope, clean, same⟩
        · exact size
        · rcases Request.assigned_cases targetName done again with size | ⟨own, inBatch, same'⟩
          · exact size
          · -- The token of the later request is new, so it cannot be one that the scope holds.
            have ownClean := (Request.isTargetName_of_mem_batch targetName inBatch).noColon
            obtain rfl := Placeholder.eq_of_token_eq clean ownClean (same.trans same'.symm)
            exact absurd inScope (Pool.not_mem_of_mem_freshAll earlier.sound affords inBatch)
      · intro entry member
        rcases List.mem_append.mp member with before | last
        · exact once entry before
        · obtain rfl := List.mem_singleton.mp last
          obtain ⟨setup, value, lines, assigned⟩ := Request.exists_lines targetName done
          have distinct := Request.nodup_tokens earlier.sound targetName affords
          exact ⟨setup, value, lines, assigned.nodup_iff.mpr distinct⟩

-- Both targets have the name of a helper: the first lookup has to make way for its own target, and the
-- second target for the first lookup.
theorem bindings_disjoint_role_names :
    ∃ entries scope, Session .standard entries scope ∧
      entries.map Entry.request =
        [.collection ⟨.ofText ".a", []⟩, .value (.element ⟨.ofText ".b", []⟩)] ∧
      entries.map Entry.target = [canonical "HAS", numbered "ELEMENT_LOCATOR" 2] ∧
      entries.Pairwise (fun one other => ∀ token ∈ one.assigned, token ∈ other.assigned →
        token = Role.windowSize.placeholder.token) ∧
      ∀ entry ∈ entries, ∃ setup value,
        entry.statements = setup ++ entry.line value ::
          (entry.request.revision? .standard entry.target).toList.map entry.line ∧
        (assignedAll (setup ++ [entry.line value])).Nodup := by
  have presence : IsTargetName "HAS" := isTargetName_role (show Role.presence ≠ .windowSize by decide)
  have locator : IsTargetName "ELEMENT_LOCATOR" :=
    isTargetName_role (show Role.elementLocator ≠ .windowSize by decide)
  have first := @next .standard [] ∅ _ "HAS" (.collection ⟨.ofText ".a", []⟩) _ start presence
    (by decide +kernel) rfl
  have second := @next .standard _ _ _ "ELEMENT_LOCATOR" (.value (.element ⟨.ofText ".b", []⟩)) _ first
    locator (by decide +kernel) rfl
  exact ⟨_, _, second, rfl, by decide +kernel, bindings_disjoint second⟩

end Session

end StepWeaver
