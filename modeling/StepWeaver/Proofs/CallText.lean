/-
Module: StepWeaver.Proofs.CallText
Layer: Proofs
Purpose: How the calls of generated source are read. Locators and attribute calls are plain text, since
  all that a user writes stands in literals; lookups, checks and form calls hold exactly the tokens
  that they were built from.
Main exports: Call.furtherArguments, Call.isPlain_newLocator, Fragment.ReadsAs,
  Call.readsAs_locateStored, Call.readsAs_navigate, Call.readsAs_checkExpression
-/
import StepWeaver.Binding
import StepWeaver.Proofs.Allocation
import StepWeaver.Rule.Value

namespace StepWeaver

open Placeholder (IsPlain Reads Symbol plain symbols isPlain_of_not_mem reads_token)

theorem isPlain_comma : IsPlain ", " := isPlain_of_not_mem (by decide)

theorem isPlain_arrow : IsPlain "->" := isPlain_of_not_mem (by decide)

theorem isPlain_bracket : IsPlain ")" := isPlain_of_not_mem (by decide)

namespace Call

/-!
### Locators
-/

theorem isPlain_toString (n : Int) : IsPlain (toString n) :=
  isPlain_of_not_mem (Placeholder.not_mem_toString_int (by decide) (by decide) n)

/-- The expression that builds a locator holds no token: what the user wrote stands in a literal. -/
theorem isPlain_newLocator (locator : Locator) : IsPlain (newLocator locator) := by
  have constructed : IsPlain "new ElementLocator(LocatorType::" := isPlain_of_not_mem (by decide)
  have kind : IsPlain (kindConstant locator.kind) := by
    cases locator.kind <;> exact isPlain_of_not_mem (by decide)
  have text := Placeholder.isPlain_literal locator.text
  have position := isPlain_toString locator.position.toInt
  exact (((((constructed.append kind).append isPlain_comma).append text).append isPlain_comma).append
    position).append isPlain_bracket

/-- The arguments that follow the first one: the locators of what the element is looked for in. -/
def furtherArguments : List Locator → String
  | [] => ""
  | locator :: locators => ", " ++ newLocator locator ++ furtherArguments locators

/-- A list of arguments is its first one followed by the further ones. -/
theorem intercalate_newLocator (first : String) (locators : List Locator) :
    ", ".intercalate (first :: locators.map newLocator) = first ++ furtherArguments locators := by
  induction locators generalizing first with
  | nil => rw [List.map_nil, String.intercalate_singleton, furtherArguments, String.append_empty]
  | cons locator locators ih =>
      rw [List.map_cons, String.intercalate_cons_cons, ih, furtherArguments]
      simp only [String.append_assoc]

/-- The further arguments hold no token either. -/
theorem isPlain_furtherArguments (locators : List Locator) : IsPlain (furtherArguments locators) := by
  induction locators with
  | nil => exact isPlain_of_not_mem (by decide)
  | cons locator locators ih => exact (isPlain_comma.append (isPlain_newLocator locator)).append ih

/-- All arguments of a lookup: the locator of the element itself, and then the further ones. -/
theorem text_locateLineage (path : ElementPath) :
    (locateLineage path).text = newLocator path.own ++ furtherArguments path.ancestors := by
  rw [Fragment.text, locateLineage, String.intercalate_singleton, ElementPath.lineage, List.map_cons,
    intercalate_newLocator]

end Call

/-- The fragment is one statement, which has the symbols `read` whatever follows it. -/
def Fragment.ReadsAs (fragment : Fragment) (read : List Symbol) : Prop :=
  ∃ text, fragment.statements = [text] ∧ Reads text read

/-- The text of a fragment of one statement is that statement. -/
theorem Fragment.ReadsAs.text {fragment : Fragment} {read : List Symbol}
    (readsAs : fragment.ReadsAs read) : Reads fragment.text read := by
  obtain ⟨text, only, reads⟩ := readsAs
  rwa [Fragment.text, only, String.intercalate_singleton]

namespace Call

/-- A locator is read as plain text. -/
theorem readsAs_locate (path : ElementPath) : (locate path).ReadsAs (plain (newLocator path.own)) :=
  ⟨_, rfl, isPlain_newLocator path.own⟩

/-- The arguments that locate an element on the spot are read as plain text. -/
theorem readsAs_locateLineage (path : ElementPath) :
    (locateLineage path).ReadsAs (plain (locateLineage path).text) := by
  refine ⟨_, rfl, ?_⟩
  rw [text_locateLineage, ElementPath.lineage, List.map_cons, intercalate_newLocator]
  exact (isPlain_newLocator path.own).append (isPlain_furtherArguments path.ancestors)

/-- If the first locator has been stored, its token is the only one among the arguments. -/
theorem readsAs_locateStored {stored : Placeholder} (legible : stored.Legible) (path : ElementPath) :
    (locateStored stored path).ReadsAs
      (.token stored.token :: plain (furtherArguments path.ancestors)) := by
  refine ⟨_, rfl, ?_⟩
  rw [intercalate_newLocator]
  exact (reads_token legible).append (isPlain_furtherArguments path.ancestors)

theorem isPlain_lookupMethod (lookup : Lookup) : IsPlain lookup.method := by
  cases lookup <;> exact isPlain_of_not_mem (by decide)

theorem isPlain_checkMethod (check : Check) : IsPlain check.method := by
  cases check <;> exact isPlain_of_not_mem (by decide)

/-- The tokens of all roles can be read. -/
theorem legible_role (role : Role) : role.placeholder.Legible :=
  Placeholder.PlaysRole.legible ⟨role, rfl⟩

/-- The symbols of a call: the object, the method up to the bracket, the arguments, the bracket. -/
def callRead (object method : String) (arguments : List Symbol) : List Symbol :=
  .token object :: plain method ++ arguments ++ plain ")"

/-- A call mentions its object and what its arguments mention. -/
@[simp] theorem tokens_callRead (object method : String) (arguments : List Symbol) :
    Placeholder.tokens (callRead object method arguments) =
      object :: Placeholder.tokens arguments := by
  simp [callRead]

/-- A call is read as its object, its method and its arguments, whatever follows it. -/
theorem reads_call {object : Placeholder} {method arguments : String} {read : List Symbol}
    (legible : object.Legible) (isPlain : IsPlain method) (reads : Reads arguments read) :
    Reads (object.token ++ method ++ arguments ++ ")") (callRead object.token method read) :=
  (((reads_token legible).append isPlain).append reads).append isPlain_bracket

/-- What stands between object and arguments in a call of a method. -/
def methodText (method : String) : String := "->" ++ method ++ "("

theorem isPlain_methodText {method : String} (isPlain : IsPlain method) :
    IsPlain (methodText method) := by
  have opened : IsPlain "(" := isPlain_of_not_mem (by decide)
  exact (isPlain_arrow.append isPlain).append opened

/-- A question to the navigator is read as a call with the arguments of the question. -/
theorem reads_navigate (lookup : Lookup) {arguments : String} {read : List Symbol}
    (reads : Reads arguments read) :
    Reads (Role.navigator.placeholder.token ++ "->" ++ lookup.method ++ "(" ++ arguments ++ ")")
      (callRead Role.navigator.placeholder.token (methodText lookup.method) read) := by
  have call := reads_call (legible_role .navigator)
    (isPlain_methodText (isPlain_lookupMethod lookup)) reads
  simpa only [methodText, String.append_assoc] using call

/-- Asking the navigator gives one statement, which is read as a call. -/
theorem readsAs_navigate (lookup : Lookup) {arguments : Fragment} {read : List Symbol}
    (readsAs : arguments.ReadsAs read) (scope : Pool) :
    ((navigate lookup arguments).runIn scope).1.ReadsAs
      (callRead Role.navigator.placeholder.token (methodText lookup.method) read) :=
  ⟨_, rfl, reads_navigate lookup readsAs.text⟩

/-- A check is read as a call with what is checked as its argument. -/
theorem reads_check (check : Check) {argument : String} {read : List Symbol}
    (reads : Reads argument read) :
    Reads (Role.testContext.placeholder.token ++ "->" ++ check.method ++ "(" ++ argument ++ ")")
      (callRead Role.testContext.placeholder.token (methodText check.method) read) := by
  have call := reads_call (legible_role .testContext)
    (isPlain_methodText (isPlain_checkMethod check)) reads
  simpa only [methodText, String.append_assoc] using call

/-- Checking an expression gives one statement, which is read as a call. -/
theorem readsAs_checkExpression (check : Check) {expression : Fragment} {read : List Symbol}
    (readsAs : expression.ReadsAs read) (scope : Pool) :
    ((checkExpression check expression).runIn scope).1.ReadsAs
      (callRead Role.testContext.placeholder.token (methodText check.method) read) :=
  ⟨_, rfl, reads_check check readsAs.text⟩

/-- Reading a form field gives one statement, which mentions the inspector and the elements. -/
theorem readsAs_readField {collection : Placeholder} (legible : collection.Legible) (scope : Pool) :
    ((readField collection).runIn scope).1.ReadsAs
      (callRead Role.inspector.placeholder.token (methodText "getValue")
        [.token collection.token]) := by
  have text : methodText "getValue" = "->getValue(" := by decide
  have method : IsPlain "->getValue(" := isPlain_of_not_mem (by decide)
  rw [text]
  exact ⟨_, rfl, reads_call (legible_role .inspector) method (reads_token legible)⟩

/-- The symbols of a call with two stored arguments. -/
theorem reads_pair {object first second : Placeholder} {method : String} (legible : object.Legible)
    (isPlain : IsPlain method) (firstLegible : first.Legible) (secondLegible : second.Legible) :
    Reads (object.token ++ method ++ first.token ++ ", " ++ second.token ++ ")")
      (callRead object.token method
        (.token first.token :: plain ", " ++ [.token second.token])) := by
  have arguments := ((reads_token firstLegible).append isPlain_comma).append
    (reads_token secondLegible)
  have call := reads_call legible isPlain arguments
  simpa only [String.append_assoc, List.append_assoc, List.singleton_append] using call

/-- A comparison mentions the expected value before the examined one. -/
theorem reads_compareStored {method : String} (isPlain : IsPlain method)
    {expected examined : Placeholder} (expectedLegible : expected.Legible)
    (examinedLegible : examined.Legible) :
    Reads (Role.testContext.placeholder.token ++ "->" ++ method ++ "(" ++ expected.token ++ ", " ++
        examined.token ++ ")")
      (callRead Role.testContext.placeholder.token (methodText method)
        (.token expected.token :: plain ", " ++ [.token examined.token])) := by
  have call := reads_pair (legible_role .testContext) (isPlain_methodText isPlain) expectedLegible
    examinedLegible
  simpa only [methodText, String.append_assoc] using call

/-- Filling a form field mentions the elements before the value. -/
theorem reads_fillField {fields value : Placeholder} (fieldsLegible : fields.Legible)
    (valueLegible : value.Legible) :
    Reads (Role.mutator.placeholder.token ++ "->setValue(" ++ fields.token ++ ", " ++ value.token ++
        ")")
      (callRead Role.mutator.placeholder.token (methodText "setValue")
        (.token fields.token :: plain ", " ++ [.token value.token])) := by
  have text : methodText "setValue" = "->setValue(" := by decide
  have method : IsPlain "->setValue(" := isPlain_of_not_mem (by decide)
  rw [text]
  exact reads_pair (legible_role .mutator) method fieldsLegible valueLegible

/-- The symbols of a call without arguments. -/
theorem reads_methodCall {object : Placeholder} {method : String} (legible : object.Legible)
    (isPlain : IsPlain method) :
    Reads (object.token ++ "->" ++ method ++ "()")
      (.token object.token :: plain ("->" ++ method ++ "()")) := by
  have brackets : IsPlain "()" := isPlain_of_not_mem (by decide)
  have call := (reads_token legible).append ((isPlain_arrow.append isPlain).append brackets)
  simpa only [String.append_assoc, List.singleton_append] using call

end Call

/-!
### Values and actions

The texts that settings choose may hold a brace, but no opening mark, so the text around them keeps
them plain.
-/

/-- The name of an attribute stands in a literal, so reading it mentions no token. -/
theorem isPlain_attributeCall (name : String) : IsPlain (Binding.attributeCall name) := by
  have method : IsPlain "->getAttribute(" := isPlain_of_not_mem (by decide)
  exact (method.append (Placeholder.isPlain_literal name)).append isPlain_bracket

/-- A cast cannot start a token with the text after it: a bracket and a blank stand between. -/
theorem isPlain_cast {cast : String} (inert : Placeholder.Inert cast) :
    IsPlain ("(" ++ cast ++ ") ") := by
  have bracket : IsPlain "(" := isPlain_of_not_mem (by decide)
  have rest : IsPlain (cast ++ ") ") := by
    refine Placeholder.isPlain_of_inert (Placeholder.inert_append inert (by decide) (by decide)) ?_
    simp
  rw [String.append_assoc]
  exact bracket.append rest

/-- A cast mentions the placeholder after it and nothing else. -/
theorem reads_cast {cast : String} (inert : Placeholder.Inert cast) {target : Placeholder}
    (legible : target.Legible) :
    Reads ("(" ++ cast ++ ") " ++ target.token)
      (plain ("(" ++ cast ++ ") ") ++ [.token target.token]) :=
  Reads.append (isPlain_cast inert) (reads_token legible)

/-- A parameter of the environment stands in a literal, so only the environment is mentioned. -/
theorem reads_parameter (name : String) :
    Reads (Role.environment.placeholder.token ++ "[" ++ Text.Quoted.literal name ++ "]")
      (.token Role.environment.placeholder.token ::
        plain ("[" ++ Text.Quoted.literal name ++ "]")) := by
  have opened : IsPlain "[" := isPlain_of_not_mem (by decide)
  have closed : IsPlain "]" := isPlain_of_not_mem (by decide)
  have access := (reads_token (Call.legible_role .environment)).append
    ((opened.append (Placeholder.isPlain_literal name)).append closed)
  simpa only [String.append_assoc, List.singleton_append] using access

/-- A fallback is read as plain text. It ends the statement, so nothing can follow it. -/
theorem symbols_fallback {text fallback : String} {read : List Symbol} (reads : Reads text read)
    (inert : Placeholder.Inert fallback) :
    symbols (text ++ " ?? " ++ fallback).toList = read ++ plain (" ?? " ++ fallback) := by
  have sign : IsPlain " ?? " := isPlain_of_not_mem (by decide)
  rw [(reads.append sign).symbols_append, Placeholder.symbols_of_inert inert]
  simp [plain]

/-- The call that gives the size of the window, after the client. -/
def windowCall : String := "->getWebDriver()->manage()->window()->getSize()"

/-- The question for the size of the window mentions the client alone. -/
theorem reads_windowCall :
    Reads (Role.client.placeholder.token ++ windowCall)
      (.token Role.client.placeholder.token :: plain windowCall) := by
  have call : IsPlain windowCall := isPlain_of_not_mem (by decide)
  exact (reads_token (Call.legible_role .client)).append call

/-- The size of the window takes two statements: one asks for it and one puts it together. -/
theorem statements_windowSize :
    Rule.windowSize.statements =
      [Role.windowSize.placeholder.token ++ " = " ++ Role.client.placeholder.token ++ windowCall,
        "(string) " ++ Role.windowSize.placeholder.token ++ "->getWidth() . 'x' . (string) " ++
          Role.windowSize.placeholder.token ++ "->getHeight()"] := rfl

/-- Width and height are both taken from the size that has been stored. -/
theorem reads_windowText :
    Reads ("(string) " ++ Role.windowSize.placeholder.token ++ "->getWidth() . 'x' . (string) " ++
        Role.windowSize.placeholder.token ++ "->getHeight()")
      (plain "(string) " ++ .token Role.windowSize.placeholder.token ::
        plain "->getWidth() . 'x' . (string) " ++ .token Role.windowSize.placeholder.token ::
          plain "->getHeight()") := by
  have cast : IsPlain "(string) " := isPlain_of_not_mem (by decide)
  have width : IsPlain "->getWidth() . 'x' . (string) " := isPlain_of_not_mem (by decide)
  have height : IsPlain "->getHeight()" := isPlain_of_not_mem (by decide)
  have size := reads_token (Call.legible_role .windowSize)
  have text := (((Reads.append cast size).append width).append size).append height
  simpa only [List.append_assoc, List.singleton_append] using text

/-- A sleep mentions the duration that has been stored. -/
theorem reads_sleep {target : Placeholder} (legible : target.Legible) :
    Reads ("usleep(" ++ target.token ++ " * 1000)")
      (plain "usleep(" ++ .token target.token :: plain " * 1000)") := by
  have called : IsPlain "usleep(" := isPlain_of_not_mem (by decide)
  have factor : IsPlain " * 1000)" := isPlain_of_not_mem (by decide)
  have call := (Reads.append called (reads_token legible)).append factor
  simpa only [List.append_assoc, List.singleton_append] using call

/-- Leading the client to another page mentions crawler and client, in this order. -/
theorem reads_crawl {call : String} (isPlain : IsPlain call) :
    Reads (Role.crawler.placeholder.token ++ " = " ++ Role.client.placeholder.token ++ "->" ++ call)
      (.token Role.crawler.placeholder.token :: plain " = " ++
        .token Role.client.placeholder.token :: plain ("->" ++ call)) := by
  have sign : IsPlain " = " := isPlain_of_not_mem (by decide)
  have line := ((reads_token (Call.legible_role .crawler)).append sign).append
    ((reads_token (Call.legible_role .client)).append (isPlain_arrow.append isPlain))
  simpa only [String.append_assoc, List.append_assoc, List.singleton_append] using line

end StepWeaver
