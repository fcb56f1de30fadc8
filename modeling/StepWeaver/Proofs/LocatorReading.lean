/-
Module: StepWeaver.Proofs.LocatorReading
Layer: Proofs
Purpose: The arguments that locate an element read back as the lineage of the element. A reader takes
  expressions that build locators apart, one after the other, and gets the language, the text and the
  position of each of them, whatever the texts hold and however deep the element lies. So two paths are
  located by the same arguments only if their lineages agree.
Main exports: Text.Reader, Text.Reader.locator, Text.Reader.locators, Call.readArguments,
  Text.Reader.run_locator_append, Text.Reader.locators_append, Call.readArguments_locateLineage
-/
import Mathlib.Data.List.Forall2
import Mathlib.Data.List.TakeWhile
import StepWeaver.Proofs.CallText
import StepWeaver.Proofs.RoundTrip

namespace StepWeaver

/-- What the source says about a locator: all but what the test calls the element. -/
structure Locator.Criteria where
  kind : LocatorKind
  text : String
  position : Int
deriving DecidableEq, Repr

/-- What there is to say about a locator in the source. -/
def Locator.criteria (locator : Locator) : Locator.Criteria where
  kind := locator.kind
  text := locator.text
  position := locator.position.toInt

/-- Two locators are the same, but for what the test calls the element. -/
def Locator.Agrees (left right : Locator) : Prop :=
  left.kind = right.kind ∧ left.text = right.text ∧ left.position = right.position

/-- Source says the same about two locators exactly if they agree but for their names. -/
theorem Locator.criteria_inj {left right : Locator} :
    left.criteria = right.criteria ↔ left.Agrees right := by
  rw [criteria, criteria, Criteria.mk.injEq, Int32.toInt_inj]
  rfl

namespace Text

/-- Reads something at the front of a text, and gives it with what is left. -/
abbrev Reader (α : Type) : Type := StateT (List Char) Option α

namespace Reader

/-!
### Pieces of an expression
-/

/-- Reads a fixed text. -/
def expect (text : String) : Reader Unit := fun chars =>
  (text.toList.isPrefixOf? chars).map fun left => ((), left)

/-- Reads digits up to the first character that is none. -/
def natural : Reader Nat := fun chars =>
  match chars.takeWhile Char.isDigit with
  | [] => none
  | digits => some (Nat.ofDigitChars 10 digits 0, chars.dropWhile Char.isDigit)

/-- Reads an integer in decimal notation, with a sign if it is negative. -/
def integer : Reader Int :=
  (do expect "-"; return -(← natural)) <|> (do return ← natural)

/-- Reads the constant that stands for the language of a locator. -/
def kind : Reader LocatorKind :=
  (do expect "CSS_SELECTOR"; return .cssSelector) <|>
    (do expect "XPATH_EXPRESSION"; return .xpathExpression)

/-- Reads an expression that builds a locator. Its text is any concatenation of literals. -/
def locator : Reader Locator.Criteria := do
  expect "new ElementLocator(LocatorType::"
  let kind ← kind
  expect ", "
  let text ← Quoted.read
  expect ", "
  let position ← integer
  expect ")"
  return { kind, text := String.ofList text, position }

/-!
### No reader adds to the text

This is why reading one expression after the other comes to an end.
-/

/-- What is left is not longer than what was there. -/
def NonGrowing {α : Type} (reader : Reader α) : Prop :=
  ∀ ⦃chars left : List Char⦄ ⦃a : α⦄, reader.run chars = some (a, left) →
    left.length ≤ chars.length

variable {α β : Type}

/-- A sequence of readers succeeds in two steps. -/
theorem exists_of_run_bind_eq_some {reader : Reader α} {next : α → Reader β} {chars left : List Char}
    {b : β} (found : (reader >>= next).run chars = some (b, left)) :
    ∃ a between, reader.run chars = some (a, between) ∧ (next a).run between = some (b, left) := by
  rw [StateT.run_bind] at found
  obtain ⟨⟨a, between⟩, first, second⟩ := Option.bind_eq_some_iff.mp found
  exact ⟨a, between, first, second⟩

/-- Readers in sequence add nothing if none of them does. -/
theorem NonGrowing.bind {reader : Reader α} {next : α → Reader β} (first : reader.NonGrowing)
    (second : ∀ a, (next a).NonGrowing) : (reader >>= next).NonGrowing := by
  intro chars left b found
  obtain ⟨a, between, one, two⟩ := exists_of_run_bind_eq_some found
  exact (second a two).trans (first one)

theorem nonGrowing_pure (a : α) : (pure a : Reader α).NonGrowing := by
  intro chars left b found
  obtain ⟨_, rfl⟩ := Prod.mk.inj (Option.some.inj found)
  exact Nat.le_refl _

/-- A choice between readers adds nothing if neither of them does. -/
theorem NonGrowing.orElse {one other : Reader α} (first : one.NonGrowing) (second : other.NonGrowing) :
    (one <|> other).NonGrowing := by
  intro chars left a found
  rw [StateT.run_orElse] at found
  cases outcome : one.run chars with
  | none =>
      rw [outcome] at found
      exact second found
  | some result =>
      rw [outcome] at found
      exact first (outcome.trans found)

/-- A fixed text is read exactly if the input starts with it. -/
theorem run_expect_eq_some_iff {text : String} {chars left : List Char} :
    (expect text).run chars = some ((), left) ↔ text.toList ++ left = chars := by
  rw [← List.isPrefixOf?_eq_some_iff_append_eq]
  simp [expect, StateT.run]

theorem nonGrowing_expect (text : String) : (expect text).NonGrowing := by
  intro chars left _ found
  rw [← run_expect_eq_some_iff.mp found, List.length_append]
  exact Nat.le_add_left _ _

theorem nonGrowing_natural : natural.NonGrowing := by
  intro chars left number found
  change natural chars = some (number, left) at found
  rw [natural] at found
  split at found
  · cases found
  · obtain ⟨_, rfl⟩ := Prod.mk.inj (Option.some.inj found)
    exact List.length_dropWhile_le _ _

/-- With or without a sign, an integer is read from the front of the text. -/
theorem nonGrowing_integer : integer.NonGrowing := by
  apply NonGrowing.orElse
  · apply (nonGrowing_expect "-").bind
    intro _
    exact nonGrowing_natural.bind fun _ => nonGrowing_pure _
  · exact nonGrowing_natural.bind fun _ => nonGrowing_pure _

theorem nonGrowing_kind : kind.NonGrowing := by
  apply NonGrowing.orElse
  · exact (nonGrowing_expect _).bind fun _ => nonGrowing_pure _
  · exact (nonGrowing_expect _).bind fun _ => nonGrowing_pure _

/-- Reading a literal uses up characters and adds none. -/
theorem nonGrowing_literal : NonGrowing Quoted.read := by
  intro chars left text found
  change Quoted.read chars = some (text, left) at found
  rw [Quoted.read.eq_def] at found
  split at found
  · have shorter := Quoted.length_lt_of_readBody found
    rw [List.length_cons]
    omega
  · cases found

/-- A locator is read piece by piece, and no piece adds to the text. -/
theorem nonGrowing_locator : locator.NonGrowing := by
  apply (nonGrowing_expect _).bind
  intro _
  apply nonGrowing_kind.bind
  intro kind
  apply (nonGrowing_expect _).bind
  intro _
  apply nonGrowing_literal.bind
  intro text
  apply (nonGrowing_expect _).bind
  intro _
  apply nonGrowing_integer.bind
  intro position
  exact (nonGrowing_expect _).bind fun _ => nonGrowing_pure _

/-- After a locator and a comma there is less to read, which is why reading locators ends. -/
theorem length_lt_of_comma {chars left next : List Char} {criteria : Locator.Criteria}
    (found : locator.run chars = some (criteria, left))
    (comma : (expect ", ").run left = some ((), next)) : next.length < chars.length := by
  have shorter := nonGrowing_locator found
  rw [← run_expect_eq_some_iff.mp comma, List.length_append] at shorter
  have blank : ", ".toList.length = 2 := rfl
  omega

/-- Reads expressions that build locators, up to the first that no comma follows. -/
def locators (chars : List Char) : Option (List Locator.Criteria × List Char) :=
  match found : locator.run chars with
  | none => none
  | some (criteria, left) =>
    match comma : (expect ", ").run left with
    | none => some ([criteria], left)
    | some ((), next) =>
      have : next.length < chars.length := length_lt_of_comma found comma
      (locators next).map fun (further, left) => (criteria :: further, left)
termination_by chars.length

/-!
### Reading what has been written
-/

/-- In a sequence the second reader goes on where the first one stopped. -/
theorem run_bind_of_eq_some {reader : Reader α} {next : α → Reader β} {chars between : List Char}
    {a : α} (first : reader.run chars = some (a, between)) :
    (reader >>= next).run chars = (next a).run between := by
  rw [StateT.run_bind, first]
  rfl

/-- A fixed text is read where it has been written. -/
theorem run_expect_append (text : String) (rest : List Char) :
    (expect text).run (text.toList ++ rest) = some ((), rest) :=
  run_expect_eq_some_iff.mpr rfl

/-- What follows does not go on with digits. -/
def EndsDigits (rest : List Char) : Prop := ∀ c ∈ rest.head?, c.isDigit = false

/-- Digits are cut off where they end. -/
theorem takeWhile_isDigit_append {digits rest : List Char} (all : ∀ c ∈ digits, c.isDigit = true)
    (ends : EndsDigits rest) :
    (digits ++ rest).takeWhile Char.isDigit = digits ∧
      (digits ++ rest).dropWhile Char.isDigit = rest := by
  have none : rest.takeWhile Char.isDigit = [] ∧ rest.dropWhile Char.isDigit = rest := by
    cases rest with
    | nil => exact ⟨rfl, rfl⟩
    | cons c rest =>
        have noDigit : c.isDigit = false := ends c rfl
        simp [noDigit]
  rw [List.takeWhile_append_of_pos all, List.dropWhile_append_of_pos all, none.1, none.2]
  exact ⟨List.append_nil digits, rfl⟩

theorem toList_repr (number : Nat) : number.repr.toList = Nat.toDigits 10 number := by
  rw [Nat.repr_eq_ofList_toDigits, String.toList_ofList]

theorem isDigit_of_mem_digits (number : Nat) : ∀ c ∈ Nat.toDigits 10 number, c.isDigit = true :=
  fun _ member => Nat.isDigit_of_mem_toDigits (by decide) (by decide) member

/-- A number is read back from its decimal notation if no digit follows. -/
theorem run_natural_append (number : Nat) {rest : List Char} (ends : EndsDigits rest) :
    natural.run (number.repr.toList ++ rest) = some (number, rest) := by
  obtain ⟨taken, dropped⟩ := takeWhile_isDigit_append (isDigit_of_mem_digits number) ends
  change natural (number.repr.toList ++ rest) = some (number, rest)
  rw [natural, toList_repr, taken, dropped]
  split
  · next none => exact absurd none Nat.toDigits_ne_nil
  · rw [Nat.ofDigitChars_ten_toDigits]

theorem run_expect_eq_none {text : String} {chars : List Char} (missing : ¬ text.toList <+: chars) :
    (expect text).run chars = none := by
  cases outcome : (expect text).run chars with
  | none => rfl
  | some result => exact absurd ⟨result.2, run_expect_eq_some_iff.mp outcome⟩ missing

/-- The first reader of a choice wins if it succeeds. -/
theorem run_orElse_of_some {one : Reader α} (other : Reader α) {chars : List Char} {result : α × List Char}
    (first : one.run chars = some result) : (one <|> other).run chars = some result := by
  rw [StateT.run_orElse, first]
  rfl

/-- If the first reader of a choice fails, the second one starts at the same place. -/
theorem run_orElse_of_none {one : Reader α} (other : Reader α) {chars : List Char}
    (first : one.run chars = none) : (one <|> other).run chars = other.run chars := by
  rw [StateT.run_orElse, first]
  rfl

theorem run_bind_of_eq_none {reader : Reader α} (next : α → Reader β) {chars : List Char}
    (missing : reader.run chars = none) : (reader >>= next).run chars = none := by
  rw [StateT.run_bind, missing]
  rfl

/-- The decimal notation of a natural number does not start with a sign. -/
theorem not_minus_prefix_repr (number : Nat) (rest : List Char) :
    ¬ "-".toList <+: number.repr.toList ++ rest := by
  rw [toList_repr]
  rintro ⟨tail, same⟩
  cases digits : Nat.toDigits 10 number with
  | nil => exact absurd digits Nat.toDigits_ne_nil
  | cons c more =>
      rw [digits] at same
      obtain ⟨rfl, _⟩ := List.cons.inj same
      have sign := isDigit_of_mem_digits number '-' (digits ▸ List.mem_cons_self)
      exact absurd sign (by decide)

/-- An integer is read back from its decimal notation: the sign tells which way was taken. -/
theorem run_integer_append (number : Int) {rest : List Char} (ends : EndsDigits rest) :
    integer.run ((toString number).toList ++ rest) = some (number, rest) := by
  rw [Int.toString_eq_repr, Int.repr_eq_if]
  split
  · next nonNegative =>
    have unsigned := run_expect_eq_none (not_minus_prefix_repr number.toNat rest)
    have read : integer.run (number.toNat.repr.toList ++ rest) = some ((number.toNat : Int), rest) := by
      rw [integer, run_orElse_of_none _ (run_bind_of_eq_none _ unsigned),
        run_bind_of_eq_some (run_natural_append number.toNat ends)]
      rfl
    rw [read, Int.toNat_of_nonneg nonNegative]
  · next negative =>
    have read : integer.run ("-".toList ++ ((-number).toNat.repr.toList ++ rest)) =
        some (-((-number).toNat : Int), rest) := by
      apply run_orElse_of_some
      rw [run_bind_of_eq_some (run_expect_append "-" _),
        run_bind_of_eq_some (run_natural_append (-number).toNat ends)]
      rfl
    have value : -((-number).toNat : Int) = number := by omega
    rw [String.toList_append, List.append_assoc, read, value]

/-- The constants for the two languages are told apart. -/
theorem run_kind_append (locatorKind : LocatorKind) (rest : List Char) :
    kind.run ((Call.kindConstant locatorKind).toList ++ rest) = some (locatorKind, rest) := by
  cases locatorKind with
  | cssSelector => rfl
  | xpathExpression => rfl

/-- A literal is read back as its text, unless a joint follows that continues it. -/
theorem run_literal_append (text : String) {rest : List Char}
    (ends : ¬ Quoted.continuation <+: rest) :
    StateT.run Quoted.read ((Quoted.literal text).toList ++ rest) = some (text.toList, rest) := by
  rw [Quoted.toList_literal, List.cons_append, List.append_assoc, List.singleton_append]
  change Quoted.readBody (Quoted.encodeChars false text.toList ++ Quoted.quote :: rest) = _
  rw [Quoted.readBody_encodeChars_append, Quoted.readBody_quote_cons ends]
  simp

/-- The pieces of the expression that builds a locator, in the order of the reader. -/
theorem toList_newLocator_append (written : Locator) (rest : List Char) :
    (Call.newLocator written).toList ++ rest =
      "new ElementLocator(LocatorType::".toList ++ ((Call.kindConstant written.kind).toList ++
        (", ".toList ++ ((Quoted.literal written.text).toList ++ (", ".toList ++
          ((toString written.position.toInt).toList ++ (")".toList ++ rest)))))) := by
  -- The fixed texts are made opaque, or else rewriting would take them apart.
  unfold Call.newLocator
  generalize "new ElementLocator(LocatorType::" = start, ", " = comma, ")" = bracket
  simp only [String.toList_append, List.append_assoc]

/-- The expression that builds a locator reads back as its criteria, whatever follows: the comma after
    the literal cannot join a further one, and the bracket after the position cannot be a digit. -/
theorem run_locator_append (written : Locator) (rest : List Char) :
    locator.run ((Call.newLocator written).toList ++ rest) = some (written.criteria, rest) := by
  have bracket : EndsDigits (")".toList ++ rest) := by
    intro c first
    obtain rfl := Option.mem_some.mp first
    rfl
  have comma (more : List Char) : ¬ Quoted.continuation <+: ", ".toList ++ more := by
    rintro ⟨tail, same⟩
    exact absurd (List.cons.inj same).1 (by decide)
  rw [toList_newLocator_append, locator,
    run_bind_of_eq_some (run_expect_append "new ElementLocator(LocatorType::" _),
    run_bind_of_eq_some (run_kind_append written.kind _),
    run_bind_of_eq_some (run_expect_append ", " _),
    run_bind_of_eq_some (run_literal_append written.text (comma _)),
    run_bind_of_eq_some (run_expect_append ", " _),
    run_bind_of_eq_some (run_integer_append written.position.toInt bracket),
    run_bind_of_eq_some (run_expect_append ")" _), String.ofList_toList]
  rfl

/-- A locator that no comma follows is the last one. -/
theorem locators_of_last {chars left : List Char} {criteria : Locator.Criteria}
    (found : locator.run chars = some (criteria, left)) (last : ¬ ", ".toList <+: left) :
    locators chars = some ([criteria], left) := by
  rw [locators]
  split
  · next missing => cases missing.symm.trans found
  · next other between found' =>
    obtain ⟨rfl, rfl⟩ := Prod.mk.inj (Option.some.inj (found'.symm.trans found))
    split
    · rfl
    · next comma => cases comma.symm.trans (run_expect_eq_none last)

/-- A locator that a comma follows is one of several. -/
theorem locators_of_comma {chars next : List Char} {criteria : Locator.Criteria}
    (found : locator.run chars = some (criteria, ", ".toList ++ next)) :
    locators chars = (locators next).map fun (further, left) => (criteria :: further, left) := by
  rw [locators]
  split
  · next missing => cases missing.symm.trans found
  · next other between found' =>
    obtain ⟨rfl, rfl⟩ := Prod.mk.inj (Option.some.inj (found'.symm.trans found))
    have comma := run_expect_append ", " next
    split
    · next missing => cases missing.symm.trans comma
    · next further comma' =>
      obtain ⟨_, rfl⟩ := Prod.mk.inj (Option.some.inj (comma'.symm.trans comma))
      rfl

/-- Any number of locators in front of something that does not go on with a comma. -/
theorem locators_append (own : Locator) (ancestors : List Locator) {rest : List Char}
    (last : ¬ ", ".toList <+: rest) :
    locators ((Call.newLocator own ++ Call.furtherArguments ancestors).toList ++ rest) =
      some ((own :: ancestors).map Locator.criteria, rest) := by
  induction ancestors generalizing own with
  | nil =>
      have found := run_locator_append own rest
      rw [Call.furtherArguments, String.append_empty]
      exact locators_of_last found last
  | cons parent ancestors ih =>
      have found := run_locator_append own (", ".toList ++
        ((Call.newLocator parent ++ Call.furtherArguments ancestors).toList ++ rest))
      simp only [Call.furtherArguments, String.toList_append, List.append_assoc] at found ih ⊢
      rw [locators_of_comma found, ih parent]
      rfl

end Reader

end Text

namespace Call

open Text

/-- The locators that a list of arguments builds. The whole text has to be read. -/
def readArguments (text : String) : Option (List Locator.Criteria) :=
  match Reader.locators text.toList with
  | some (arguments, []) => some arguments
  | _ => none

/-- Written with commas between them, any number of locators read back as what they say. -/
theorem readArguments_intercalate (own : Locator) (ancestors : List Locator) :
    readArguments (", ".intercalate ((own :: ancestors).map newLocator)) =
      some ((own :: ancestors).map Locator.criteria) := by
  have nothing : ¬ ", ".toList <+: [] := by decide
  have found := Reader.locators_append own ancestors nothing
  rw [List.append_nil] at found
  rw [List.map_cons, intercalate_newLocator, readArguments, found]

/-- The name of a locator does not show in the source. -/
theorem newLocator_congr {left right : Locator} (agrees : left.Agrees right) :
    newLocator left = newLocator right := by
  obtain ⟨kind, text, position⟩ := agrees
  unfold newLocator
  rw [kind, text, position]

/-- Two lists have the same image exactly if their members have, one by one. -/
theorem map_eq_map_iff_forall₂ {α β : Type} {f : α → β} {left right : List α} :
    left.map f = right.map f ↔ List.Forall₂ (fun a b => f a = f b) left right := by
  have pointwise : List.Forall₂ Eq (left.map f) (right.map f) ↔ left.map f = right.map f :=
    iff_of_eq (congrFun (congrFun List.forall₂_eq_eq_eq _) _)
  rw [← pointwise, List.forall₂_map_left_iff, List.forall₂_map_right_iff]

/-- The one statement that locates an element reads back as its lineage, innermost first, and nothing of
    it is left. So two paths are located by the same arguments exactly when their lineages agree, level by
    level, on language, text and position. -/
theorem readArguments_locateLineage (path : ElementPath) :
    (locateLineage path).statements.map readArguments = [some (path.lineage.map Locator.criteria)] ∧
      ∀ other : ElementPath, locateLineage path = locateLineage other ↔
        List.Forall₂ Locator.Agrees path.lineage other.lineage := by
  have reads (path : ElementPath) : (locateLineage path).statements.map readArguments =
      [some (path.lineage.map Locator.criteria)] :=
    congrArg (fun read => [read]) (readArguments_intercalate path.own path.ancestors)
  refine ⟨reads path, ?_⟩
  intro other
  constructor
  · intro same
    have criteria : [some (path.lineage.map Locator.criteria)] =
        [some (other.lineage.map Locator.criteria)] := by
      rw [← reads path, ← reads other, same]
    have levels := map_eq_map_iff_forall₂.mp (Option.some.inj (List.cons.inj criteria).1)
    exact levels.imp fun _ _ => Locator.criteria_inj.mp
  · intro agrees
    have written : path.lineage.map newLocator = other.lineage.map newLocator :=
      map_eq_map_iff_forall₂.mpr (agrees.imp fun _ _ => newLocator_congr)
    rw [locateLineage, locateLineage, written]

-- The text of the first locator imitates a second one; a comma at the end promises a locator that is not there.
example :
    readArguments "new ElementLocator(LocatorType::CSS_SELECTOR, '\\', 1), new ElementLocator(', -7)" =
        some [⟨.cssSelector, "', 1), new ElementLocator(", -7⟩] ∧
      readArguments "new ElementLocator(LocatorType::XPATH_EXPRESSION, '//a', 1), " = none := by
  decide +kernel

end Call

end StepWeaver
