/-
Module: StepWeaver.Proofs.Reading
Layer: Proofs
Purpose: Statements read as sequences of symbols, a symbol being a character or a whole placeholder
  token. The scan keeps the tokens and drops the characters, so a fact about the symbols of a text is
  a fact about its tokens too. `Reads` says that a text has the same symbols whatever follows it;
  such texts can be put next to each other, which is how all generated statements are made.
Main exports: Text.append_cons_inj, Placeholder.Symbol, Placeholder.symbols,
  Placeholder.scan_eq_tokens, Placeholder.Inert, Placeholder.Legible, Placeholder.Reads,
  Placeholder.reads_token, Placeholder.isPlain_literal
-/
import Mathlib.Data.List.Chain
import Mathlib.Data.List.DropRight
import Mathlib.Data.List.Infix
import StepWeaver.Placeholder.Scan
import StepWeaver.Text.Quoted

namespace StepWeaver

/-- What stands before and after the last occurrence of a character is determined by the text. -/
theorem Text.append_cons_inj {c : Char} {first second firstRest secondRest : List Char}
    (firstClean : c ∉ firstRest) (secondClean : c ∉ secondRest)
    (same : first ++ c :: firstRest = second ++ c :: secondRest) :
    first = second ∧ firstRest = secondRest := by
  have rest_eq (lead rest : List Char) (clean : c ∉ rest) :
      (lead ++ c :: rest).rtakeWhile (· ≠ c) = rest := by
    have before : ∀ d ∈ rest.reverse, decide (d ≠ c) = true := by
      intro d member
      apply decide_eq_true
      rintro rfl
      exact clean (List.mem_reverse.mp member)
    rw [List.rtakeWhile, List.reverse_append, List.reverse_cons, List.append_assoc,
      List.takeWhile_append_of_pos before]
    simp
  have rests : firstRest = secondRest := by
    rw [← rest_eq first firstRest firstClean, same, rest_eq second secondRest secondClean]
  rw [rests] at same
  exact ⟨List.append_cancel_right same, rests⟩

namespace Placeholder

/-- A piece of a text that is not taken apart any further. -/
inductive Symbol where
  /-- A character that belongs to no token. -/
  | char (c : Char)
  /-- A token, from its opening to its closing mark. -/
  | token (text : String)
deriving DecidableEq, Repr

/-- The token that a symbol is, if it is one. -/
def Symbol.token? : Symbol → Option String
  | .char _ => none
  | .token text => some text

/-- The symbols of a text. What follows an opening mark that nothing closes is characters only. -/
def symbols : List Char → List Symbol
  | [] => []
  | '{' :: '{' :: ' ' :: rest =>
    match _cut : cutAtClosing (' ' :: rest) with
    | none => ('{' :: '{' :: ' ' :: rest).map .char
    | some (label, after) =>
      .token (String.ofList ('{' :: '{' :: label ++ [' ', '}', '}'])) :: symbols after
  | c :: rest => .char c :: symbols rest
termination_by text => text.length
decreasing_by
  · have split := congrArg List.length (eq_append_of_cutAtClosing _cut)
    simp only [List.length_cons, List.length_append] at split ⊢
    omega
  · simp

/-- The tokens among some symbols, in order. -/
def tokens (read : List Symbol) : List String := read.filterMap Symbol.token?

/-- The symbols of a text in which every character stands for itself. -/
def plain (text : String) : List Symbol := text.toList.map .char

@[simp] theorem tokens_nil : tokens [] = [] := rfl

@[simp] theorem tokens_cons_char (c : Char) (read : List Symbol) :
    tokens (.char c :: read) = tokens read := rfl

@[simp] theorem tokens_cons_token (text : String) (read : List Symbol) :
    tokens (.token text :: read) = text :: tokens read := rfl

@[simp] theorem tokens_append (first second : List Symbol) :
    tokens (first ++ second) = tokens first ++ tokens second :=
  List.filterMap_append

@[simp] theorem tokens_map_char (text : List Char) : tokens (text.map .char) = [] := by
  simp [tokens, Symbol.token?, List.filterMap_map, Function.comp_def]

@[simp] theorem tokens_plain (text : String) : tokens (plain text) = [] :=
  tokens_map_char text.toList

@[simp] theorem plain_append (first second : String) :
    plain (first ++ second) = plain first ++ plain second := by
  simp [plain]

/-- The scan of a text finds the tokens among its symbols. -/
theorem scan_eq_tokens (text : String) : scan text = tokens (symbols text.toList) := by
  unfold scan
  generalize text.toList = chars
  fun_induction symbols chars with
  | case1 => simp [scanChars]
  | case2 rest unclosed =>
      rw [tokens_map_char, scanChars]
      split
      · rfl
      · next cut => simp [unclosed] at cut
  | case3 rest label after cut ih =>
      rw [scanChars]
      split
      · next unclosed => simp [cut] at unclosed
      · next label' after' cut' =>
        rw [cut] at cut'
        cases cut'
        rw [List.map_cons, tokens_cons_token, ih]
  | case4 c rest notOpening ih =>
      rw [scanChars, tokens_cons_char, ih]
      exact notOpening

/-!
### Texts without an opening mark

Where no opening mark stands, a text is the list of its characters. A last character that is no brace
keeps an opening mark from forming with what follows.
-/

/-- No token starts in the text: it holds no opening mark. -/
def Inert (text : String) : Prop := ¬ opening.toList <:+: text.toList

instance (text : String) : Decidable (Inert text) :=
  inferInstanceAs (Decidable (¬ _))

/-- A character that opens no token stands for itself. -/
theorem symbols_cons_of_not_opening {c : Char} {rest : List Char}
    (closed : ¬ opening.toList <+: c :: rest) : symbols (c :: rest) = .char c :: symbols rest := by
  rw [symbols]
  rintro tail rfl rfl
  exact closed ⟨tail, rfl⟩

/-- Only a brace can open a token. -/
theorem symbols_cons_of_ne {c : Char} (rest : List Char) (other : c ≠ '{') :
    symbols (c :: rest) = .char c :: symbols rest := by
  refine symbols_cons_of_not_opening ?_
  intro opens
  exact other (List.cons_prefix_cons.mp opens).1.symm

/-- A brace opens no token unless another one follows. -/
theorem symbols_brace_cons {rest : List Char} (single : rest.head? ≠ some '{') :
    symbols ('{' :: rest) = .char '{' :: symbols rest := by
  refine symbols_cons_of_not_opening ?_
  rintro ⟨tail, same⟩
  simp [opening] at same
  simp [← same] at single

/-- The symbols of an inert text are its characters. -/
theorem symbols_of_inert {text : List Char} (inert : ¬ opening.toList <:+: text) :
    symbols text = text.map .char := by
  induction text with
  | nil => rw [symbols, List.map_nil]
  | cons c rest ih =>
      have head : ¬ opening.toList <+: c :: rest := fun opens => inert opens.isInfix
      have tail : ¬ opening.toList <:+: rest := fun opens => inert (List.infix_cons opens)
      rw [symbols_cons_of_not_opening head, ih tail, List.map_cons]

/-- An opening mark that reaches beyond an inert text takes a brace from its end. -/
theorem not_opening_append {c : Char} {text rest : List Char}
    (inert : ¬ opening.toList <:+: c :: text) (last : (c :: text).getLast? ≠ some '{') :
    ¬ opening.toList <+: c :: (text ++ rest) := by
  rintro ⟨tail, same⟩
  rcases text with _ | ⟨d, _ | ⟨e, text⟩⟩
  · simp [opening] at same last
    exact last same.1.symm
  · simp [opening] at same last
    exact last same.2.1.symm
  · simp [opening] at same
    obtain ⟨rfl, rfl, rfl, _⟩ := same
    exact inert (List.IsPrefix.isInfix ⟨text, rfl⟩)

/-- A text has the symbols `read`, whatever follows it. -/
def Reads (text : String) (read : List Symbol) : Prop :=
  ∀ rest, symbols (text.toList ++ rest) = read ++ symbols rest

/-- Texts that can be read apart can be read one after the other. -/
theorem Reads.append {first second : String} {firstRead secondRead : List Symbol}
    (head : Reads first firstRead) (tail : Reads second secondRead) :
    Reads (first ++ second) (firstRead ++ secondRead) := by
  intro rest
  rw [String.toList_append, List.append_assoc, head, tail, List.append_assoc]

theorem Reads.symbols_eq {text : String} {read : List Symbol} (reads : Reads text read) :
    symbols text.toList = read := by
  have whole := reads []
  rwa [List.append_nil, symbols, List.append_nil] at whole

/-- What follows a text does not change how it is read. -/
theorem Reads.symbols_append {first : String} {read : List Symbol} (reads : Reads first read)
    (second : String) :
    symbols (first ++ second).toList = read ++ symbols second.toList := by
  rw [String.toList_append, reads]

/-- The text is read as its characters, whatever follows it. -/
abbrev IsPlain (text : String) : Prop := Reads text (plain text)

theorem IsPlain.append {first second : String} (head : IsPlain first) (tail : IsPlain second) :
    IsPlain (first ++ second) := by
  rw [IsPlain, plain_append]
  exact Reads.append head tail

/-- An inert text that does not end in a brace is plain. -/
theorem isPlain_of_inert {text : String} (inert : Inert text)
    (last : text.toList.getLast? ≠ some '{') : IsPlain text := by
  intro rest
  unfold Inert at inert
  unfold plain
  generalize text.toList = chars at inert last
  induction chars with
  | nil => rfl
  | cons c chars ih =>
      have tail : ¬ opening.toList <:+: chars := fun opens => inert (List.infix_cons opens)
      rw [List.cons_append, symbols_cons_of_not_opening (not_opening_append inert last), List.map_cons,
        List.cons_append]
      cases chars with
      | nil => rfl
      | cons d chars =>
          rw [ih tail]
          simpa using last

/-- A text without braces opens no token. -/
theorem inert_of_not_mem {text : String} (clean : '{' ∉ text.toList) : Inert text := by
  intro opens
  exact clean (opens.subset (by decide))

/-- A text without braces is plain. -/
theorem isPlain_of_not_mem {text : String} (clean : '{' ∉ text.toList) : IsPlain text := by
  refine isPlain_of_inert (inert_of_not_mem clean) ?_
  intro last
  exact clean (List.mem_of_getLast? last)

/-- An inert text stays inert when a mark follows that has no brace and does not start with a blank. -/
theorem inert_append {text mark : String} (inert : Inert text) (clean : '{' ∉ mark.toList)
    (first : mark.toList.head? ≠ some ' ') : Inert (text ++ mark) := by
  intro opens
  rw [String.toList_append, List.infix_append_iff_ne_nil] at opens
  rcases opens with inText | inMark | ⟨left, right, split, notEmpty, second, _, start⟩
  · exact inert inText
  · exact clean (inMark.subset (by decide))
  · -- The mark would have to supply the second brace or the blank.
    obtain ⟨tail, same⟩ := start
    rw [← same] at clean first
    rcases left with _ | ⟨a, _ | ⟨b, _ | ⟨c, left⟩⟩⟩
    · exact split rfl
    · simp [opening] at second
      simp [← second.2] at clean
    · simp [opening] at second
      simp [← second.2.2] at first
    · simp [opening] at second
      exact notEmpty second.2.2.2.2

/-!
### Literals

The joint that splits two braces is what keeps a literal from opening a token, so its text is read
character by character in every context.
-/

section Literals

open Text.Quoted

theorem symbols_quote_cons (rest : List Char) :
    symbols (quote :: rest) = .char quote :: symbols rest :=
  symbols_cons_of_ne rest (by decide)

/-- After a brace, no written form starts with another one. -/
theorem head?_encodeChars_true (text rest : List Char) :
    (encodeChars true text ++ quote :: rest).head? ≠ some '{' := by
  cases text with
  | nil => simp [encodeChars, quote]
  | cons c text =>
      unfold encodeChars encodeChar
      split
      · simp
      · split
        · simp
        · split
          · simp [joint, quote]
          · next notJoint => simpa using notJoint

/-- A quoted text holds no token: the encoding never lets two braces meet. -/
theorem symbols_encodeChars (afterBrace : Bool) (text rest : List Char) :
    symbols (encodeChars afterBrace text ++ quote :: rest) =
      (encodeChars afterBrace text).map .char ++ symbols (quote :: rest) := by
  induction text generalizing afterBrace with
  | nil => rfl
  | cons c text ih =>
      have single := head?_encodeChars_true text rest
      unfold encodeChars encodeChar
      split
      · simp [symbols_cons_of_ne, ih]
      · split
        · simp [symbols_cons_of_ne, symbols_quote_cons, ih]
        · split
          · next brace =>
            obtain ⟨rfl, _⟩ := brace
            simp [joint, symbols_cons_of_ne, symbols_quote_cons, symbols_brace_cons single, ih]
          · by_cases brace : c = '{'
            · subst brace
              simp [symbols_brace_cons single, ih]
            · simp [symbols_cons_of_ne _ brace, ih]

/-- A literal is plain, whatever text it stands for. -/
theorem isPlain_literal (text : String) : IsPlain (literal text) := by
  intro rest
  rw [plain, toList_literal, List.cons_append, symbols_quote_cons, List.append_assoc,
    List.singleton_append, symbols_encodeChars, symbols_quote_cons]
  simp

end Literals

/-!
### Tokens

A token is read as one symbol if nothing closes it early. The number after the colon never does.
-/

/-- A token ends at the first place where it can end. -/
theorem cutAtClosing_append {text : List Char} (rest : List Char)
    (unclosed : ¬ closing.toList <:+: text) :
    cutAtClosing (text ++ ' ' :: '}' :: '}' :: rest) = some (text, rest) := by
  induction text with
  | nil => rfl
  | cons c text ih =>
      have tail : ¬ closing.toList <:+: text := fun closes => unclosed (List.infix_cons closes)
      rw [List.cons_append, cutAtClosing, ih tail]
      · rfl
      · -- A closing mark at the front would stand in the text itself.
        rintro after rfl same
        rcases text with _ | ⟨d, _ | ⟨e, text⟩⟩
        · simp at same
        · simp at same
        · simp at same
          obtain ⟨rfl, rfl, _⟩ := same
          exact unclosed (List.IsPrefix.isInfix ⟨text, rfl⟩)

/-- An opening mark is read up to the first closing mark, as one symbol. -/
theorem symbols_opening_cons {rest label after : List Char}
    (cut : cutAtClosing (' ' :: rest) = some (label, after)) :
    symbols ('{' :: '{' :: ' ' :: rest) =
      .token (String.ofList ('{' :: '{' :: label ++ [' ', '}', '}'])) :: symbols after := by
  rw [symbols]
  split
  · next unclosed => rw [cut] at unclosed; cases unclosed
  · next found => rw [cut] at found; cases found; rfl

/-- The role of the placeholder does not close its token: a blank and the role hold no closing mark. -/
def Legible (placeholder : Placeholder) : Prop :=
  ¬ closing.toList <:+: ' ' :: placeholder.name.toList

instance (placeholder : Placeholder) : Decidable placeholder.Legible :=
  inferInstanceAs (Decidable (¬ _))

theorem isDigit_of_mem_toString {n : Nat} {c : Char} (digit : c ∈ (toString n).toList) :
    c.isDigit := by
  rw [Nat.toString_eq_repr, Nat.toList_repr] at digit
  exact Nat.isDigit_of_mem_toDigits (by decide) (by decide) digit

/-- A character that is neither a digit nor the sign does not occur in a number. -/
theorem not_mem_toString_int {c : Char} (noDigit : c.isDigit = false) (noSign : c ≠ '-') (n : Int) :
    c ∉ (toString n).toList := by
  have digits (m : Nat) : c ∉ m.repr.toList := by
    intro member
    have digit := isDigit_of_mem_toString (n := m) member
    exact absurd digit (ne_true_of_eq_false noDigit)
  rw [Int.toString_eq_repr, Int.repr_eq_if]
  split
  · exact digits n.toNat
  · simpa [noSign] using digits (-n).toNat

/-- The label of a legible placeholder does not end its token early. -/
theorem Legible.not_closing_label {placeholder : Placeholder} (legible : placeholder.Legible) :
    ¬ closing.toList <:+: ' ' :: placeholder.label.toList := by
  obtain ⟨name, _ | number⟩ := placeholder
  · exact legible
  · intro closes
    have split : ' ' :: (label ⟨name, some number⟩).toList =
        (' ' :: name.toList) ++ ':' :: (toString number.toNat).toList := by
      simp [label]
    rw [split, List.infix_append_iff_ne_nil] at closes
    rcases closes with inName | inNumber | ⟨left, right, _, notEmpty, parts, _, start⟩
    · exact legible inName
    · have blank : ' ' ∈ ':' :: (toString number.toNat).toList := inNumber.subset (by decide)
      rcases List.mem_cons.mp blank with colon | digit
      · exact absurd colon (by decide)
      · exact absurd (isDigit_of_mem_toString digit) (by decide)
    · -- The mark would have to hold the colon.
      rcases right with _ | ⟨c, right⟩
      · exact notEmpty rfl
      · obtain ⟨rfl, _⟩ := List.cons_prefix_cons.mp start
        have colon : ':' ∈ closing.toList := parts ▸ List.mem_append_right left (List.mem_cons_self)
        exact absurd colon (by decide)

/-- The token of a legible placeholder is read as one symbol. -/
theorem reads_token {placeholder : Placeholder} (legible : placeholder.Legible) :
    Reads placeholder.token [.token placeholder.token] := by
  intro rest
  have cut := cutAtClosing_append rest legible.not_closing_label
  have shape : placeholder.token.toList ++ rest =
      '{' :: '{' :: ' ' :: (placeholder.label.toList ++ ' ' :: '}' :: '}' :: rest) := by
    simp [token, opening, closing]
  have whole : String.ofList ('{' :: '{' :: (' ' :: placeholder.label.toList) ++ [' ', '}', '}']) =
      placeholder.token := by
    rw [← String.toList_inj]
    simp [token, opening, closing]
  rw [List.cons_append] at cut
  rw [shape, symbols_opening_cons cut, whole, List.singleton_append]

end Placeholder

end StepWeaver
