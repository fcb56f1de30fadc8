/-
Module: StepWeaver.Proofs.RoundTrip
Layer: Proofs
Purpose: Generated text reads back as what it was made from. A reader of single-quoted literals gets
  the text of a user back from its literal in every context, and stops exactly where the literal does,
  unless what follows looks like a further literal to be joined.
Main exports: Text.Quoted.continuation, Text.Quoted.readBody_encodeChar_append,
  Text.Quoted.readBody_encodeChars_append, Text.Quoted.read_literal_append_iff
-/
import Mathlib.Data.List.Infix
import StepWeaver.Text.Quoted

namespace StepWeaver.Text.Quoted

/-!
### The reader, step by step
-/

/-- What makes the reader go on after a quote that could have been the last one. -/
def continuation : List Char := [' ', '.', ' ', quote]

/-- The joint between two braces is read as nothing. -/
theorem readBody_joint_append (rest : List Char) : readBody (joint ++ rest) = readBody rest := rfl

/-- A quote that no further literal follows is the last one. -/
theorem readBody_quote_cons {rest : List Char} (ends : ¬ continuation <+: rest) :
    readBody (quote :: rest) = some ([], rest) := by
  rw [quote, readBody]
  rintro tail rfl
  exact ends ⟨tail, rfl⟩

/-- Apart from the escape and the quote, every character is read as itself. -/
theorem readBody_cons_of_ne {c : Char} (rest : List Char) (noEscape : c ≠ '\\')
    (noQuote : c ≠ quote) :
    readBody (c :: rest) = (readBody rest).map fun (text, left) => (c :: text, left) := by
  rw [readBody]
  · rintro tail rfl
    exact absurd rfl noEscape
  · rintro tail rfl
    exact absurd rfl noEscape
  · rintro tail rfl
    exact absurd rfl noQuote
  · exact noQuote

/-- The reader always takes at least the closing quote. -/
theorem length_lt_of_readBody {chars text left : List Char}
    (found : readBody chars = some (text, left)) : left.length < chars.length := by
  fun_induction readBody chars generalizing text with
  | case1 => cases found
  | case2 rest ih | case3 rest ih =>
      obtain ⟨⟨tail, after⟩, inner, same⟩ := Option.map_eq_some_iff.mp found
      obtain ⟨rfl, rfl⟩ := Prod.mk.inj same
      have shorter := ih inner
      simp only [List.length_cons]
      omega
  | case4 rest ih =>
      have shorter := ih found
      simp only [List.length_cons]
      omega
  | case5 rest _ =>
      obtain ⟨rfl, rfl⟩ := Prod.mk.inj (Option.some.inj found)
      simp
  | case6 c rest _ _ _ _ ih =>
      obtain ⟨⟨tail, after⟩, inner, same⟩ := Option.map_eq_some_iff.mp found
      obtain ⟨rfl, rfl⟩ := Prod.mk.inj same
      have shorter := ih inner
      simp only [List.length_cons]
      omega

/-!
### Reading what has been written

The written form of a character is read as that character, whatever follows: the joint before a second
brace is passed over, and an escaped quote is never taken for a closing one. So a whole text leaves the
reader at the closing quote, where only what follows decides how it goes on.
-/

/-- An encoded character is read back, whatever follows it. -/
theorem readBody_encodeChar_append (afterBrace : Bool) (c : Char) (rest : List Char) :
    readBody (encodeChar afterBrace c ++ rest) =
      (readBody rest).map fun (text, left) => (c :: text, left) := by
  unfold encodeChar
  split
  · next escape =>
    subst escape
    rfl
  · next noEscape =>
    split
    · next isQuote =>
      subst isQuote
      rfl
    · next noQuote =>
      split
      · next brace =>
        obtain ⟨rfl, _⟩ := brace
        rw [List.append_assoc, readBody_joint_append]
        exact readBody_cons_of_ne rest noEscape noQuote
      · exact readBody_cons_of_ne rest noEscape noQuote

/-- So is an encoded text, character by character. -/
theorem readBody_encodeChars_append (afterBrace : Bool) (text rest : List Char) :
    readBody (encodeChars afterBrace text ++ rest) =
      (readBody rest).map fun (more, left) => (text ++ more, left) := by
  induction text generalizing afterBrace with
  | nil => simp [encodeChars]
  | cons c text ih =>
      rw [encodeChars, List.append_assoc, readBody_encodeChar_append, ih, Option.map_map]
      rfl

/-- A literal is read back before anything that follows it. -/
theorem read_literal_append (text rest : String) :
    read (literal text ++ rest).toList =
      (readBody (quote :: rest.toList)).map fun (more, left) => (text.toList ++ more, left) := by
  rw [String.toList_append, toList_literal, List.cons_append, List.append_assoc,
    List.singleton_append]
  exact readBody_encodeChars_append false text.toList (quote :: rest.toList)

/-- The literal for a text is read as that text, and everything that follows it is left, exactly when
    no further literal is joined to it there. Backslashes, quotes, braces and joints in the text itself
    make no difference. -/
theorem read_literal_append_iff (text rest : String) :
    read (literal text ++ rest).toList = some (text.toList, rest.toList) ↔
      ¬ " . '".toList <+: rest.toList := by
  have mark : " . '".toList = continuation := by decide
  rw [mark, read_literal_append]
  constructor
  · -- A joined literal would be read too, so less than all of the rest would be left.
    rintro found ⟨tail, joined⟩
    have more : readBody (quote :: rest.toList) = readBody tail := by
      rw [← joined]
      exact readBody_joint_append tail
    rw [more] at found
    obtain ⟨⟨_, left⟩, inner, same⟩ := Option.map_eq_some_iff.mp found
    obtain ⟨_, rfl⟩ := Prod.mk.inj same
    have shorter := length_lt_of_readBody inner
    rw [← joined, List.length_append] at shorter
    omega
  · intro ends
    rw [readBody_quote_cons ends]
    simp

-- The text ends in a backslash and holds two braces, a quote and a joint.
example : read (literal "\x7b\x7b ' . ' \\" ++ "; . '").toList =
    some ("\x7b\x7b ' . ' \\".toList, "; . '".toList) := by decide +kernel

end StepWeaver.Text.Quoted
