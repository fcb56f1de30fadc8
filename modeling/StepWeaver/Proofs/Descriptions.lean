/-
Module: StepWeaver.Proofs.Descriptions
Layer: Proofs
Purpose: What the description of an element tells. It is read from its end: the last quote closes the text of
  the element's own locator, what follows is the position, and the last quote before it without a backslash
  opens the text. What is left is the parent in double braces. So the description determines text and
  position of every locator on the way to the element, whatever quotes, braces and backslashes the texts
  hold. It says nothing else about them.
Main exports: Text.DoubleQuoted.decodeChars, Text.DoubleQuoted.append_quote_inj, Locator.LooksLike,
  Locator.append_describe_inj, ElementPath.describe_eq_iff_looksLike
-/
import Mathlib.Data.List.Forall2
import Std.Data.String.ToInt
import StepWeaver.Model.Locator
import StepWeaver.Proofs.Reading

namespace StepWeaver

/-!
### Texts in double quotes

A backslash is not escaped, so a text may end with one and its closing quote looks like an escaped one. But
in front of the opening quote there never stands a backslash.
-/

namespace Text.DoubleQuoted

/-- The text that stands between two quotes: the backslash before a quote is left out. -/
def decodeChars : List Char → List Char
  | [] => []
  | '\\' :: '"' :: rest => '"' :: decodeChars rest
  | c :: rest => c :: decodeChars rest

/-- An encoded text does not begin with a bare quote. -/
theorem head?_encodeChars (text : List Char) : (text.flatMap encodeChar).head? ≠ some '"' := by
  cases text with
  | nil => simp
  | cons c text =>
      rw [List.flatMap_cons, encodeChar]
      split
      · simp
      · next other => simpa using other

theorem decodeChars_encodeChars (text : List Char) : decodeChars (text.flatMap encodeChar) = text := by
  induction text with
  | nil => rfl
  | cons c text ih =>
      rw [List.flatMap_cons, encodeChar]
      split
      · next quote =>
        rw [quote]
        exact congrArg ('"' :: ·) ih
      · rw [List.singleton_append, decodeChars, ih]
        -- A backslash of the text is not followed by a quote, which would have one of its own.
        intro rest _ same
        apply head?_encodeChars text
        rw [same]
        rfl

/-- A quote within the text has a backslash before it. -/
theorem backslash_suffix_of_quote {text before after : List Char}
    (split : text.flatMap encodeChar = before ++ '"' :: after) : ['\\'] <:+ before := by
  induction text generalizing before with
  | nil => simp at split
  | cons c text ih =>
      rw [List.flatMap_cons, encodeChar] at split
      cases before with
      | nil =>
          split at split
          · simp at split
          · next other => exact absurd (List.cons.inj split).1 other
      | cons d before =>
          split at split
          · -- The quote is the one that `c` stands for, or it comes later.
            obtain ⟨rfl, rest⟩ := List.cons.inj split
            cases before with
            | nil => exact List.suffix_rfl
            | cons e before =>
                have later := ih (List.cons.inj rest).2
                exact later.trans (List.suffix_append ['\\', e] before)
          · have later := ih (List.cons.inj split).2
            exact later.trans (List.suffix_cons d before)

/-- The quote that opens a text is not one of those within a text that starts earlier. -/
theorem eq_of_quote_between {lead between text other : List Char}
    (plain : ¬ ['\\'] <:+ lead ++ between)
    (same : '"' :: text.flatMap encodeChar = between ++ '"' :: other.flatMap encodeChar) :
    between = [] ∧ text = other := by
  cases between with
  | nil =>
      have decoded := congrArg decodeChars (List.cons.inj same).2
      rw [decodeChars_encodeChars, decodeChars_encodeChars] at decoded
      exact ⟨rfl, decoded⟩
  | cons c between =>
      have backslash := backslash_suffix_of_quote (List.cons.inj same).2
      have longer : between <:+ lead ++ c :: between := by
        rw [← List.singleton_append, ← List.append_assoc]
        exact List.suffix_append (lead ++ [c]) between
      exact absurd (backslash.trans longer) plain

/-- What stands before a text in quotes, and the text, are determined by both together. -/
theorem append_quote_inj {first second text other : List Char} (firstPlain : ¬ ['\\'] <:+ first)
    (secondPlain : ¬ ['\\'] <:+ second)
    (same : first ++ '"' :: text.flatMap encodeChar = second ++ '"' :: other.flatMap encodeChar) :
    first = second ∧ text = other := by
  rcases List.append_eq_append_iff.mp same with ⟨between, rfl, rests⟩ | ⟨between, rfl, rests⟩
  · obtain ⟨rfl, texts⟩ := eq_of_quote_between secondPlain rests
    exact ⟨(List.append_nil first).symm, texts⟩
  · obtain ⟨rfl, texts⟩ := eq_of_quote_between firstPlain rests
    exact ⟨List.append_nil second, texts.symm⟩

end Text.DoubleQuoted

/-!
### Locators
-/

namespace Locator

/-- Two locators with the same text and the same position. -/
structure LooksLike (left right : Locator) : Prop where
  text : left.text = right.text
  position : left.position = right.position

/-- What follows the text of a locator. -/
def shownPosition (position : Int32) : String :=
  if position = 1 then "" else ":" ++ toString position.toInt

/-- A description is the quoted text of a locator and its position. -/
theorem toList_describe (locator : Locator) :
    locator.describe.toList =
      '"' :: locator.text.toList.flatMap Text.DoubleQuoted.encodeChar ++
        '"' :: (shownPosition locator.position).toList := by
  rw [describe, String.toList_append, Text.DoubleQuoted.toList_encode]
  simp [shownPosition]

/-- A position has no quotes, so the last quote of a description ends the text. -/
theorem quote_not_mem_shownPosition (position : Int32) : '"' ∉ (shownPosition position).toList := by
  unfold shownPosition
  split
  · decide
  · have number := Placeholder.not_mem_toString_int (by decide : '"'.isDigit = false) (by decide)
      position.toInt
    simpa using number

/-- Positions that are shown alike are the same, for only the first one is not shown. -/
theorem shownPosition_inj {position other : Int32} (same : shownPosition position = shownPosition other) :
    position = other := by
  unfold shownPosition at same
  split at same <;> split at same
  · next first second => exact first.trans second.symm
  · simp at same
  · simp at same
  · rw [← String.toList_inj, String.toList_append, String.toList_append, List.append_cancel_left_eq,
      String.toList_inj, Int.toString_eq_repr, Int.toString_eq_repr, Int.repr_inj] at same
    exact Int32.toInt_inj.mp same

theorem describe_congr {left right : Locator} (alike : left.LooksLike right) :
    left.describe = right.describe := by
  rw [describe, describe, alike.text, alike.position]

/-- What stands before the description of a locator, and what it shows, are determined by both together. -/
theorem append_describe_inj {first second : String} {left right : Locator}
    (firstPlain : ¬ ['\\'] <:+ first.toList) (secondPlain : ¬ ['\\'] <:+ second.toList)
    (same : first ++ left.describe = second ++ right.describe) :
    first = second ∧ left.LooksLike right := by
  rw [← String.toList_inj, String.toList_append, String.toList_append, toList_describe, toList_describe,
    ← List.append_assoc, ← List.append_assoc] at same
  obtain ⟨quoted, positions⟩ := Text.append_cons_inj (quote_not_mem_shownPosition left.position)
    (quote_not_mem_shownPosition right.position) same
  obtain ⟨leads, texts⟩ := Text.DoubleQuoted.append_quote_inj firstPlain secondPlain quoted
  have position := shownPosition_inj (String.toList_inj.mp positions)
  exact ⟨String.toList_inj.mp leads, String.toList_inj.mp texts, position⟩

end Locator

/-!
### Lineages
-/

namespace ElementPath

/-- What stands before the locator of the element itself: the parent in double braces, if there is one. -/
def shownParent : List Locator → String
  | [] => ""
  | parent :: ancestors => "\x7b\x7b " ++ describeLineage parent ancestors ++ " \x7d\x7d "

/-- A lineage is described by its parents and then by its own locator. -/
theorem describeLineage_eq (own : Locator) (ancestors : List Locator) :
    describeLineage own ancestors = shownParent ancestors ++ own.describe := by
  cases ancestors with
  | nil => simp [describeLineage, shownParent]
  | cons parent ancestors => rfl

/-- What stands before the quote of a text does not escape it. -/
theorem shownParent_plain (ancestors : List Locator) : ¬ ['\\'] <:+ (shownParent ancestors).toList := by
  cases ancestors with
  | nil => decide
  | cons parent ancestors =>
      rintro ⟨before, same⟩
      have last := congrArg List.getLast? same
      rw [List.getLast?_concat, shownParent, String.toList_append, List.getLast?_append] at last
      simp at last

theorem shownParent_cons_ne (parent : Locator) (ancestors : List Locator) :
    shownParent (parent :: ancestors) ≠ "" := by
  simp [shownParent]

/-- The description of a parent can be read off what is shown of it. -/
theorem shownParent_cons_inj {parent other : Locator} {ancestors others : List Locator}
    (same : shownParent (parent :: ancestors) = shownParent (other :: others)) :
    describeLineage parent ancestors = describeLineage other others := by
  rw [← String.toList_inj] at same ⊢
  simpa [shownParent] using same

/-- Lineages that look alike, locator by locator, are described alike. -/
theorem describeLineage_congr {own other : Locator} {ancestors others : List Locator}
    (alike : List.Forall₂ Locator.LooksLike (own :: ancestors) (other :: others)) :
    describeLineage own ancestors = describeLineage other others := by
  induction ancestors generalizing own other others with
  | nil =>
      cases alike with
      | cons first rest =>
          cases rest
          exact Locator.describe_congr first
  | cons parent ancestors ih =>
      cases alike with
      | cons first rest =>
          cases rest with
          | cons second rest =>
              have parents := ih (.cons second rest)
              rw [describeLineage, describeLineage, parents, Locator.describe_congr first]

/-- The locator of the element itself is read off the end of the description. -/
theorem innermost_of_describeLineage_eq {own other : Locator} {ancestors others : List Locator}
    (same : describeLineage own ancestors = describeLineage other others) :
    shownParent ancestors = shownParent others ∧ own.LooksLike other := by
  rw [describeLineage_eq own, describeLineage_eq other] at same
  exact Locator.append_describe_inj (shownParent_plain ancestors) (shownParent_plain others) same

/-- Lineages that are described alike look alike, locator by locator. -/
theorem looksLike_of_describeLineage_eq {own other : Locator} {ancestors others : List Locator}
    (same : describeLineage own ancestors = describeLineage other others) :
    List.Forall₂ Locator.LooksLike (own :: ancestors) (other :: others) := by
  -- The induction is on the depth of one element: without its own locator, the description is its parent's.
  induction ancestors generalizing own other others with
  | nil =>
      obtain ⟨parents, alike⟩ := innermost_of_describeLineage_eq same
      cases others with
      | nil => exact .cons alike .nil
      | cons parent others => exact absurd parents.symm (shownParent_cons_ne parent others)
  | cons parent ancestors ih =>
      obtain ⟨parents, alike⟩ := innermost_of_describeLineage_eq same
      cases others with
      | nil => exact absurd parents (shownParent_cons_ne parent ancestors)
      | cons otherParent others => exact .cons alike (ih (shownParent_cons_inj parents))

/-- Two elements have the same description exactly when their lineages have the same length and agree, level
    by level, on text and position. The language of a locator and the name of an element are not shown. -/
theorem describe_eq_iff_looksLike (path other : ElementPath) :
    path.describe = other.describe ↔
      List.Forall₂ Locator.LooksLike path.lineage other.lineage := by
  constructor
  · intro same
    exact looksLike_of_describeLineage_eq same
  · intro alike
    exact describeLineage_congr alike

-- A text that imitates a parent is given away by its backslashes.
example :
    describe { own := .ofText "b", ancestors := [.ofText "a"] } = "\x7b\x7b \"a\" \x7d\x7d \"b\"" ∧
      describe { own := .ofText "a\" \x7d\x7d \"b" } = "\"a\\\" \x7d\x7d \\\"b\"" := by
  decide +kernel

end ElementPath

end StepWeaver
