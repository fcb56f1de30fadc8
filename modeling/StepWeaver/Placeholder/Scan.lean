/-
Module: StepWeaver.Placeholder.Scan
Layer: Placeholders
Purpose: Finding the placeholder tokens of a text.
Main exports: Placeholder.scan, Placeholder.scanChars
-/
import StepWeaver.Placeholder.Basic

namespace StepWeaver.Placeholder

/-- Cuts a text at the first place where a token ends: what stands before the closing mark, and what
    stands after it. -/
def cutAtClosing : List Char → Option (List Char × List Char)
  | [] => none
  | ' ' :: '}' :: '}' :: rest => some ([], rest)
  | c :: rest => (cutAtClosing rest).map fun (before, after) => (c :: before, after)

/-- A text that is cut is what stands before the closing mark, the mark and what follows. -/
theorem eq_append_of_cutAtClosing {text before after : List Char}
    (h : cutAtClosing text = some (before, after)) :
    text = before ++ ' ' :: '}' :: '}' :: after := by
  fun_induction cutAtClosing text generalizing before with
  | case1 => simp at h
  | case2 rest => simp_all
  | case3 c rest _ ih =>
    obtain ⟨⟨tail, left⟩, cut, same⟩ := Option.map_eq_some_iff.mp h
    simp only [Prod.mk.injEq] at same
    obtain ⟨rfl, rfl⟩ := same
    simp [ih cut]

/-- The tokens of a text, in order of appearance.

A token runs from an opening mark to the first closing mark; the blank of the opening mark may also
be the blank of the closing mark, so two braces, a blank and two braces are a token without a label.
An opening mark that nothing closes ends the scan. -/
def scanChars : List Char → List (List Char)
  | [] => []
  | '{' :: '{' :: ' ' :: rest =>
    match _cut : cutAtClosing (' ' :: rest) with
    | none => []
    | some (label, after) => ('{' :: '{' :: label ++ [' ', '}', '}']) :: scanChars after
  | _ :: rest => scanChars rest
termination_by text => text.length
decreasing_by
  · have split := congrArg List.length (eq_append_of_cutAtClosing _cut)
    simp only [List.length_cons, List.length_append] at split ⊢
    omega
  · simp

/-- The tokens of a text, in order of appearance. -/
def scan (text : String) : List String :=
  (scanChars text.toList).map String.ofList

-- The blank of the opening mark closes the first token; the last opening mark is never closed.
example : scan "\x7b\x7b \x7d\x7d, \x7b\x7b\x7b A:2 \x7d\x7d\x7d, \x7b\x7b B" =
    ["\x7b\x7b \x7d\x7d", "\x7b\x7b A:2 \x7d\x7d"] := by decide +kernel

end StepWeaver.Placeholder
