/-
Module: StepWeaver.Text.Listing
Layer: Text
Purpose: Lists of names as one line of text.
Main exports: Text.Listing.encode
-/
import StepWeaver.Text.Printable

namespace StepWeaver.Text.Listing

/-- The code point of a character, in hexadecimal digits between braces. -/
def escapeCodePoint (c : Char) : List Char :=
  ['\\', 'u', '{'] ++ Nat.toDigits 16 c.toNat ++ ['}']

/-- The written form of one character of a name. -/
def encodeChar (c : Char) : List Char :=
  if c = '"' then ['\\', '"']
  else if c = '\\' then ['\\', '\\']
  else if c = '\t' then ['\\', 't']
  else if c = '\n' then ['\\', 'n']
  else if c = '\r' then ['\\', 'r']
  else if c = '\x00' then ['\\', '0']
  else if isPrintable c then [c]
  else escapeCodePoint c

/-- A name in double quotes. -/
def encodeName (name : String) : String :=
  "\"" ++ String.ofList (name.toList.flatMap encodeChar) ++ "\""

/-- Names in double quotes, between brackets, with commas between them. -/
def encode (names : List String) : String :=
  "[" ++ ", ".intercalate (names.map encodeName) ++ "]"

-- An accent that stands alone is a mark, which would extend the quote before it.
example : encode ["wait", "\u0301\""] = "[\"wait\", \"\\u\x7b301\x7d\\\"\"]" := by decide +kernel

end StepWeaver.Text.Listing
