/-
Module: StepWeaver.Text.Quoted
Layer: Text
Purpose: Single-quoted literals of the generated source, and the two-sided codec between a text and
  the literal that stands for it.
Main exports: Text.Quoted.encode, Text.Quoted.literal, Text.Quoted.read
-/
namespace StepWeaver.Text.Quoted

/-!
### Writing

A literal escapes the backslash and the quote. It must also never hold two opening braces in a row,
because two braces and a blank open a placeholder token. So the literal is closed between such
braces and the second one starts a new literal, joined to the first by the concatenation operator.
-/

/-- The quote that opens and closes a literal. -/
def quote : Char := '\x27'

/-- What is written between two braces: close, concatenate, open again. -/
def joint : List Char := [quote, ' ', '.', ' ', quote]

/-- The written form of one character; `afterBrace` says that an opening brace stands before it. -/
def encodeChar (afterBrace : Bool) (c : Char) : List Char :=
  if c = '\\' then ['\\', '\\']
  else if c = quote then ['\\', quote]
  else if c = '{' ∧ afterBrace then joint ++ ['{']
  else [c]

/-- The written form of a text that follows an opening brace or not. -/
def encodeChars (afterBrace : Bool) : List Char → List Char
  | [] => []
  | c :: rest => encodeChar afterBrace c ++ encodeChars (c = '{') rest

/-- What stands between the outer quotes of the literal for a text. -/
def encode (text : String) : String :=
  String.ofList (encodeChars false text.toList)

/-- The whole literal for a text, quotes included. -/
def literal (text : String) : String :=
  "'" ++ encode text ++ "'"

@[simp] theorem toList_encode (text : String) :
    (encode text).toList = encodeChars false text.toList := by
  simp [encode]

@[simp] theorem toList_literal (text : String) :
    (literal text).toList = quote :: (encodeChars false text.toList ++ [quote]) := by
  simp [literal, quote]

/-!
### Reading

The reader is not shaped like the writer: it accepts every concatenation of literals, wherever the
joints stand. A backslash before a character that needs no escape is that backslash.
-/

/-- Reads a concatenation of literals whose first quote has been read, up to the quote that no joint
    follows. Gives the text and what is left; fails on a literal that is never closed. -/
def readBody : List Char → Option (List Char × List Char)
  | [] => none
  | '\\' :: '\\' :: rest => (readBody rest).map fun (text, left) => ('\\' :: text, left)
  | '\\' :: '\x27' :: rest => (readBody rest).map fun (text, left) => ('\x27' :: text, left)
  | '\x27' :: ' ' :: '.' :: ' ' :: '\x27' :: rest => readBody rest
  | '\x27' :: rest => some ([], rest)
  | c :: rest => (readBody rest).map fun (text, left) => (c :: text, left)

/-- Reads a concatenation of literals from its first quote on. -/
def read : List Char → Option (List Char × List Char)
  | '\x27' :: rest => readBody rest
  | _ => none

-- Three braces in a row take two joints, and the reader undoes them.
example : encodeChars false ['{', '{', '{'] = ['{'] ++ joint ++ ['{'] ++ joint ++ ['{'] := by decide
example : read (quote :: encodeChars false ['{', '{', '\\', quote] ++ [quote, ';']) =
    some (['{', '{', '\\', quote], [';']) := by decide

end StepWeaver.Text.Quoted
