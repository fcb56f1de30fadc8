/-
Module: StepWeaver.Text.DoubleQuoted
Layer: Text
Purpose: The double-quoted form in which descriptions of test steps show a user's text.
Main exports: Text.DoubleQuoted.encode
-/
namespace StepWeaver.Text.DoubleQuoted

/-- The written form of one character: only the double quote is escaped, a backslash is not. -/
def encodeChar (c : Char) : List Char :=
  if c = '"' then ['\\', '"'] else [c]

/-- A text between double quotes. -/
def encode (text : String) : String :=
  "\"" ++ String.ofList (text.toList.flatMap encodeChar) ++ "\""

@[simp] theorem toList_encode (text : String) :
    (encode text).toList = '"' :: (text.toList.flatMap encodeChar ++ ['"']) := by
  simp [encode]

end StepWeaver.Text.DoubleQuoted
