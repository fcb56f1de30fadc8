/-
Module: StepWeaver.Text.Blank
Layer: Text
Purpose: White space, as the Unicode property White_Space lists it, and blank texts.
Main exports: Text.isSpace, Text.isBlank
-/
namespace StepWeaver.Text

/-- The ranges of code points that carry the property White_Space, in ascending order. -/
def spaceRanges : List (Nat × Nat) :=
  [(0x09, 0x0D), (0x20, 0x20), (0x85, 0x85), (0xA0, 0xA0), (0x1680, 0x1680), (0x2000, 0x200A),
    (0x2028, 0x2029), (0x202F, 0x202F), (0x205F, 0x205F), (0x3000, 0x3000)]

/-- Whether a character is white space. -/
def isSpace (c : Char) : Bool :=
  spaceRanges.any fun range => range.1 ≤ c.toNat && c.toNat ≤ range.2

/-- Whether a text holds nothing but white space. -/
def isBlank (text : String) : Bool :=
  text.toList.all isSpace

-- The property has 25 code points.
example : (spaceRanges.map fun range => range.2 - range.1 + 1).sum = 25 := by decide

end StepWeaver.Text
