set_option autoImplicit false

/-! # Blank characters and trimming

A name made of blanks only counts as missing, and modes and credential ids are compared without the blanks
around them. Blank means the Unicode property White_Space: 25 characters, ASCII and others. Trimming is
stated on character lists, where its laws are short, and lifted to strings. -/

namespace GuardedPatch.Text

/-- The Unicode property White_Space. -/
def isBlankChar (c : Char) : Bool :=
  let n := c.toNat
  (9 ≤ n && n ≤ 13) || n == 0x20 || n == 0x85 || n == 0xA0 || n == 0x1680 || (0x2000 ≤ n && n ≤ 0x200A)
    || n == 0x2028 || n == 0x2029 || n == 0x202F || n == 0x205F || n == 0x3000

/-- Drops the blanks at both ends. -/
def trimList (cs : List Char) : List Char :=
  ((cs.dropWhile isBlankChar).reverse.dropWhile isBlankChar).reverse

/-- Drops the blanks at both ends. -/
def trim (s : String) : String :=
  String.ofList (trimList s.toList)

/-- Holds of texts without a character that is not blank, the empty text included. -/
def isBlank (s : String) : Bool :=
  s.toList.all isBlankChar

end GuardedPatch.Text
