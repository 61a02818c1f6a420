import GuardedPatch.Text.Invisible

set_option autoImplicit false

/-! # Quoted text

Messages and summaries show a value between double quotes. Inside, the quote and the backslash are escaped, tab,
line feed, carriage return and NUL have short escapes, and every other invisible character is written as its
number in hexadecimal digits between braces. What is left stands for itself, non-ASCII letters included. -/

namespace GuardedPatch.Text

/-- Hexadecimal digits in lower case, without leading zeros. -/
def hexDigits (n : Nat) : List Char :=
  Nat.toDigits 16 n

/-- How one character is written between quotes. -/
def quotedChar (c : Char) : List Char :=
  match c with
  | '"' => ['\\', '"']
  | '\\' => ['\\', '\\']
  | '\n' => ['\\', 'n']
  | '\r' => ['\\', 'r']
  | '\t' => ['\\', 't']
  | c =>
    if c.toNat = 0 then ['\\', '0']
    else if isInvisible c then ['\\', 'u', '\x7b'] ++ hexDigits c.toNat ++ ['\x7d']
    else [c]

/-- The text between double quotes, escaped. -/
def quoted (s : String) : String :=
  String.ofList ('"' :: s.toList.flatMap quotedChar ++ ['"'])

end GuardedPatch.Text
