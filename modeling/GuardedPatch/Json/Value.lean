set_option autoImplicit false

/-! # JSON texts

Documents are identified by the digest of a JSON text, field maps are stored as JSON texts, and outcomes are
printed as JSON. A value keeps the order of its members. The compact form has no blanks at all; the indented form
puts each element and each member on a line of its own, two blanks deeper than its parent, and writes an empty
array or object as a pair of brackets. Strings are escaped alike in both: quote, backslash and the control
characters, the latter by their short escape where there is one. -/

namespace GuardedPatch.Json

/-- A JSON value whose objects keep the order of their members. -/
inductive Value
  | null
  | bool (b : Bool)
  | nat (n : Nat)
  | str (s : String)
  | arr (items : List Value)
  | obj (members : List (String × Value))

/-- A member that is left out when there is no value for it. -/
def optional (name : String) (value : Option Value) : List (String × Value) :=
  match value with
  | some v => [(name, v)]
  | none => []

/-- The string, or null when there is none. -/
def Value.ofOption (s : Option String) : Value :=
  match s with
  | some s => .str s
  | none => .null

/-! ## Strings -/

/-- A hexadecimal digit in lower case. -/
def hexDigit (n : Nat) : Char :=
  Char.ofNat (if n < 10 then 48 + n else 87 + n)

/-- How one character is written inside a JSON string. -/
def escapeChar (c : Char) : List Char :=
  match c with
  | '"' => ['\\', '"']
  | '\\' => ['\\', '\\']
  | '\n' => ['\\', 'n']
  | '\r' => ['\\', 'r']
  | '\t' => ['\\', 't']
  | '\x08' => ['\\', 'b']
  | '\x0c' => ['\\', 'f']
  | c =>
    if c.toNat < 0x20 then ['\\', 'u', '0', '0', hexDigit (c.toNat / 16), hexDigit (c.toNat % 16)]
    else [c]

/-- A string between quotes. -/
def stringChars (s : String) : List Char :=
  '"' :: s.toList.flatMap escapeChar ++ ['"']

/-! ## The compact form -/

mutual

/-- The compact form of a value. -/
def Value.chars : Value → List Char
  | .null => ['n', 'u', 'l', 'l']
  | .bool true => ['t', 'r', 'u', 'e']
  | .bool false => ['f', 'a', 'l', 's', 'e']
  | .nat n => Nat.toDigits 10 n
  | .str s => stringChars s
  | .arr items => '[' :: itemsChars items ++ [']']
  | .obj members => '\x7b' :: membersChars members ++ ['\x7d']

/-- The elements of an array, with commas between them. -/
def itemsChars : List Value → List Char
  | [] => []
  | [v] => v.chars
  | v :: rest => v.chars ++ ',' :: itemsChars rest

/-- The members of an object, with commas between them. -/
def membersChars : List (String × Value) → List Char
  | [] => []
  | [(name, v)] => stringChars name ++ ':' :: v.chars
  | (name, v) :: rest => stringChars name ++ ':' :: v.chars ++ ',' :: membersChars rest

end

/-- The compact form as a text. -/
def Value.compact (v : Value) : String :=
  String.ofList v.chars

/-! ## The indented form -/

/-- A new line at a depth, two blanks for each level. -/
def newline (depth : Nat) : List Char :=
  '\n' :: List.replicate (2 * depth) ' '

mutual

/-- The indented form of a value whose first line stands at `depth`. -/
def Value.indentedChars (depth : Nat) : Value → List Char
  | .arr (v :: rest) =>
    '[' :: newline (depth + 1) ++ v.indentedChars (depth + 1) ++ indentedItems (depth + 1) rest
      ++ newline depth ++ [']']
  | .obj ((name, v) :: rest) =>
    '\x7b' :: newline (depth + 1) ++ stringChars name ++ ':' :: ' ' :: v.indentedChars (depth + 1)
      ++ indentedMembers (depth + 1) rest ++ newline depth ++ ['\x7d']
  | .arr [] => ['[', ']']
  | .obj [] => ['\x7b', '\x7d']
  | .null => ['n', 'u', 'l', 'l']
  | .bool true => ['t', 'r', 'u', 'e']
  | .bool false => ['f', 'a', 'l', 's', 'e']
  | .nat n => Nat.toDigits 10 n
  | .str s => stringChars s

/-- The elements after the first, each after a comma and a new line. -/
def indentedItems (depth : Nat) : List Value → List Char
  | [] => []
  | v :: rest => ',' :: newline depth ++ v.indentedChars depth ++ indentedItems depth rest

/-- The members after the first, each after a comma and a new line. -/
def indentedMembers (depth : Nat) : List (String × Value) → List Char
  | [] => []
  | (name, v) :: rest =>
    ',' :: newline depth ++ stringChars name ++ ':' :: ' ' :: v.indentedChars depth ++ indentedMembers depth rest

end

/-- The indented form as a text. -/
def Value.indented (v : Value) : String :=
  String.ofList (v.indentedChars 0)

end GuardedPatch.Json
