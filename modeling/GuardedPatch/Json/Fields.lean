import GuardedPatch.Json.Number
import GuardedPatch.Json.Value
import GuardedPatch.Text.Hex
import GuardedPatch.Text.Quoted
import GuardedPatch.TextMap

set_option autoImplicit false

/-! # Field maps as JSON texts

A feature's fields are stored as the compact JSON text of an object whose members are all strings. Reading accepts
any JSON text of such an object, blanks between its parts included; of members with one name the last counts. Any
other text is refused with the cause, and with the line and the byte column where it was noticed. -/

namespace GuardedPatch.Json

/-! ## Writing -/

/-- A field map as an object. -/
def Value.ofTextMap (m : TextMap) : Value :=
  .obj (m.entries.map fun e => (e.1, .str e.2))

/-- The stored text of a field map. -/
def writeFields (m : TextMap) : String :=
  (Value.ofTextMap m).compact

/-! ## Complaints -/

/-- The wording of a cause. -/
def Cause.message : Cause → String
  | .eofValue => "EOF while parsing a value"
  | .eofString => "EOF while parsing a string"
  | .eofObject => "EOF while parsing an object"
  | .expectedColon => "expected `:`"
  | .expectedCommaOrEnd => "expected `,` or `\x7d`"
  | .expectedIdentifier => "expected ident"
  | .expectedValue => "expected value"
  | .invalidEscape => "invalid escape"
  | .invalidNumber => "invalid number"
  | .numberOutOfRange => "number out of range"
  | .controlCharacter => "control character (\\u0000-\\u001F) found while parsing a string"
  | .keyNotString => "key must be a string"
  | .loneSurrogate => "lone leading surrogate in hex escape"
  | .trailingComma => "trailing comma"
  | .trailingCharacters => "trailing characters"
  | .endOfHexEscape => "unexpected end of hex escape"
  | .wrongType found expected => "invalid type: " ++ found ++ ", expected " ++ expected

/-- The line and the column of the place after a number of bytes: lines count from one, columns are the bytes
since the line's start. -/
def lineColumn (offset line column : Nat) : List Char → Nat × Nat
  | [] => (line, column + offset)
  | c :: rest =>
    if offset < c.utf8Size then (line, column + offset)
    else if c = '\n' then lineColumn (offset - 1) (line + 1) 0 rest
    else lineColumn (offset - c.utf8Size) line (column + c.utf8Size) rest

/-- The whole complaint about a text. -/
def Fault.message (f : Fault) (text : List Char) : String :=
  let (line, column) := lineColumn f.offset 1 0 text
  f.cause.message ++ " at line " ++ toString line ++ " column " ++ toString column

/-! ## Reading strings -/

/-- The number that four hexadecimal digits stand for. -/
def hexValues? (a b c d : Char) : Option Nat := do
  return 4096 * (← Text.hexValue? a) + 256 * (← Text.hexValue? b) + 16 * (← Text.hexValue? c) + (← Text.hexValue? d)

/-- How many bytes a list of characters takes. -/
def byteLength (cs : List Char) : Nat :=
  cs.foldl (fun n c => n + c.utf8Size) 0

/-- The fault of four characters that are not four hexadecimal digits. -/
def hexFault (offset : Nat) (cs : List Char) : Fault :=
  if byteLength (cs.take 4) < 4 then ⟨.eofString, offset + byteLength cs⟩ else ⟨.invalidEscape, offset + 4⟩

/-- The fault of a leading surrogate that is not followed by a trailing one, from the place after it. -/
def pairFault (offset : Nat) (cs : List Char) : Fault :=
  match cs with
  | [] => ⟨.eofString, offset⟩
  | '\\' :: [] => ⟨.eofString, offset + 1⟩
  | '\\' :: 'u' :: rest =>
    match rest with
    | a :: b :: c :: d :: _ =>
      if (hexValues? a b c d).isSome then ⟨.loneSurrogate, offset + 6⟩ else hexFault (offset + 2) rest
    | _ => hexFault (offset + 2) rest
  | '\\' :: _ => ⟨.endOfHexEscape, offset + 2⟩
  | _ => ⟨.endOfHexEscape, offset + 1⟩

/-- The character that a short escape stands for. -/
def shortEscape? : Char → Option Char
  | '"' => some '"'
  | '\\' => some '\\'
  | '/' => some '/'
  | 'b' => some '\x08'
  | 'f' => some '\x0c'
  | 'n' => some '\n'
  | 'r' => some '\r'
  | 't' => some '\t'
  | _ => none

/-- Puts a character before the string that was read after it. -/
def consChar (c : Char) : Except Fault (List Char × Cursor) → Except Fault (List Char × Cursor)
  | .ok (cs, p) => .ok (c :: cs, p)
  | .error f => .error f

/-- The string whose opening quote has been read, and the place after its closing quote. -/
def readString (offset : Nat) : List Char → Except Fault (List Char × Cursor)
  | [] => .error ⟨.eofString, offset⟩
  | '"' :: rest => .ok ([], ⟨offset + 1, rest⟩)
  | '\\' :: 'u' :: a :: b :: c :: d :: rest =>
    match hexValues? a b c d with
    | none => .error (hexFault (offset + 2) (a :: b :: c :: d :: rest))
    | some n =>
      if 0xDC00 ≤ n ∧ n ≤ 0xDFFF then .error ⟨.loneSurrogate, offset + 6⟩
      else if 0xD800 ≤ n ∧ n ≤ 0xDBFF then
        match rest with
        | '\\' :: 'u' :: e :: f :: g :: h :: rest' =>
          match hexValues? e f g h with
          | some m =>
            if 0xDC00 ≤ m ∧ m ≤ 0xDFFF then
              consChar (Char.ofNat (0x10000 + 1024 * (n - 0xD800) + (m - 0xDC00))) (readString (offset + 12) rest')
            else .error (pairFault (offset + 6) rest)
          | none => .error (pairFault (offset + 6) rest)
        | _ => .error (pairFault (offset + 6) rest)
      else consChar (Char.ofNat n) (readString (offset + 6) rest)
  | '\\' :: 'u' :: rest => .error (hexFault (offset + 2) rest)
  | '\\' :: c :: rest =>
    match shortEscape? c with
    | some d => consChar d (readString (offset + 2) rest)
    | none => .error ⟨.invalidEscape, offset + 2⟩
  | '\\' :: [] => .error ⟨.eofString, offset + 1⟩
  | c :: rest =>
    if c.toNat < 0x20 then .error ⟨.controlCharacter, offset + 1⟩
    else consChar c (readString (offset + c.utf8Size) rest)

/-! ## Reading objects -/

/-- The blanks of JSON. -/
def isJsonBlank (c : Char) : Bool :=
  c == ' ' || c == '\n' || c == '\t' || c == '\r'

/-- The place after the blanks that follow. -/
def Cursor.skipBlanks (p : Cursor) : Cursor :=
  ⟨p.offset + (p.rest.takeWhile isJsonBlank).length, p.rest.dropWhile isJsonBlank⟩

/-- The place after a word whose first letter is the next character. -/
def Cursor.skipWord (p : Cursor) : List Char → Except Fault Cursor
  | [] => .ok p
  | w :: ws =>
    match p.rest with
    | [] => .error (p.fault .eofValue)
    | c :: _ => if c = w then p.next.skipWord ws else .error ⟨.expectedIdentifier, p.offset + 1⟩

/-- The fault of a value of another kind than `expected`. Simple values are read to their end first. -/
def wrongType (expected : String) (p : Cursor) : Fault :=
  let found (p : Cursor) (what : String) : Fault := p.fault (.wrongType what expected)
  let word (w : String) (what : String) : Fault :=
    match p.skipWord w.toList with
    | .ok p => found p what
    | .error f => f
  let number (negative : Bool) (p : Cursor) : Fault :=
    match readNumber negative p with
    | .ok (n, p) => found p n.describe
    | .error f => f
  match p.rest with
  | 'n' :: _ => word "null" "null"
  | 't' :: _ => word "true" "boolean `true`"
  | 'f' :: _ => word "false" "boolean `false`"
  | '"' :: rest =>
    match readString (p.offset + 1) rest with
    | .ok (cs, p) => found p ("string " ++ Text.quoted (String.ofList cs))
    | .error f => f
  | '[' :: _ => found p "sequence"
  | '\x7b' :: _ => found p "map"
  | '-' :: _ => number true p.next
  | c :: _ => if c.isDigit then number false p else p.faultAhead .expectedValue
  | [] => p.faultAhead .eofValue

/-- The string that stands next, after blanks. -/
def readText (p : Cursor) : Except Fault (String × Cursor) :=
  let p := p.skipBlanks
  match p.rest with
  | '"' :: rest => (readString (p.offset + 1) rest).map fun r => (String.ofList r.1, r.2)
  | _ => .error (wrongType "a string" p)

/-- The place after the colon that stands next, after blanks. -/
def readColon (p : Cursor) : Except Fault Cursor :=
  let p := p.skipBlanks
  match p.rest with
  | ':' :: _ => .ok p.next
  | [] => .error (p.faultAhead .eofObject)
  | _ => .error (p.faultAhead .expectedColon)

/-- The member whose name's opening quote is the next character. -/
def readMember (p : Cursor) : Except Fault ((String × String) × Cursor) := do
  let (name, p) ← readText p
  let p ← readColon p
  let (value, p) ← readText p
  return ((name, value), p)

/-- The members up to the closing brace, and the place after it. Every member takes at least one character. -/
def readMembers : (fuel : Nat) → (first : Bool) → Cursor → Except Fault (List (String × String) × Cursor)
  | 0, _, p => .error (p.fault .eofObject)
  | fuel + 1, first, p =>
    let p := p.skipBlanks
    let member (p : Cursor) : Except Fault (List (String × String) × Cursor) := do
      let (e, p) ← readMember p
      let (es, p) ← readMembers fuel false p
      return (e :: es, p)
    match p.rest with
    | [] => .error (p.faultAhead .eofObject)
    | '\x7d' :: _ => .ok ([], p.next)
    | c :: _ =>
      if first then
        if c = '"' then member p else .error (p.faultAhead .keyNotString)
      else if c = ',' then
        let p := p.next.skipBlanks
        match p.rest with
        | [] => .error (p.faultAhead .eofValue)
        | '"' :: _ => member p
        | '\x7d' :: _ => .error (p.faultAhead .trailingComma)
        | _ => .error (p.faultAhead .keyNotString)
      else .error (p.faultAhead .expectedCommaOrEnd)

/-- The members of the object that is the whole text. -/
def readObject (cs : List Char) : Except Fault (List (String × String)) :=
  let p := Cursor.skipBlanks ⟨0, cs⟩
  match p.rest with
  | [] => .error (p.faultAhead .eofValue)
  | '\x7b' :: _ => do
    let (es, p) ← readMembers (cs.length + 1) true p.next
    let p := p.skipBlanks
    if p.rest.isEmpty then return es else throw (p.faultAhead .trailingCharacters)
  | _ => .error (wrongType "a map" p)

/-- The field map that a stored text holds, or the complaint about it. -/
def readFields (text : String) : Except String TextMap :=
  match readObject text.toList with
  | .ok es => .ok (TextMap.ofList es)
  | .error f => .error (f.message text.toList)

end GuardedPatch.Json
