set_option autoImplicit false

/-! # YAML source text

Tokens are read from a list of characters in which every line break is one character. A carriage return, a line
feed, the two together and the next-line character all count as a line feed; the line and paragraph separators are
breaks that stay as they are. A text with a forbidden character breaks off at the block of 16384 bytes that holds
it, because texts are checked a block at a time. -/

namespace GuardedPatch.Yaml

/-- What makes a text not YAML. -/
inductive SyntaxError
  | forbiddenCharacter
  | keyWithoutColon
  | misplacedEntry
  | misplacedKey
  | misplacedValue
  | strayCharacter
  | badDirective
  | badAnchor
  | badTag
  | badEscape
  | badBlockHeader
  | tabIndentation
  | strayColon
  | documentMarkerInScalar
  | unclosedScalar
  | unexpectedToken
  | undefinedTagHandle
  | undefinedAnchor
  | tooManyAliases
  | severalDocuments
deriving DecidableEq, Repr

/-- The wording of a syntax error. -/
def SyntaxError.message : SyntaxError → String
  | .forbiddenCharacter => "control characters are not allowed"
  | .keyWithoutColon => "a simple key has no colon"
  | .misplacedEntry => "a block sequence entry is not allowed here"
  | .misplacedKey => "a mapping key is not allowed here"
  | .misplacedValue => "a mapping value is not allowed here"
  | .strayCharacter => "a character that cannot start any token"
  | .badDirective => "a directive is not well formed"
  | .badAnchor => "an anchor or alias is not well formed"
  | .badTag => "a tag is not well formed"
  | .badEscape => "an escape sequence is not well formed"
  | .badBlockHeader => "a block scalar header is not well formed"
  | .tabIndentation => "a tab character where indentation is expected"
  | .strayColon => "a colon inside a plain scalar"
  | .documentMarkerInScalar => "a document marker inside a quoted scalar"
  | .unclosedScalar => "a quoted scalar is not closed"
  | .unexpectedToken => "a token does not belong here"
  | .undefinedTagHandle => "a tag handle is not defined"
  | .undefinedAnchor => "an anchor is not defined"
  | .tooManyAliases => "aliases are followed too often"
  | .severalDocuments => "more than one document where one is expected"

/-! ## Characters -/

/-- A space or a tab. -/
def isBlank (c : Char) : Bool :=
  c == ' ' || c == '\t'

/-- A line break of a normalised text. -/
def isBreak (c : Char) : Bool :=
  c == '\n' || c == '\u2028' || c == '\u2029'

/-- Whether a list starts with a blank or a break, or is at its end. -/
def startsBlank : List Char → Bool
  | [] => true
  | c :: _ => isBlank c || isBreak c

/-- Letters, digits, hyphen and underscore: the characters of names. -/
def isNameChar (c : Char) : Bool :=
  c.isAlphanum || c == '-' || c == '_'

/-- The byte order mark. -/
def byteOrderMark : Char := '\uFEFF'

/-- The characters a text may hold. -/
def isAllowed (c : Char) : Bool :=
  let n := c.toNat
  n == 0x09 || n == 0x0A || n == 0x0D || (0x20 ≤ n && n ≤ 0x7E) || n == 0x85 || (0xA0 ≤ n && n ≤ 0xFFFD)
    || 0x10000 ≤ n

/-- Whether a list starts with `---` or `...` and a blank, a break or the end after it. -/
def startsDocumentMarker : List Char → Bool
  | '-' :: '-' :: '-' :: rest => startsBlank rest
  | '.' :: '.' :: '.' :: rest => startsBlank rest
  | _ => false

/-! ## Positions -/

/-- A place in a text. -/
structure Position where
  /-- Characters before it. -/
  index : Nat
  /-- Line breaks before it. -/
  line : Nat
  /-- Characters before it on its line. -/
  column : Nat

/-- The place after one more character. -/
def Position.after (p : Position) (c : Char) : Position :=
  if isBreak c then ⟨p.index + 1, p.line + 1, 0⟩ else ⟨p.index + 1, p.line, p.column + 1⟩

/-- The start of a line at or after a place, as if the line ended there. -/
def Position.lineEnded (p : Position) : Position :=
  if p.column = 0 then p else ⟨p.index, p.line + 1, 0⟩

/-- A place and the text from it on. -/
structure Cursor where
  rest : List Char
  place : Position

/-- The cursor after the next character. -/
def Cursor.next (c : Cursor) : Cursor :=
  match c.rest with
  | [] => c
  | x :: rest => ⟨rest, c.place.after x⟩

/-- The cursor after a number of characters. -/
def Cursor.advance (c : Cursor) : Nat → Cursor
  | 0 => c
  | n + 1 => c.next.advance n

/-- Splits at the first character that does not satisfy `p`. -/
def Cursor.span (c : Cursor) (p : Char → Bool) : List Char × Cursor :=
  let taken := c.rest.takeWhile p
  (taken, ⟨c.rest.dropWhile p, taken.foldl Position.after c.place⟩)

/-- The cursor after the characters that satisfy `p`. -/
def Cursor.skip (c : Cursor) (p : Char → Bool) : Cursor :=
  (c.span p).2

/-- The cursor after a comment, if one starts here. -/
def Cursor.skipComment (c : Cursor) : Cursor :=
  match c.rest with
  | '#' :: _ => c.skip fun x => !isBreak x
  | _ => c

/-! ## Texts -/

/-- Writes each line break that counts as a line feed as a line feed. -/
def normaliseBreaks : List Char → List Char
  | '\r' :: '\n' :: rest => '\n' :: normaliseBreaks rest
  | '\r' :: rest => '\n' :: normaliseBreaks rest
  | '\u0085' :: rest => '\n' :: normaliseBreaks rest
  | c :: rest => c :: normaliseBreaks rest
  | [] => []

/-- How many bytes are checked at a time. -/
def blockSize : Nat := 16384

/-- The byte offset of the first forbidden character, counted from `offset`. -/
def forbiddenOffset? (offset : Nat) : List Char → Option Nat
  | [] => none
  | c :: rest => if isAllowed c then forbiddenOffset? (offset + c.utf8Size) rest else some offset

/-- The characters that end within a number of bytes. -/
def takeBytes : Nat → List Char → List Char
  | _, [] => []
  | n, c :: rest => if c.utf8Size ≤ n then c :: takeBytes (n - c.utf8Size) rest else []

/-- The readable part of a text. -/
structure Source where
  chars : List Char
  /-- False when the text breaks off at a block with a forbidden character. -/
  whole : Bool

/-- Drops a byte order mark at the start. -/
def dropMark : List Char → List Char
  | [] => []
  | c :: rest => if c = byteOrderMark then rest else c :: rest

/-- The readable part of a text, its line breaks normalised. -/
def Source.of (text : String) : Source :=
  let cs := text.toList
  match forbiddenOffset? 0 cs with
  | none => ⟨normaliseBreaks (dropMark cs), true⟩
  | some n => ⟨normaliseBreaks (dropMark (takeBytes (n / blockSize * blockSize) cs)), false⟩

end GuardedPatch.Yaml
