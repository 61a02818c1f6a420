import GuardedPatch.Text.Hex
import GuardedPatch.Yaml.Source

set_option autoImplicit false

/-! # YAML tokens

A text is a sequence of tokens: scalars, the indicators that structure collections, and marks that show where an
indented collection or a mapping key begins and where an indented collection ends. -/

namespace GuardedPatch.Yaml

/-- How a scalar is written. -/
inductive Style
  | plain
  | singleQuoted
  | doubleQuoted
  | literal
  | folded
deriving DecidableEq, Repr

/-- A part of a YAML text. -/
inductive Token
  | versionDirective (major minor : Nat)
  | tagDirective (handle : String) (leading : List UInt8)
  | documentStart
  | documentEnd
  | blockSequenceStart
  | blockMappingStart
  | blockEnd
  | flowSequenceStart
  | flowSequenceEnd
  | flowMappingStart
  | flowMappingEnd
  | blockEntry
  | flowEntry
  | key
  | value
  | alias (name : String)
  | anchor (name : String)
  | tag (handle : String) (suffix : List UInt8)
  | scalar (style : Style) (text : String)
  | streamEnd
deriving DecidableEq, Repr

/-! ## Directives, tags and anchors -/

/-- The name that starts at a cursor. -/
def scanName (c : Cursor) : String × Cursor :=
  let (cs, c) := c.span isNameChar
  (String.ofList cs, c)

/-- A number of one to nine digits. -/
def scanVersionNumber (c : Cursor) : Except SyntaxError (Nat × Cursor) :=
  let (ds, c) := c.span Char.isDigit
  if ds.isEmpty || ds.length > 9 then .error .badDirective
  else .ok (ds.foldl (fun n d => 10 * n + (d.toNat - 48)) 0, c)

/-- A tag handle: an exclamation mark, a name, and perhaps a second exclamation mark. In a directive the second
one may only be missing when the name is. -/
def scanTagHandle (directive : Bool) (c : Cursor) : Except SyntaxError (String × Cursor) :=
  match c.rest with
  | '!' :: _ =>
    let (name, c) := scanName c.next
    match c.rest with
    | '!' :: _ => .ok ("!" ++ name ++ "!", c.next)
    | _ => if directive ∧ name ≠ "" then .error .badTag else .ok ("!" ++ name, c)
  | _ => .error .badTag

/-- The byte that a percent sign and two hexadecimal digits stand for. -/
def scanEscapedByte (c : Cursor) : Except SyntaxError (Nat × Cursor) :=
  match c.rest with
  | '%' :: a :: b :: _ =>
    match Text.hexValue? a, Text.hexValue? b with
    | some x, some y => .ok (16 * x + y, c.advance 3)
    | _, _ => .error .badTag
  | _ => .error .badTag

/-- How many bytes follow the first byte of a character. -/
def trailingBytes? (byte : Nat) : Option Nat :=
  if byte < 0x80 then some 0
  else if byte / 32 = 6 then some 1
  else if byte / 16 = 14 then some 2
  else if byte / 8 = 30 then some 3
  else none

/-- The escaped bytes that continue a character. -/
def scanTrailingBytes : Nat → Cursor → Except SyntaxError (List UInt8 × Cursor)
  | 0, c => .ok ([], c)
  | n + 1, c => do
    let (byte, c) ← scanEscapedByte c
    if byte / 64 ≠ 2 then throw .badTag
    let (rest, c) ← scanTrailingBytes n c
    return (UInt8.ofNat byte :: rest, c)

/-- The escaped bytes of one character. -/
def scanEscapedChar (c : Cursor) : Except SyntaxError (List UInt8 × Cursor) := do
  let (byte, c) ← scanEscapedByte c
  match trailingBytes? byte with
  | none => throw .badTag
  | some n =>
    let (rest, c) ← scanTrailingBytes n c
    return (UInt8.ofNat byte :: rest, c)

/-- The characters of tags besides names; commas and brackets only where nothing around could claim them. -/
def isTagChar (verbatim : Bool) (c : Char) : Bool :=
  isNameChar c || ";/?:@&=+$.!~*'()%".toList.contains c || (verbatim && (c == ',' || c == '[' || c == ']'))

/-- The bytes of a run of tag characters. Every step takes at least one character. -/
def scanTagBytes (verbatim : Bool) : (fuel : Nat) → Cursor → Except SyntaxError (List UInt8 × Cursor)
  | 0, c => .ok ([], c)
  | fuel + 1, c =>
    match c.rest with
    | [] => .ok ([], c)
    | x :: _ =>
      if isTagChar verbatim x then do
        let (bytes, c) ← if x = '%' then scanEscapedChar c else .ok ([UInt8.ofNat x.toNat], c.next)
        let (more, c) ← scanTagBytes verbatim fuel c
        return (bytes ++ more, c)
      else .ok ([], c)

/-- A run of tag characters that is not empty unless `emptyAllowed`. -/
def scanTagText (verbatim emptyAllowed : Bool) (c : Cursor) : Except SyntaxError (List UInt8 × Cursor) := do
  let (bytes, d) ← scanTagBytes verbatim (c.rest.length + 1) c
  if bytes.isEmpty && !emptyAllowed then throw .badTag
  return (bytes, d)

/-- The directive whose percent sign is the next character, up to the start of the next line. -/
def scanDirective (c : Cursor) : Except SyntaxError (Token × Cursor) := do
  let (name, c) := scanName c.next
  if name = "" ∨ !startsBlank c.rest then throw .badDirective
  let (token, c) ←
    if name = "YAML" then do
      let (major, c) ← scanVersionNumber (c.skip isBlank)
      if c.rest.head? ≠ some '.' then throw .badDirective
      let (minor, c) ← scanVersionNumber c.next
      pure (Token.versionDirective major minor, c)
    else if name = "TAG" then do
      let (handle, c) ← scanTagHandle true (c.skip isBlank)
      if !(c.rest.head?.any isBlank) then throw .badDirective
      let (leading, c) ← scanTagText true false (c.skip isBlank)
      if !startsBlank c.rest then throw .badDirective
      pure (Token.tagDirective handle leading, c)
    else throw .badDirective
  let c := (c.skip isBlank).skipComment
  match c.rest with
  | [] => return (token, c)
  | x :: _ => if isBreak x then return (token, c.next) else throw .badDirective

/-- The name of the anchor or alias whose indicator is the next character. -/
def scanAnchor (c : Cursor) : Except SyntaxError (String × Cursor) :=
  let (name, c) := scanName c.next
  let ends := startsBlank c.rest || c.rest.head?.any fun x => "?:,]\x7d%@`".toList.contains x
  if name = "" ∨ !ends then .error .badAnchor else .ok (name, c)

/-- The bytes of an ASCII text. -/
def asciiBytes (s : String) : List UInt8 :=
  s.toList.map fun c => UInt8.ofNat c.toNat

/-- The tag whose exclamation mark is the next character: given in full between angle brackets, or as a handle and
a suffix, or as a suffix to the handle `!`. A lone exclamation mark is a tag of its own. -/
def scanTag (flow : Bool) (c : Cursor) : Except SyntaxError (Token × Cursor) := do
  let (token, c) ←
    match c.rest with
    | '!' :: '<' :: _ => do
      let (bytes, c) ← scanTagText true false (c.advance 2)
      if c.rest.head? ≠ some '>' then throw .badTag
      pure (Token.tag "" bytes, c.next)
    | _ => do
      let (handle, c) ← scanTagHandle false c
      if handle.length > 1 ∧ handle.endsWith "!" then do
        let (bytes, c) ← scanTagText false false c
        pure (Token.tag handle bytes, c)
      else do
        let (bytes, c) ← scanTagText false true c
        let bytes := asciiBytes (handle.drop 1).toString ++ bytes
        pure (if bytes.isEmpty then Token.tag "" (asciiBytes "!") else Token.tag "!" bytes, c)
  if startsBlank c.rest || (flow && c.rest.head? == some ',') then return (token, c) else throw .badTag

end GuardedPatch.Yaml
