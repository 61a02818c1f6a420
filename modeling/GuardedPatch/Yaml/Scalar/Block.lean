import GuardedPatch.Yaml.Scalar.Plain

set_option autoImplicit false

/-! # Block scalars

A block scalar consists of the lines after its header that are indented as deep as its first line with text, or as
deep as the header says. A literal scalar keeps its line breaks. A folded one turns a single break between two
lines that start without a blank into a space. The header also says what becomes of the breaks at the end: all are
kept, or one, or none. -/

namespace GuardedPatch.Yaml

/-- What becomes of the line breaks at the end. -/
inductive Chomping
  | strip
  | clip
  | keep
deriving DecidableEq

/-- The options after the indicator of a block scalar. -/
structure BlockHeader where
  chomping : Chomping
  /-- How much deeper than its parent the scalar is indented, or zero if its lines tell. -/
  increment : Nat

/-- The chomping that an indicator asks for. -/
def chomping? : Char → Option Chomping
  | '+' => some .keep
  | '-' => some .strip
  | _ => none

/-- The chomping indicator that stands next, if there is one. -/
def readChomping (c : Cursor) : Option Chomping × Cursor :=
  match c.rest.head?.bind chomping? with
  | some x => (some x, c.next)
  | none => (none, c)

/-- The indentation indicator that stands next, zero if there is none. -/
def readIncrement (c : Cursor) : Except SyntaxError (Nat × Cursor) :=
  match c.rest with
  | d :: _ =>
    if d.isDigit then
      if d = '0' then .error .badBlockHeader else .ok (d.toNat - 48, c.next)
    else .ok (0, c)
  | [] => .ok (0, c)

/-- The header whose indicator has been read, up to the start of the next line. -/
def readHeader (c : Cursor) : Except SyntaxError (BlockHeader × Cursor) := do
  let (before, c) := readChomping c
  let (increment, c) ← readIncrement c
  let (chomping, c) := if before.isNone ∧ increment ≠ 0 then readChomping c else (before, c)
  let c := (c.skip isBlank).skipComment
  match c.rest with
  | [] => return (⟨chomping.getD .clip, increment⟩, c)
  | x :: _ => if isBreak x then return (⟨chomping.getD .clip, increment⟩, c.next) else throw .badBlockHeader

/-- Passes indentation and empty lines. Returns the breaks passed, the latest first, and the deepest column
reached. An `indent` of zero is not known yet. -/
def passEmptyLines (indent : Nat) (deepest : Nat) (breaks : List Char) (place : Position) :
    List Char → Except SyntaxError (List Char × Nat × Cursor)
  | [] => .ok (breaks, max deepest place.column, ⟨[], place⟩)
  | c :: rest =>
    let inside := indent = 0 ∨ place.column < indent
    if c = ' ' ∧ inside then passEmptyLines indent deepest breaks (place.after c) rest
    else if c = '\t' ∧ inside then .error .tabIndentation
    else if isBreak c then passEmptyLines indent (max deepest place.column) (c :: breaks) (place.after c) rest
    else .ok (breaks, max deepest place.column, ⟨c :: rest, place⟩)

/-- What has been read of a block scalar: its text, the break after its last line, and the breaks after that, the
latest character first in each. -/
structure BlockText where
  text : List Char
  lineBreak : List Char
  emptyLines : List Char
  /-- Whether the last line started with a blank. -/
  startedBlank : Bool

/-- The text with the breaks before a further line, which starts with a blank or not. -/
def BlockText.joined (b : BlockText) (literal startsBlank : Bool) : List Char :=
  if !literal && b.lineBreak == ['\n'] && !b.startedBlank && !startsBlank then
    if b.emptyLines.isEmpty then ' ' :: b.text else b.emptyLines ++ b.text
  else b.emptyLines ++ b.lineBreak ++ b.text

/-- Reads the lines of a block scalar. Every line with text takes at least one character. -/
def blockLines (literal : Bool) (indent : Nat) : (fuel : Nat) → BlockText → Cursor →
    Except SyntaxError (BlockText × Cursor)
  | 0, b, c => .ok (b, c)
  | fuel + 1, b, c =>
    match c.rest with
    | [] => .ok (b, c)
    | x :: _ =>
      if c.place.column = indent then do
        let text := b.joined literal (isBlank x)
        let (line, c) := c.span fun y => !isBreak y
        let lineBreak := c.rest.take 1
        let (emptyLines, _, c) ← passEmptyLines indent 0 [] c.next.place c.next.rest
        blockLines literal indent fuel ⟨line.reverse ++ text, lineBreak, emptyLines, isBlank x⟩ c
      else .ok (b, c)

/-- The block scalar whose indicator is the next character, inside a collection indented by `parent`. -/
def scanBlock (literal : Bool) (parent : Int) (c : Cursor) : Except SyntaxError Scanned := do
  let (header, c) ← readHeader c.next
  let given := if header.increment = 0 then 0 else ((max parent 0) + header.increment).toNat
  let (emptyLines, deepest, c) ← passEmptyLines given 0 [] c.place c.rest
  let indent := if given = 0 then max deepest (max (parent + 1).toNat 1) else given
  let (b, c) ← blockLines literal indent (c.rest.length + 1) ⟨[], [], emptyLines, false⟩ c
  let text :=
    match header.chomping with
    | .strip => b.text
    | .clip => b.lineBreak ++ b.text
    | .keep => b.emptyLines ++ b.lineBreak ++ b.text
  return ⟨String.ofList text.reverse, c, false⟩

end GuardedPatch.Yaml
