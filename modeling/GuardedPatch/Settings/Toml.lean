import GuardedPatch.Text.Hex

set_option autoImplicit false

/-! # Assignments of strings in TOML

A settings file is a TOML text. Every setting is a string, so only the part of the format is read in which each line
assigns a string to a key; a text with any other kind of value or key has no meaning here and is refused.

Strings come in four forms, between single or double quotes, once or thrice. Escapes count in double quotes only. In
a string between three quotes a line break right after the opening is dropped, one or two quotes stand for
themselves, and a backslash at the end of a line takes the blanks and breaks after it away. -/

namespace GuardedPatch.Toml

/-- Blanks within a line. -/
def isBlank (c : Char) : Bool :=
  c == ' ' || c == '\t'

/-- The characters that may stand in strings and comments: no control characters but the tab. -/
def isTextChar (c : Char) : Bool :=
  c == '\t' || (0x20 ≤ c.toNat && c.toNat != 0x7f)

/-- The characters of a key without quotes. -/
def isKeyChar (c : Char) : Bool :=
  c.isAlphanum || c == '_' || c == '-'

/-- What follows the end of a line, which may have blanks and a comment before it. -/
def lineEnd (cs : List Char) : Option (List Char) :=
  let cs := match cs.dropWhile isBlank with
    | '#' :: rest => rest.dropWhile isTextChar
    | cs => cs
  match cs with
  | [] => some []
  | '\n' :: rest => some rest
  | '\r' :: '\n' :: rest => some rest
  | _ => none

/-! ## Strings -/

/-- A string that was read, and what follows it. -/
abbrev Reading := Option (List Char × List Char)

/-- The reading with a character in front of its string. -/
def cons (c : Char) (r : Reading) : Reading :=
  r.map fun (cs, rest) => (c :: cs, rest)

/-- The character that a short escape stands for. -/
def shortEscape? : Char → Option Char
  | 'b' => some '\x08'
  | 't' => some '\t'
  | 'n' => some '\n'
  | 'f' => some '\x0c'
  | 'r' => some '\r'
  | '"' => some '"'
  | '\\' => some '\\'
  | _ => none

/-- The character whose number is written in these hexadecimal digits. -/
def hexChar? (digits : List Char) : Option Char := do
  let n ← digits.foldlM (fun n c => (Text.hexValue? c).map (16 * n + ·)) 0
  if n.isValidChar then some (Char.ofNat n) else none

/-- Reads up to the closing double quote. -/
def basic : List Char → Reading
  | [] => none
  | '"' :: rest => some ([], rest)
  | '\\' :: 'u' :: a :: b :: c :: d :: rest => do cons (← hexChar? [a, b, c, d]) (basic rest)
  | '\\' :: 'U' :: a :: b :: c :: d :: e :: f :: g :: h :: rest => do
    cons (← hexChar? [a, b, c, d, e, f, g, h]) (basic rest)
  | '\\' :: c :: rest => do cons (← shortEscape? c) (basic rest)
  | c :: rest => if isTextChar c && c != '\\' then cons c (basic rest) else none

/-- Reads up to the closing single quote. -/
def literal : List Char → Reading
  | [] => none
  | '\'' :: rest => some ([], rest)
  | c :: rest => if isTextChar c then cons c (literal rest) else none

/-- What a run of quotes means in a string between three of them: part of the string, or its end after at most two
that are part of it. -/
def closing (quote : Char) (cs : List Char) : Option Reading :=
  let run := cs.takeWhile (· == quote)
  if run.length < 3 then none
  else if run.length ≤ 5 then some (some (run.drop 3, cs.dropWhile (· == quote)))
  else some none

/-- Where a backslash at the end of a line has got to. -/
inductive Gap
  /-- There is none. -/
  | none
  /-- The end of the line is still to come. -/
  | before
  /-- The end of the line was passed. -/
  | after
deriving DecidableEq

/-- Reads up to three closing double quotes. -/
def longBasic : Gap → List Char → Reading
  | _, [] => none
  | .before, '\n' :: rest => longBasic .after rest
  | .before, '\r' :: '\n' :: rest => longBasic .after rest
  | .before, c :: rest => if isBlank c then longBasic .before rest else none
  | .after, '\n' :: rest => longBasic .after rest
  | .after, '\r' :: '\n' :: rest => longBasic .after rest
  | .none, '\n' :: rest => cons '\n' (longBasic .none rest)
  | .none, '\r' :: '\n' :: rest => cons '\n' (longBasic .none rest)
  | _, '\\' :: 'u' :: a :: b :: c :: d :: rest => do cons (← hexChar? [a, b, c, d]) (longBasic .none rest)
  | _, '\\' :: 'U' :: a :: b :: c :: d :: e :: f :: g :: h :: rest => do
    cons (← hexChar? [a, b, c, d, e, f, g, h]) (longBasic .none rest)
  | _, '\\' :: '\n' :: rest => longBasic .after rest
  | _, '\\' :: '\r' :: '\n' :: rest => longBasic .after rest
  | _, '\\' :: c :: rest =>
    if isBlank c then longBasic .before rest else do cons (← shortEscape? c) (longBasic .none rest)
  | gap, c :: rest =>
    if gap = .after ∧ isBlank c then longBasic .after rest
    else
      match closing '"' (c :: rest) with
      | some r => r
      | none => if isTextChar c && c != '\\' then cons c (longBasic .none rest) else none

/-- Reads up to three closing single quotes. -/
def longLiteral : List Char → Reading
  | [] => none
  | '\n' :: rest => cons '\n' (longLiteral rest)
  | '\r' :: '\n' :: rest => cons '\n' (longLiteral rest)
  | c :: rest =>
    match closing '\'' (c :: rest) with
    | some r => r
    | none => if isTextChar c then cons c (longLiteral rest) else none

/-- Drops a line break at the front. -/
def dropBreak : List Char → List Char
  | '\n' :: rest => rest
  | '\r' :: '\n' :: rest => rest
  | cs => cs

/-- Reads a string of any form. -/
def string : List Char → Reading
  | '"' :: '"' :: '"' :: rest => longBasic .none (dropBreak rest)
  | '\'' :: '\'' :: '\'' :: rest => longLiteral (dropBreak rest)
  | '"' :: rest => basic rest
  | '\'' :: rest => literal rest
  | _ => none

/-! ## Assignments -/

/-- Reads a key: a string of one line, or a word. -/
def key : List Char → Reading
  | '"' :: rest => basic rest
  | '\'' :: rest => literal rest
  | cs =>
    let word := cs.takeWhile isKeyChar
    if word.isEmpty then none else some (word, cs.dropWhile isKeyChar)

/-- Reads an assignment with the end of its line. -/
def assignment (cs : List Char) : Option ((String × String) × List Char) := do
  let (name, rest) ← key cs
  match rest.dropWhile isBlank with
  | '=' :: rest =>
    let (value, rest) ← string (rest.dropWhile isBlank)
    return ((String.ofList name, String.ofList value), ← lineEnd rest)
  | _ => none

/-- Reads the assignments of a text. -/
def assignmentsWithin : (fuel : Nat) → List Char → Option (List (String × String))
  | 0, _ => none
  | fuel + 1, cs =>
    match cs.dropWhile isBlank with
    | [] => some []
    | c :: rest =>
      if c = '#' ∨ c = '\n' ∨ c = '\r' then do assignmentsWithin fuel (← lineEnd (c :: rest))
      else do
        let (a, rest) ← assignment (c :: rest)
        return a :: (← assignmentsWithin fuel rest)

/-- The assignments of a text in order. A byte order mark at the front does not count, and no key is assigned
twice. -/
def assignments? (text : String) : Option (List (String × String)) := do
  let cs := match text.toList with
    | '\ufeff' :: rest => rest
    | cs => cs
  let found ← assignmentsWithin (cs.length + 1) cs
  if (found.map (·.1)).Nodup then some found else none

end GuardedPatch.Toml
