import GuardedPatch.Text.Hex
import GuardedPatch.Yaml.Scalar.Plain

set_option autoImplicit false

/-! # Quoted scalars

Between single quotes a quote is written twice and nothing else is escaped. Between double quotes a backslash starts
an escape sequence, by name or by number, and takes away a line break that follows it. Both fold the lines they
run over, and neither may hold a document marker at the start of a line. -/

namespace GuardedPatch.Yaml

/-- The character that a named escape stands for. -/
def namedEscape? : Char → Option Char
  | '0' => some '\x00'
  | 'a' => some '\x07'
  | 'b' => some '\x08'
  | 't' => some '\t'
  | '\t' => some '\t'
  | 'n' => some '\n'
  | 'v' => some '\x0b'
  | 'f' => some '\x0c'
  | 'r' => some '\r'
  | 'e' => some '\x1b'
  | ' ' => some ' '
  | '"' => some '"'
  | '/' => some '/'
  | '\\' => some '\\'
  | 'N' => some '\u0085'
  | '_' => some '\u00a0'
  | 'L' => some '\u2028'
  | 'P' => some '\u2029'
  | _ => none

/-- How many hexadecimal digits follow a numbered escape. -/
def escapeWidth? : Char → Option Nat
  | 'x' => some 2
  | 'u' => some 4
  | 'U' => some 8
  | _ => none

/-- Reads on after an opening single quote. -/
def singleQuotedFrom (text : List Char) (gap : Gap) (place : Position) : List Char → Except SyntaxError Scanned
  | [] => .error .unclosedScalar
  | '\'' :: '\'' :: rest =>
    singleQuotedFrom ('\'' :: (gap.folded ++ text)) .none ((place.after '\'').after '\'') rest
  | '\'' :: rest => .ok ⟨String.ofList (gap.folded ++ text).reverse, ⟨rest, place.after '\''⟩, false⟩
  | c :: rest =>
    if isBlank c || isBreak c then singleQuotedFrom text (gap.add c) (place.after c) rest
    else if place.column = 0 && startsDocumentMarker (c :: rest) then .error .documentMarkerInScalar
    else singleQuotedFrom (c :: (gap.folded ++ text)) .none (place.after c) rest

/-- Reads on after an opening double quote. `number` holds what is known of a numbered escape: the digits it still
lacks and the value of those it has. -/
def doubleQuotedFrom (text : List Char) (gap : Gap) (place : Position) (number : Option (Nat × Nat)) :
    List Char → Except SyntaxError Scanned
  | [] => .error (if number.isSome then .badEscape else .unclosedScalar)
  | c :: rest =>
    match number with
    | some (left, value) =>
      match Text.hexValue? c with
      | none => .error .badEscape
      | some d =>
        let value := 16 * value + d
        if left ≤ 1 then
          if (0xD800 ≤ value ∧ value ≤ 0xDFFF) ∨ value > 0x10FFFF then .error .badEscape
          else doubleQuotedFrom (Char.ofNat value :: text) .none (place.after c) none rest
        else doubleQuotedFrom text .none (place.after c) (some (left - 1, value)) rest
    | none =>
      if isBlank c || isBreak c then doubleQuotedFrom text (gap.add c) (place.after c) none rest
      else if place.column = 0 && startsDocumentMarker (c :: rest) then .error .documentMarkerInScalar
      else if c = '"' then .ok ⟨String.ofList (gap.folded ++ text).reverse, ⟨rest, place.after c⟩, false⟩
      else if c = '\\' then
        match rest with
        | [] => .error .badEscape
        | e :: rest =>
          let text := gap.folded ++ text
          let place := (place.after c).after e
          if isBreak e then doubleQuotedFrom text (.breaks none []) place none rest
          else
            match namedEscape? e, escapeWidth? e with
            | some d, _ => doubleQuotedFrom (d :: text) .none place none rest
            | none, some width => doubleQuotedFrom text .none place (some (width, 0)) rest
            | none, none => .error .badEscape
      else doubleQuotedFrom (c :: (gap.folded ++ text)) .none (place.after c) none rest

/-- The quoted scalar whose opening quote is the next character. -/
def scanQuoted (single : Bool) (c : Cursor) : Except SyntaxError Scanned :=
  let c := c.next
  if single then singleQuotedFrom [] .none c.place c.rest else doubleQuotedFrom [] .none c.place none c.rest

end GuardedPatch.Yaml
