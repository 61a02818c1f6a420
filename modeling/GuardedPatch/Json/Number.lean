import GuardedPatch.Decimal.Shortest

set_option autoImplicit false

/-! # Numbers in JSON texts

A number where a string or an object should stand is read to its end, because the complaint names it. Whole
numbers within 64 bits are exact. Every other number is a binary64 number, computed from its first digits (as many
as fit into 64 bits) by one multiplication or division with a power of ten, so its last bit may differ from the
nearest one. -/

namespace GuardedPatch.Json

/-- A place in a text: what is left of it, and the number of bytes before. -/
structure Cursor where
  offset : Nat
  rest : List Char

/-- The place after the next character. -/
def Cursor.next (p : Cursor) : Cursor :=
  match p.rest with
  | [] => p
  | c :: rest => ⟨p.offset + c.utf8Size, rest⟩

/-- The place after all decimal digits that follow. -/
def Cursor.skipDigits (p : Cursor) : Cursor :=
  ⟨p.offset + (p.rest.takeWhile Char.isDigit).length, p.rest.dropWhile Char.isDigit⟩

/-- The decimal digits that follow. -/
def Cursor.digits (p : Cursor) : List Nat :=
  (p.rest.takeWhile Char.isDigit).map fun c => c.toNat - 48

/-- What is wrong with a text. -/
inductive Cause
  | eofValue
  | eofString
  | eofObject
  | expectedColon
  | expectedCommaOrEnd
  | expectedIdentifier
  | expectedValue
  | invalidEscape
  | invalidNumber
  | numberOutOfRange
  | controlCharacter
  | keyNotString
  | loneSurrogate
  | trailingComma
  | trailingCharacters
  | endOfHexEscape
  /-- A value of another kind than the one that belongs here. -/
  | wrongType (found expected : String)

/-- A cause and the number of bytes read when it was noticed. -/
structure Fault where
  cause : Cause
  offset : Nat

/-- A fault noticed at the place itself. -/
def Cursor.fault (p : Cursor) (cause : Cause) : Fault :=
  ⟨cause, p.offset⟩

/-- A fault noticed by looking at the next byte, which counts as read if there is one. -/
def Cursor.faultAhead (p : Cursor) (cause : Cause) : Fault :=
  ⟨cause, if p.rest.isEmpty then p.offset else p.offset + 1⟩

/-- The kinds of numbers. -/
inductive Number
  | whole (n : Int)
  | float (x : Decimal.Binary64)

/-- How a complaint names a number. -/
def Number.describe : Number → String
  | .whole n => "integer `" ++ toString n ++ "`"
  | .float x => "floating point `" ++ x.jsonText ++ "`"

/-! ## Digits and powers of ten -/

/-- The largest number of 64 bits. -/
def wordMax : Nat := Nat.pow 2 64 - 1

/-- The number of the first digits that fit into 64 bits, and how many digits are left over. -/
def leadingDigits (significand : Nat) : List Nat → Nat × Nat
  | [] => (significand, 0)
  | d :: ds =>
    if significand * 10 + d > wordMax then (significand, ds.length + 1)
    else leadingDigits (significand * 10 + d) ds

/-- A magnitude divided by the number nearest to `10 ^ 308`, as often as it takes for the remaining power of ten
to be at least `10 ^ -308`. -/
def scaleDown (m : Nat) (q exponent : Int) : Nat → Option (Nat × Int × Int)
  | 0 => some (m, q, exponent)
  | fuel + 1 =>
    if m = 0 ∨ exponent ≥ -308 then some (m, q, exponent)
    else do
      let (m', q') ← Decimal.roundDecimal? 1 308
      let shift := q - q'
      let (m, q) ← Decimal.roundQuotient? (m * Nat.pow 2 shift.toNat) (m' * Nat.pow 2 (-shift).toNat)
      scaleDown m q (exponent + 308) fuel

/-- The magnitude of `significand * 10 ^ exponent` after rounding significand, power and result, or nothing when it
is past the largest finite number. -/
def scaled? (significand : Nat) (exponent : Int) : Option (Nat × Int) := do
  let (m, q) ← Decimal.roundQuotient? significand 1
  if m = 0 then return (m, q)
  if exponent > 308 then none
  let (m, q, exponent) ← scaleDown m q exponent 4
  if m = 0 then return (m, q)
  let (m', q') ← Decimal.roundDecimal? 1 exponent.natAbs
  if exponent ≥ 0 then
    Decimal.roundQuotient? (m * m' * Nat.pow 2 (q + q').toNat) (Nat.pow 2 (-(q + q')).toNat)
  else
    Decimal.roundQuotient? (m * Nat.pow 2 (q - q').toNat) (m' * Nat.pow 2 (q' - q).toNat)

/-! ## Reading -/

/-- The float with this sign, significand and power of ten. -/
def floatOf (negative : Bool) (significand : Nat) (exponent : Int) (p : Cursor) : Except Fault (Number × Cursor) :=
  match scaled? significand exponent with
  | some (m, q) => .ok (.float ⟨negative, m, q⟩, p)
  | none => .error (p.fault .numberOutOfRange)

/-- The power of ten in a list of digits, or the digits after the one with which it passes 31 bits. -/
def exponentDigits (n : Nat) : List Nat → Except Nat Nat
  | [] => .ok n
  | d :: ds => if n * 10 + d > Nat.pow 2 31 - 1 then .error ds.length else exponentDigits (n * 10 + d) ds

/-- The exponent part, whose `e` is the next character. -/
def readExponent (negative : Bool) (significand : Nat) (exponent : Int) (p : Cursor) :
    Except Fault (Number × Cursor) :=
  let p := p.next
  let (below, p) :=
    match p.rest with
    | '+' :: _ => (false, p.next)
    | '-' :: _ => (true, p.next)
    | _ => (false, p)
  match p.rest with
  | [] => .error (p.fault .eofValue)
  | c :: _ =>
    if c.isDigit then
      let after := p.skipDigits
      match exponentDigits 0 p.digits with
      | .ok n => floatOf negative significand (if below then exponent - n else exponent + n) after
      | .error left =>
        if significand ≠ 0 ∧ !below then .error ⟨.numberOutOfRange, after.offset - left⟩
        else .ok (.float ⟨negative, 0, -1074⟩, after)
    else .error ⟨.invalidNumber, p.offset + 1⟩

/-- The fraction, whose point is the next character. -/
def readFraction (negative : Bool) (significand : Nat) (exponent : Nat) (p : Cursor) :
    Except Fault (Number × Cursor) :=
  let p := p.next
  let ds := p.digits
  if ds.isEmpty then
    .error (p.faultAhead (if p.rest.isEmpty then .eofValue else .invalidNumber))
  else
    let (significand, left) := leadingDigits significand ds
    let exponent : Int := exponent - (ds.length - left : Nat)
    let p := p.skipDigits
    match p.rest with
    | 'e' :: _ | 'E' :: _ => readExponent negative significand exponent p
    | _ => floatOf negative significand exponent p

/-- The number after its minus sign, if it has one. -/
def readNumber (negative : Bool) (p : Cursor) : Except Fault (Number × Cursor) :=
  match p.rest with
  | [] => .error (p.fault .eofValue)
  | c :: rest =>
    if c = '0' ∧ rest.head?.any Char.isDigit then .error (p.next.faultAhead .invalidNumber)
    else if c.isDigit then
      let (significand, left) := leadingDigits 0 (if c = '0' then [0] else p.digits)
      let p := if c = '0' then p.next else p.skipDigits
      match p.rest with
      | '.' :: _ => readFraction negative significand left p
      | 'e' :: _ | 'E' :: _ => readExponent negative significand left p
      | _ =>
        if left ≠ 0 ∨ negative ∧ (significand = 0 ∨ significand > Nat.pow 2 63) then
          floatOf negative significand left p
        else .ok (.whole (if negative then -(significand : Int) else significand), p)
    else .error ⟨.invalidNumber, p.offset + 1⟩

end GuardedPatch.Json
