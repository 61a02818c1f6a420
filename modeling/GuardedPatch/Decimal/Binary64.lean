set_option autoImplicit false

/-! # Numbers of the binary64 format

A number text is read as the binary64 number nearest to it, a tie going to the even mantissa. Magnitudes are kept
as a mantissa below 2^53 and a power of two not below 2^-1074, and all rounding is done on exact quotients of
naturals, so no machine float takes part. -/

namespace GuardedPatch.Decimal

/-- The finite number `± mantissa * 2 ^ exponent`. -/
structure Binary64 where
  /-- Set for negative numbers and for negative zero. -/
  negative : Bool
  /-- At least 2^52 unless the exponent is the least one. -/
  mantissa : Nat
  /-- At least -1074. -/
  exponent : Int
deriving DecidableEq, Repr

/-- The quotient rounded to the nearest natural, a half going to the even neighbour. -/
def roundHalfEven (num den : Nat) : Nat :=
  let q := num / den
  let r := num % den
  if 2 * r > den || (2 * r == den && q % 2 == 1) then q + 1 else q

/-- The exponent `e` with `2 ^ e ≤ num / den < 2 ^ (e + 1)`, for positive numbers. -/
def binaryExponent (num den : Nat) : Int :=
  let e : Int := (num.log2 : Int) - den.log2
  let below := if e ≥ 0 then num < den * Nat.pow 2 e.toNat else num * Nat.pow 2 (-e).toNat < den
  if below then e - 1 else e

/-- The magnitude nearest to a quotient, as mantissa and exponent, or nothing past the largest finite one. -/
def roundQuotient? (num den : Nat) : Option (Nat × Int) :=
  if num = 0 then some (0, -1074)
  else
    let shift := max (binaryExponent num den - 52) (-1074)
    let m :=
      if shift ≥ 0 then roundHalfEven num (den * Nat.pow 2 shift.toNat)
      else roundHalfEven (num * Nat.pow 2 (-shift).toNat) den
    let (m, shift) := if m = Nat.pow 2 53 then (Nat.pow 2 52, shift + 1) else (m, shift)
    if shift > 971 then none else some (m, shift)

/-- The magnitude nearest to `digits * 10 ^ exponent`, or nothing past the largest finite one. A value that is
beyond every finite number, or below half of the least positive one, is told by its number of digits alone. -/
def roundDecimal? (digits : Nat) (exponent : Int) : Option (Nat × Int) :=
  let magnitude : Int := (Nat.toDigits 10 digits).length + exponent
  if digits = 0 ∨ magnitude < -330 then some (0, -1074)
  else if magnitude > 320 then none
  else if exponent ≥ 0 then roundQuotient? (digits * Nat.pow 10 exponent.toNat) 1
  else roundQuotient? digits (Nat.pow 10 (-exponent).toNat)

/-! ## Reading number texts -/

/-- The digits of a decimal number text and the power of ten they stand for. -/
structure Scientific where
  digits : Nat
  exponent : Int

/-- The number that a list of decimal digits stands for. -/
def digitsValue (cs : List Char) : Nat :=
  cs.foldl (fun n c => 10 * n + (c.toNat - 48)) 0

/-- An exponent part: `e` or `E`, a sign if there is one, and at least one digit. -/
def readExponent? (cs : List Char) : Option Int :=
  match cs with
  | [] => some 0
  | e :: rest =>
    if e = 'e' ∨ e = 'E' then
      let (negative, ds) :=
        match rest with
        | '-' :: ds => (true, ds)
        | '+' :: ds => (false, ds)
        | ds => (false, ds)
      if ds.isEmpty || !ds.all Char.isDigit then none
      else some (if negative then -(digitsValue ds : Int) else digitsValue ds)
    else none

/-- Digits with at most one point among them, at least one digit, and perhaps an exponent. -/
def readScientific? (cs : List Char) : Option Scientific :=
  let whole := cs.takeWhile Char.isDigit
  let (fraction, rest) :=
    match cs.dropWhile Char.isDigit with
    | '.' :: rest => (rest.takeWhile Char.isDigit, rest.dropWhile Char.isDigit)
    | rest => ([], rest)
  if whole.isEmpty && fraction.isEmpty then none
  else (readExponent? rest).map fun e => ⟨digitsValue (whole ++ fraction), e - fraction.length⟩

/-- The finite number that a text with an optional minus sign stands for; nothing if it is no number or is
nearest to infinity. -/
def Binary64.ofChars? (cs : List Char) : Option Binary64 :=
  let (negative, cs) :=
    match cs with
    | '-' :: cs => (true, cs)
    | '+' :: cs => (false, cs)
    | cs => (false, cs)
  do
    let s ← readScientific? cs
    let (m, q) ← roundDecimal? s.digits s.exponent
    return ⟨negative, m, q⟩

end GuardedPatch.Decimal
