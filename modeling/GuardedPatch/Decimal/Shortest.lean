import GuardedPatch.Decimal.Binary64

set_option autoImplicit false

/-! # The fewest digits that read back

A binary64 number is written with the fewest decimal digits that read back as the same number. All reals between
the midpoints to its two neighbours read back as it, the midpoints included when its mantissa is even. For one,
two, and up to seventeen digits the two points of that decimal grid around the number are tested against this
interval; the first grid with a hit wins, and of two hits the nearer one. Of two hits equally near a rule chooses.
Seventeen digits always suffice. -/

namespace GuardedPatch.Decimal

/-- Which of two points equally near is taken. -/
inductive TieRule
  | upper
  | even
deriving DecidableEq, Repr

/-- Whether the lower of two equally near points, `n` and the one after it, is taken. -/
def TieRule.takesLower (t : TieRule) (n : Nat) : Bool :=
  match t with
  | .upper => false
  | .even => n % 2 == 0

/-- The positive value `digits * 10 ^ exponent`, and how many digits are written. -/
structure ShortDigits where
  digits : Nat
  exponent : Int
deriving Repr

/-- The reals that read back as one number, as numerators over one denominator. -/
structure Interval where
  value : Nat
  low : Nat
  high : Nat
  den : Nat
  /-- Whether the two ends belong to it. -/
  closed : Bool

/-- The interval of the positive number `mantissa * 2 ^ exponent`. Below a power of two the neighbours are only
half as far away. -/
def Interval.of (mantissa : Nat) (exponent : Int) : Interval :=
  let scale := Nat.pow 2 (exponent - 2).toNat
  let below := if mantissa = Nat.pow 2 52 ∧ exponent > -1074 then 1 else 2
  { value := 4 * mantissa * scale
    low := (4 * mantissa - below) * scale
    high := (4 * mantissa + 2) * scale
    den := Nat.pow 2 (2 - exponent).toNat
    closed := mantissa % 2 == 0 }

/-- Whether `n / d` lies in the interval. -/
def Interval.holds (i : Interval) (n d : Nat) : Bool :=
  if i.closed then i.low * d ≤ n * i.den && n * i.den ≤ i.high * d
  else i.low * d < n * i.den && n * i.den < i.high * d

/-- The point of the grid of step `10 ^ exponent` that is in the interval and nearest to its number. -/
def Interval.gridPoint? (i : Interval) (tie : TieRule) (exponent : Int) : Option Nat :=
  let up := Nat.pow 10 exponent.toNat
  let down := Nat.pow 10 (-exponent).toNat
  let c := i.value * down / (i.den * up)
  let inside (n : Nat) : Bool := i.holds (n * up) down
  let twice := 2 * i.value * down
  let middle := (2 * c + 1) * up * i.den
  match inside c, inside (c + 1) with
  | true, true => some (if twice < middle ∨ (twice = middle ∧ tie.takesLower c) then c else c + 1)
  | true, false => some c
  | false, true => some (c + 1)
  | false, false => none

/-- How many of the powers `10 ^ (1 - j)`, from `j = 1` on, are above the value `num / den < 1`. -/
def leadingZeros (num den : Nat) : Nat → Nat
  | 0 => 0
  | fuel + 1 => if num * 10 ≥ den then 0 else leadingZeros (num * 10) den fuel + 1

/-- The least `k` with value below `10 ^ k`. -/
def Interval.magnitude (i : Interval) : Int :=
  let whole := i.value / i.den
  if whole = 0 then -(leadingZeros i.value i.den 400 : Int) else (Nat.toDigits 10 whole).length

/-- Drops the zeros at the end of the digits. -/
def dropTrailingZeros (digits : Nat) (exponent : Int) : Nat → ShortDigits
  | 0 => ⟨digits, exponent⟩
  | fuel + 1 =>
    if digits ≠ 0 ∧ digits % 10 = 0 then dropTrailingZeros (digits / 10) (exponent + 1) fuel
    else ⟨digits, exponent⟩

/-- The first grid, from `count` digits on, with a point in the interval. -/
def firstGrid (i : Interval) (tie : TieRule) (magnitude : Int) (count : Nat) : Nat → ShortDigits
  | 0 => ⟨i.value / i.den, 0⟩
  | fuel + 1 =>
    match i.gridPoint? tie (magnitude - count) with
    | some n => dropTrailingZeros n (magnitude - count) 20
    | none => firstGrid i tie magnitude (count + 1) fuel

/-- The fewest digits that read back as the number, for a number that is not zero. -/
def Binary64.shortDigits (x : Binary64) (tie : TieRule) : ShortDigits :=
  let i := Interval.of x.mantissa x.exponent
  firstGrid i tie i.magnitude 1 17

/-! ## Written forms -/

/-- The digits with a point at their place and no exponent; no point after whole numbers. -/
def ShortDigits.positional (s : ShortDigits) : List Char :=
  let ds := Nat.toDigits 10 s.digits
  if s.exponent ≥ 0 then ds ++ List.replicate s.exponent.toNat '0'
  else
    let places := (-s.exponent).toNat
    if places < ds.length then ds.take (ds.length - places) ++ '.' :: ds.drop (ds.length - places)
    else '0' :: '.' :: List.replicate (places - ds.length) '0' ++ ds

/-- One digit, a point before the others if there are any, and the power of ten after an `e`. -/
def ShortDigits.exponential (s : ShortDigits) : List Char :=
  let ds := Nat.toDigits 10 s.digits
  let e := s.exponent + ds.length - 1
  let power := (toString e).toList
  match ds with
  | d :: f :: fs => d :: '.' :: f :: fs ++ 'e' :: power
  | ds => ds ++ 'e' :: power

/-- Characters after a minus sign if there is one. -/
def signed (negative : Bool) (body : List Char) : String :=
  String.ofList (if negative then '-' :: body else body)

/-- Digits with a point and a zero after whole numbers. -/
def withPoint (body : List Char) : List Char :=
  if body.contains '.' then body else body ++ ['.', '0']

/-- The digits of a number without its sign and without an exponent, upwards if two are equally near. -/
def Binary64.positionalDigits (x : Binary64) : List Char :=
  if x.mantissa = 0 then ['0'] else (x.shortDigits .upper).positional

/-- A number in digits alone, never with an exponent: `1`, `0.25`, `-0`. -/
def Binary64.positional (x : Binary64) : String :=
  signed x.negative x.positionalDigits

/-- The positional form with a point in it: `1.0`, `0.25`. -/
def Binary64.positionalWithPoint (x : Binary64) : String :=
  signed x.negative (withPoint x.positionalDigits)

/-- The form used in JSON: with a point for numbers from 0.00001 to below 10^16, else exponential, and with an even
last digit if two are equally near. -/
def Binary64.jsonText (x : Binary64) : String :=
  if x.mantissa = 0 then signed x.negative ['0', '.', '0']
  else
    let s := x.shortDigits .even
    let magnitude := s.exponent + (Nat.toDigits 10 s.digits).length
    signed x.negative (if -5 < magnitude ∧ magnitude ≤ 16 then withPoint s.positional else s.exponential)

end GuardedPatch.Decimal
