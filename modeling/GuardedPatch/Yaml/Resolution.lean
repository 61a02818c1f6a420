import GuardedPatch.Decimal.Shortest
import GuardedPatch.Text.Hex
import GuardedPatch.Text.Quoted
import GuardedPatch.Yaml.Node

set_option autoImplicit false

/-! # What scalars stand for

A plain scalar stands for null, a boolean, an integer, a float or a text, and the first of these that its text
spells wins. Integers have a sign, or none, and decimal digits without leading zeros, or a prefix for sixteen,
eight or two as the base; what lies beyond 128 bits is no integer. A tag of the standard can force a kind, and then
the text has to spell a value of it. -/

namespace GuardedPatch.Yaml

/-- A float: finite, infinite, or not a number. -/
inductive FloatValue
  | finite (x : Decimal.Binary64)
  | infinite (negative : Bool)
  | notANumber
deriving DecidableEq

/-- A float in digits, never with an exponent. -/
def FloatValue.positional : FloatValue → String
  | .finite x => x.positional
  | .infinite true => "-inf"
  | .infinite false => "inf"
  | .notANumber => "NaN"

/-- A float in digits, with a point in it if it is finite. -/
def FloatValue.positionalWithPoint : FloatValue → String
  | .finite x => x.positionalWithPoint
  | x => x.positional

/-- What a scalar stands for. -/
inductive Resolved
  | null
  | bool (b : Bool)
  | int (n : Int)
  | float (x : FloatValue)
  | text (s : String)
deriving DecidableEq

/-! ## Spellings -/

/-- Whether a text spells null. -/
def spellsNull (s : String) : Bool :=
  s == "null" || s == "Null" || s == "NULL" || s == "~"

/-- The boolean that a text spells. -/
def spelledBool? (s : String) : Option Bool :=
  if s = "true" ∨ s = "True" ∨ s = "TRUE" then some true
  else if s = "false" ∨ s = "False" ∨ s = "FALSE" then some false
  else none

/-- The value of a digit of a base up to sixteen. -/
def digit? (base : Nat) (c : Char) : Option Nat :=
  (Text.hexValue? c).filter (· < base)

/-- The value of a run of digits of a base. -/
def digitsFrom? (base : Nat) (n : Nat) : List Char → Option Nat
  | [] => some n
  | c :: cs =>
    match digit? base c with
    | some d => digitsFrom? base (base * n + d) cs
    | none => none

/-- The number that a text of at least one digit of a base spells. -/
def natural? (base : Nat) (cs : List Char) : Option Nat :=
  if cs.isEmpty then none else digitsFrom? base 0 cs

/-- Whether a text consists of a sign, or none, and two or more decimal digits of which the first is zero. Such a
text is no number. -/
def hasLeadingZero (cs : List Char) : Bool :=
  let cs := match cs with
    | '-' :: rest => rest
    | '+' :: rest => rest
    | cs => cs
  match cs with
  | '0' :: c :: rest => (c :: rest).all Char.isDigit
  | _ => false

/-- The number that an unsigned text spells, by its prefix in base sixteen, eight, two or ten. -/
def magnitude? (cs : List Char) : Option Nat :=
  match cs with
  | '0' :: 'x' :: rest => natural? 16 rest
  | '0' :: 'o' :: rest => natural? 8 rest
  | '0' :: 'b' :: rest => natural? 2 rest
  | cs => if hasLeadingZero cs then none else natural? 10 cs

/-- The integer that a text spells, if it lies within 128 bits: unsigned, or signed with a minus sign. -/
def spelledInt? (s : String) : Option Int :=
  match s.toList with
  | '-' :: cs => (magnitude? cs).bind fun n => if n ≤ Nat.pow 2 127 then some (-(n : Int)) else none
  | '+' :: cs => (magnitude? cs).bind fun n => if n < Nat.pow 2 128 then some (n : Int) else none
  | cs => (magnitude? cs).bind fun n => if n < Nat.pow 2 128 then some (n : Int) else none

/-- The float that a text spells. A number too large for a finite float spells none. -/
def spelledFloat? (s : String) : Option FloatValue :=
  if s ∈ [".inf", ".Inf", ".INF", "+.inf", "+.Inf", "+.INF"] then some (.infinite false)
  else if s ∈ ["-.inf", "-.Inf", "-.INF"] then some (.infinite true)
  else if s ∈ [".nan", ".NaN", ".NAN"] then some .notANumber
  else
    match s.toList with
    | '+' :: '+' :: _ => none
    | '+' :: '-' :: _ => none
    | cs => (Decimal.Binary64.ofChars? cs).map .finite

/-- What a plain scalar without a tag stands for. -/
def resolvePlain (s : String) : Resolved :=
  if s = "" ∨ spellsNull s then .null
  else
    match spelledBool? s, spelledInt? s with
    | some b, _ => .bool b
    | none, some n => .int n
    | none, none =>
      if hasLeadingZero s.toList then .text s
      else
        match spelledFloat? s with
        | some x => .float x
        | none => .text s

/-! ## Tags -/

/-- A tag of the standard. -/
def standardTag (name : String) : Tag :=
  asciiBytes ("tag:yaml.org,2002:" ++ name)

/-- Whether a tag starts with an exclamation mark, which says that its meaning is local. -/
def isLocalTag (tag : Tag) : Bool :=
  tag.head? == some 33

/-- Whether a tag selects one of several kinds of value by name: local, and in valid UTF-8. -/
def selectsKind (tag : Option Tag) : Bool :=
  match tag with
  | some (33 :: rest) => (ByteArray.mk rest.toArray).validateUTF8
  | _ => false

/-- A text that does not spell a value of the kind that its tag forces. -/
structure Misspelled where
  text : String
  /-- What the tag wants. -/
  wanted : String

/-- The value or, where there is none, the complaint. -/
def orMisspelled (text wanted : String) (value : Option Resolved) : Except Misspelled Resolved :=
  match value with
  | some v => .ok v
  | none => .error ⟨text, wanted⟩

/-- What a scalar stands for. Only plain scalars are resolved by their spelling, and only without a tag or with a
local one. -/
def resolve (tag : Option Tag) (style : Style) (text : String) : Except Misspelled Resolved :=
  match tag with
  | none => .ok (if style = .plain then resolvePlain text else .text text)
  | some tag =>
    if tag = standardTag "bool" then orMisspelled text "a boolean" ((spelledBool? text).map .bool)
    else if tag = standardTag "int" then orMisspelled text "an integer" ((spelledInt? text).map .int)
    else if tag = standardTag "float" then orMisspelled text "a float" ((spelledFloat? text).map .float)
    else if tag = standardTag "null" then orMisspelled text "null" (if spellsNull text then some .null else none)
    else .ok (if isLocalTag tag ∧ style = .plain then resolvePlain text else .text text)

/-- How a complaint names a value. Integers beyond 64 bits are named with their width. -/
def Resolved.describe : Resolved → String
  | .null => "unit value"
  | .bool b => "boolean `" ++ (if b then "true" else "false") ++ "`"
  | .int n =>
    if n < -(Nat.pow 2 63) then "integer `" ++ toString n ++ "` as i128"
    else if n ≥ Nat.pow 2 64 then "integer `" ++ toString n ++ "` as u128"
    else "integer `" ++ toString n ++ "`"
  | .float x => "floating point `" ++ x.positionalWithPoint ++ "`"
  | .text s => "string " ++ Text.quoted s

end GuardedPatch.Yaml
