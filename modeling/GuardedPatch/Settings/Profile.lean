set_option autoImplicit false

/-! # Log profiles

A profile says how much is logged, and for whom: everything for someone who looks on, the main events for a
program, or nothing. -/

namespace GuardedPatch

/-- How events are logged. -/
inductive Profile
  | development
  | production
  | test
deriving DecidableEq, Repr

namespace Profile

/-- The name of a profile. -/
def name : Profile → String
  | .development => "Development"
  | .production => "Production"
  | .test => "Test"

/-- The profile that a word in full and in lower case stands for. -/
def ofWord? : String → Option Profile
  | "development" => some .development
  | "production" => some .production
  | "test" => some .test
  | _ => none

/-- The text with its ASCII letters in lower case. -/
def lowered (s : String) : String :=
  String.ofList (s.toList.map Char.toLower)

/-- The profile that a word stands for: ASCII letters count in either case, and there are two short forms. -/
def read (word : String) : Except String Profile :=
  match lowered word with
  | "dev" => .ok .development
  | "prod" => .ok .production
  | lower =>
    match ofWord? lower with
    | some p => .ok p
    | none => .error ("unknown log profile '" ++ lower ++ "'")

end Profile

end GuardedPatch
