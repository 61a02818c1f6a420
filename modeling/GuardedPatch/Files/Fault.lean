set_option autoImplicit false

/-! # File faults

Why something could not be done with a file, with the wording and the number of the operating system. -/

namespace GuardedPatch.Files

/-- Why something could not be done with a file. -/
inductive Fault
  | absent
  | present
  | notDirectory
  | isDirectory
  /-- The bytes are no UTF-8 text. -/
  | notText
  | other (message : String)
deriving DecidableEq, Repr

/-- The wording of a fault. -/
def Fault.message : Fault → String
  | .absent => "No such file or directory (os error 2)"
  | .present => "File exists (os error 17)"
  | .notDirectory => "Not a directory (os error 20)"
  | .isDirectory => "Is a directory (os error 21)"
  | .notText => "stream did not contain valid UTF-8"
  | .other message => message

end GuardedPatch.Files
