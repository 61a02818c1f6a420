import GuardedPatch.Text.Blank

set_option autoImplicit false

/-! # Secrets

A patch never carries a credential. A field whose name speaks of a token, a password or a secret holds a reference
instead: `credentialsJSON:` and the id of a credential kept by the server, or `env:` and the name of an environment
variable of the host. Wherever the value of such a field could be seen, a fixed text is shown. -/

namespace GuardedPatch

/-- Whether a list of characters has `run` somewhere in it, without a break. -/
def containsRun (run : List Char) : List Char → Bool
  | [] => run.isEmpty
  | c :: rest => run.isPrefixOf (c :: rest) || containsRun run rest

/-- Whether a field with this name has to hold a reference. ASCII letters count in either case. -/
def isSecretField (name : String) : Bool :=
  let lower := name.toList.map Char.toLower
  containsRun "token".toList lower || containsRun "password".toList lower || containsRun "secret".toList lower

/-- What follows `lead` in a list that starts with it. -/
def afterLead? (lead cs : List Char) : Option (List Char) :=
  if lead.isPrefixOf cs then some (cs.drop lead.length) else none

/-- A reference to a credential. -/
inductive SecretRef
  | credentials (id : String)
  | env (variableName : String)
deriving DecidableEq, Repr

namespace SecretRef

/-- What a reference to a credential of the server starts with. -/
def credentialsLead : String := "credentialsJSON:"

/-- What a reference to an environment variable starts with. -/
def envLead : String := "env:"

/-- The characters of variable names. -/
def isVariableChar (c : Char) : Bool :=
  c.isAlphanum || c == '_'

/-- The reference that a value is, or nothing for a literal. -/
def parse? (value : String) : Option SecretRef :=
  match afterLead? credentialsLead.toList value.toList with
  | some id => if id.all Text.isBlankChar then none else some (.credentials (String.ofList id))
  | none =>
    match afterLead? envLead.toList value.toList with
    | some name => if !name.isEmpty && name.all isVariableChar then some (.env (String.ofList name)) else none
    | none => none

/-- The value that a reference is written as. -/
def text : SecretRef → String
  | .credentials id => credentialsLead ++ id
  | .env name => envLead ++ name

end SecretRef

/-- What is shown instead of a secret. -/
def redacted : String := "***REDACTED***"

/-- A value that is only shown as the fixed text. -/
structure Sensitive (α : Type) where
  /-- The value itself, for the few places that need it. -/
  exposed : α
deriving DecidableEq

/-- The text shown for a sensitive value. -/
def Sensitive.shown {α : Type} (_ : Sensitive α) : String :=
  redacted

instance {α : Type} : ToString (Sensitive α) := ⟨Sensitive.shown⟩

end GuardedPatch
