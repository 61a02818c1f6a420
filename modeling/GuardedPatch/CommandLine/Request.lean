import GuardedPatch.CommandLine.Grammar
import GuardedPatch.Settings.Resolve

set_option autoImplicit false

/-! # Requests

What can be asked for on the command line: running a patch, trying it, checking it, and looking after a store. -/

namespace GuardedPatch.CommandLine

/-- What can be asked of a store. -/
inductive StoreRequest
  | get (key : String)
  | set (key value : String)
  | list (json : Bool)
  | features (json : Bool)
  | putFeature (id type : String) (fields : List (String × String))
  | setLocked (key : String) (locked : Bool)
deriving DecidableEq, Repr

/-- What can be asked for. -/
inductive Request
  | apply (path : String) (json : Bool) (traceId : Option String)
  | plan (path : String) (json : Bool) (traceId : Option String)
  | check (path : String) (json : Bool)
  | store (request : StoreRequest)
deriving DecidableEq, Repr

/-- A request with the settings that were given along with it. -/
structure Invocation where
  config : Option String
  layer : SettingsLayer
  request : Request
deriving DecidableEq, Repr

/-- The name and the value of a field, on either side of the first equals sign. Blanks around the name do not
count, and it is not blank itself. -/
def fieldOf? (word : String) : Option (String × String) :=
  match splitAtEquals word.toList with
  | (_, none) => none
  | (name, some value) => if Text.isBlank name then none else some (Text.trim name, value)

/-! ## The grammar -/

/-- A path is not empty. -/
def isPath (word : String) : Bool := word != ""

/-- Options that every command takes. -/
def sharedOptions : List OptionRule :=
  [⟨"config", .value, false, isPath⟩, ⟨"store", .value, false, isPath⟩,
    ⟨"log", .value, false, fun word => (Profile.read word).toBool⟩]

/-- A command without commands below it. -/
def leaf (options : List OptionRule) (operands : List (String → Bool)) : Grammar :=
  ⟨sharedOptions ++ options, operands, []⟩

/-- Any word. -/
def anyWord (_ : String) : Bool := true

/-- The option to print JSON. -/
def jsonOption : OptionRule := ⟨"json", .flag, false, anyWord⟩

/-- The option to name the caller's id of a run. -/
def traceOption : OptionRule := ⟨"trace-id", .value, false, anyWord⟩

/-- The commands on a store. -/
def storeGrammar : Grammar where
  options := sharedOptions
  operands := []
  commands := [
    ("get", leaf [] [anyWord]),
    ("set", leaf [] [anyWord, anyWord]),
    ("list", leaf [jsonOption] []),
    ("features", leaf [jsonOption] []),
    ("put-feature", leaf [⟨"type", .value, true, anyWord⟩, ⟨"field", .values, false, fun w => (fieldOf? w).isSome⟩]
      [anyWord]),
    ("lock", leaf [⟨"unlock", .flag, false, anyWord⟩] [anyWord])]

/-- All commands. -/
def grammar : Grammar where
  options := sharedOptions
  operands := []
  commands := [
    ("apply", leaf [jsonOption, traceOption] [isPath]),
    ("plan", leaf [jsonOption, traceOption] [isPath]),
    ("validate", leaf [jsonOption] [isPath]),
    ("store", storeGrammar)]

/-! ## From words -/

/-- The request that words make. -/
def Request.ofWords? (w : Words) : Option Request :=
  let json := w.has "json"
  match w.commands, w.operands with
  | ["apply"], [path] => some (.apply path json (w.option? "trace-id"))
  | ["plan"], [path] => some (.plan path json (w.option? "trace-id"))
  | ["validate"], [path] => some (.check path json)
  | ["store", "get"], [key] => some (.store (.get key))
  | ["store", "set"], [key, value] => some (.store (.set key value))
  | ["store", "list"], [] => some (.store (.list json))
  | ["store", "features"], [] => some (.store (.features json))
  | ["store", "put-feature"], [id] => do
    let fields ← (w.all "field").mapM fieldOf?
    return .store (.putFeature id (← w.option? "type") fields)
  | ["store", "lock"], [key] => some (.store (.setLocked key (!w.has "unlock")))
  | _, _ => none

/-- What the words of a command line ask for. -/
def Invocation.ofArguments (arguments : List String) : Except Stop Invocation := do
  let w ← grammar.read arguments
  match Request.ofWords? w with
  | some request =>
    let profile := (w.option? "log").bind fun word => (Profile.read word).toOption
    return ⟨w.option? "config", ⟨w.option? "store", profile⟩, request⟩
  | none => .error .misuse

end GuardedPatch.CommandLine
