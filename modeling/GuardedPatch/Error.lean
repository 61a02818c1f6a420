import GuardedPatch.Patch.Result

set_option autoImplicit false

/-! # Errors

Whatever stops a patch is told by its cause. Causes fall into seven kinds, each with a stable code and an exit
status of the command line; everything that loading a text can complain about is of one kind. A parameter that does
not have its expected value is no error: it is skipped. -/

namespace GuardedPatch

/-- Why a text or a list of changes is no valid document. -/
inductive LoadError
  | malformed (reason : String)
  | unsupportedSchemaVersion (found : Nat)
  | missingField (entry field : String)
  | duplicateKey (key : String)
  | duplicateFeature (id : String)
  | invalidFeatureMode (id reason : String)
  | inlineSecret (id field : String)
deriving DecidableEq

/-- What went wrong in a store. -/
inductive StoreError
  /-- The store refuses to write this key. -/
  | rejected (key reason : String)
  /-- The storage behind it failed. -/
  | backend (message : String)
deriving DecidableEq

/-- Why a patch was stopped. -/
inductive PatchError
  | load (e : LoadError)
  | featureNotFound (id : String) (type? : Option String)
  | reportMismatch (reason : String)
  /-- A write failed. `partialResult` holds what was done before it, and `rolledBack` says whether all of that was
  undone. -/
  | applyAborted (key reason : String) (partialResult : ApplyResult) (rolledBack : Bool)
  | io (path message : String)
  | persistence (message : String)
  | config (message : String)
  | internal (message : String)
deriving DecidableEq

/-- The kinds of errors. -/
inductive ErrorKind
  | parse
  | featureNotFound
  | applyAborted
  | io
  | persistence
  | config
  | internal
deriving DecidableEq, Repr

namespace ErrorKind

/-- The name of a kind. -/
def name : ErrorKind → String
  | .parse => "Parse"
  | .featureNotFound => "FeatureNotFound"
  | .applyAborted => "ApplyAborted"
  | .io => "Io"
  | .persistence => "Persistence"
  | .config => "Config"
  | .internal => "Internal"

/-- All kinds. -/
def all : List ErrorKind :=
  [.parse, .featureNotFound, .applyAborted, .io, .persistence, .config, .internal]

/-- The kind with a name. -/
def ofName? (s : String) : Option ErrorKind :=
  all.find? (·.name == s)

/-- The stable code of a kind. -/
def code : ErrorKind → String
  | .parse => "ERR_PARSE"
  | .featureNotFound => "ERR_FEATURE_NOT_FOUND"
  | .applyAborted => "ERR_APPLY_ABORTED"
  | .io => "ERR_IO"
  | .persistence => "ERR_PERSISTENCE"
  | .config => "ERR_CONFIG"
  | .internal => "ERR_INTERNAL"

/-- The exit status of a command that an error of this kind stopped. -/
def exitCode : ErrorKind → Nat
  | .parse => 2
  | .featureNotFound => 3
  | .applyAborted => 4
  | .io | .persistence | .config | .internal => 1

end ErrorKind

/-! ## Wording -/

/-- The wording of a load error. -/
def LoadError.message : LoadError → String
  | .malformed reason => "Malformed patch document: " ++ reason
  | .unsupportedSchemaVersion found => "Unsupported schema_version: " ++ toString found ++ ". Expected 0"
  | .missingField entry field => "Entry " ++ entry ++ " is missing required field '" ++ field ++ "'"
  | .duplicateKey key => "Duplicate parameter key in patch document: " ++ key
  | .duplicateFeature id => "Duplicate feature id in patch document: " ++ id
  | .invalidFeatureMode id reason => "Feature " ++ id ++ " has invalid mode: " ++ reason
  | .inlineSecret id field =>
    "Feature " ++ id ++ " field '" ++ field
      ++ "' must be a credential reference (credentialsJSON:<id> or env:<VAR>), not a literal"

/-- The wording of a store error. -/
def StoreError.message : StoreError → String
  | .rejected key reason => "store rejected write to " ++ key ++ ": " ++ reason
  | .backend message => "store backend failure: " ++ message

namespace PatchError

/-- The kind of an error. -/
def kind : PatchError → ErrorKind
  | .load _ => .parse
  | .featureNotFound _ _ => .featureNotFound
  | .applyAborted _ _ _ _ => .applyAborted
  | .io _ _ => .io
  | .persistence _ => .persistence
  | .config _ => .config
  | .reportMismatch _ | .internal _ => .internal

/-- Whether loading can give this error. -/
def isParseError (e : PatchError) : Bool :=
  e.kind == .parse

/-- The exit status of a command that this error stopped. -/
def exitCode (e : PatchError) : Nat :=
  e.kind.exitCode

/-- The wording of an error. -/
def message : PatchError → String
  | .load e => e.message
  | .featureNotFound id type? =>
    "Feature not found: id=" ++ id ++ (match type? with | some t => ", type=" ++ t | none => "")
  | .reportMismatch reason => "Validation report does not match patch document: " ++ reason
  | .applyAborted key reason _ _ => "Apply aborted at " ++ key ++ ": " ++ reason
  | .io path message => "I/O error on " ++ path ++ ": " ++ message
  | .persistence message => "Persistence error: " ++ message
  | .config message => "Configuration error: " ++ message
  | .internal message => "Internal error: " ++ message

/-- A store error met outside of a guarded write. -/
def ofStore (e : StoreError) : PatchError :=
  .persistence e.message

end PatchError

/-! ## Reports for programs -/

/-- An error laid out for programs: its kind, what was being done, and what it is about. -/
structure ErrorReport where
  kind : ErrorKind
  op : Option String
  key : Option String
  featureId : Option String
  message : String
deriving DecidableEq

namespace ErrorReport

/-- A report that only tells the kind. -/
def ofKind (kind : ErrorKind) : ErrorReport :=
  ⟨kind, none, none, none, ""⟩

/-- The report in one line. -/
def text (r : ErrorReport) : String :=
  let part (lead : String) (value : Option String) (tail : String) : String :=
    match value with
    | some v => lead ++ v ++ tail
    | none => ""
  "[" ++ r.kind.code ++ "]" ++ part " in operation '" r.op "'" ++ (if r.message = "" then "" else ": " ++ r.message)
    ++ part " (key: " r.key ")" ++ part " (feature_id: " r.featureId ")"

end ErrorReport

/-- What a load error is about: a key, or a feature. -/
def LoadError.subject : LoadError → Option String × Option String
  | .malformed _ | .unsupportedSchemaVersion _ => (none, none)
  | .missingField entry _ => (some entry, none)
  | .duplicateKey key => (some key, none)
  | .duplicateFeature id | .invalidFeatureMode id _ | .inlineSecret id _ => (none, some id)

/-- The report of an error. -/
def PatchError.report (e : PatchError) : ErrorReport :=
  let make (op key featureId : Option String) : ErrorReport := ⟨e.kind, op, key, featureId, e.message⟩
  match e with
  | .load e => make (some "load") e.subject.1 e.subject.2
  | .featureNotFound id _ => make (some "validate") none (some id)
  | .applyAborted key _ _ _ => make (some "apply") (some key) none
  | .reportMismatch _ => make (some "apply") none none
  | .io _ _ | .persistence _ | .config _ | .internal _ => make none none none

end GuardedPatch
