import GuardedPatch.CommandLine.StoreRequest
import GuardedPatch.CommandLine.Summary
import GuardedPatch.Files.Path
import GuardedPatch.Run.Command

set_option autoImplicit false

/-! # Running a command line

Words are read, settings are settled, and then what was asked for is done. A patch is read before its store is
opened, so that a patch that is not there leaves no store behind; an opened store stays, whatever comes after. -/

namespace GuardedPatch.CommandLine

open Files (Fault)

/-- How a command line ended. -/
inductive Ending
  /-- It was done; these lines are printed. -/
  | done (lines : List String)
  | failed (e : PatchError)
  /-- The words did not lead to a request. -/
  | stopped (s : Stop)

/-- The exit status of an ending. -/
def Ending.exitCode : Ending → Nat
  | .done _ => 0
  | .failed e => e.exitCode
  | .stopped .help => 0
  | .stopped .misuse => 1

/-- What is printed at an ending. -/
def Ending.output : Ending → String
  | .done lines => String.join (lines.map (· ++ "\n"))
  | _ => ""

/-- What is said about a failure. -/
def Ending.complaint? : Ending → Option String
  | .failed e => some ("Error: " ++ e.message)
  | _ => none

/-- The ending of an answer in lines. -/
def Ending.ofAnswer : Except PatchError (List String) → Ending
  | .ok lines => .done lines
  | .error e => .failed e

/-- Whether a path stands for the text given to the command itself. -/
def isInput (path : String) : Bool :=
  path.startsWith "-" && Files.steps path == ["-"]

/-- Whether a store of this name is kept nowhere. -/
def isTemporary (path : String) : Bool :=
  path == "" || path == ":memory:"

/-- The lines for an outcome. -/
def outcomeLines (json : Bool) (o : RunOutcome) : List String :=
  if json then [o.toJson.indented] else o.summary

/-- The lines for a document. -/
def documentLines (json : Bool) (path : String) (d : DocumentSummary) : List String :=
  if json then [d.toJson.indented] else d.summary path

/-- What a store is asked to do: an answer, the store after it, and the events. -/
abbrev StoreActivity := TableStore → Traced TableStore (List String)

variable {m : Type → Type} [Monad m] [Host m]

/-- The text of a patch. -/
def readPatch (path : String) : m (Except PatchError String) := do
  let text ← if isInput path then Host.readInput else Host.readText path
  return text.mapError fun (fault : Fault) => .io path fault.message

/-- Opens the store at a path, with the directories above it. -/
def openImage (path : String) : m (Except PatchError StoreImage) := do
  if isTemporary path then return .ok .empty
  let parent := (Files.parent? path).getD ""
  let made ← if parent = "" then pure (.ok ()) else Host.makeDirectories parent
  match made with
  | .error fault => return .error (.io parent fault.message)
  | .ok _ => return (← Host.openStore path).mapError fun message => .persistence ("sqlite: " ++ message)

/-- Does something with the store at a path. -/
def withStore (path : String) (activity : StoreActivity) : m (Except PatchError (List String) × List Log.Event) := do
  match ← openImage path with
  | .error e => return (.error e, [])
  | .ok image =>
    match image.migrate with
    | (.error e, image) =>
      if !isTemporary path then Host.saveStore path image
      return (.error e, [])
    | (.ok _, image) =>
      let t := activity image.toStore
      if !isTemporary path then Host.saveStore path (image.withStore t.store)
      return (t.answer, t.events)

/-- What came of a request: how it ended, what was logged under which ids, and how events are to be logged. -/
structure Finish where
  ending : Ending
  profile : Profile
  context : Context
  events : List Log.Event

/-- Runs a patch with its store. -/
def runPatch (settings : Settings) (path : String) (traceId : Option String) (json : Bool)
    (command : Context → String → TableStore → Traced TableStore RunOutcome) : m Finish := do
  let context : Context := ⟨← Host.newRunId, traceId⟩
  match ← readPatch path with
  | .error e => return ⟨.failed e, settings.profile, context, []⟩
  | .ok text =>
    let (answer, events) ← withStore settings.store fun s => (command context text s).map (outcomeLines json)
    return ⟨.ofAnswer answer, settings.profile, context, events⟩

/-- Does what is asked for. -/
def runRequest (settings : Settings) : Request → m Finish
  | .apply path json traceId => runPatch settings path traceId json applyPatch
  | .plan path json traceId => runPatch settings path traceId json planPatch
  | .check path json => do
    let context : Context := ⟨← Host.newRunId, none⟩
    match ← readPatch path with
    | .error e => return ⟨.failed e, settings.profile, context, []⟩
    | .ok text =>
      let t := checkPatch text
      return ⟨.ofAnswer (t.answer.map (documentLines json path)), settings.profile, context, t.events⟩
  | .store request => do
    let (answer, events) ← withStore settings.store fun s =>
      let (answer, s) := request.run s
      ⟨answer, s, []⟩
    return ⟨.ofAnswer answer, settings.profile, ⟨"", none⟩, events⟩

/-- Runs a command line. -/
def run (arguments : List String) : m Finish := do
  let unlogged (ending : Ending) : Finish := ⟨ending, .test, ⟨"", none⟩, []⟩
  match Invocation.ofArguments arguments with
  | .error stop => return unlogged (.stopped stop)
  | .ok i =>
    match ← Settings.resolve i.config i.layer with
    | .error e => return unlogged (.failed e)
    | .ok settings => runRequest settings i.request

end GuardedPatch.CommandLine
