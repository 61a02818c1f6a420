import GuardedPatch.Error
import GuardedPatch.Patch.Document
import GuardedPatch.Run.Report

set_option autoImplicit false

/-! # Events

A command tells what it does by events. The first event of a command says that it starts, and its last one how it
ended; both name the command. All others are for looking into a run. An event is rendered as a level and named
fields, to which the ids of the run are added. Events carry no value of a secret field, and an error is told by its
kind alone, since its message may quote values. -/

namespace GuardedPatch

/-- The ids of a run. -/
structure Context where
  runId : String
  /-- An id that the caller gave to find the run again. -/
  traceId : Option String
deriving DecidableEq, Repr

namespace Log

/-- How much an event matters. -/
inductive Level
  | debug
  | info
  | warn
  | error
deriving DecidableEq, Repr

/-- The word for a level. -/
def Level.name : Level → String
  | .debug => "DEBUG"
  | .info => "INFO"
  | .warn => "WARN"
  | .error => "ERROR"

/-- The commands that log how they went. -/
inductive Operation
  | apply
  | plan
  | check
deriving DecidableEq, Repr

/-- The name of a command in the log. -/
def Operation.name : Operation → String
  | .apply => "patch_apply"
  | .plan => "patch_plan"
  | .check => "patch_check"

/-- What a command that went well reports at its end. -/
inductive Tally
  | applied (appliedCount skippedCount : Nat) (digest : String)
  | planned (appliedCount skippedCount : Nat)
  | checked (paramCount featureCount : Nat)
deriving DecidableEq, Repr

/-- The command that reports a tally. -/
def Tally.operation : Tally → Operation
  | .applied .. => .apply
  | .planned .. => .plan
  | .checked .. => .check

/-- Something that happened in a command. -/
inductive Event
  | started (op : Operation)
  | documentLoaded (params features : Nat)
  | paramChange (c : ParamChange)
  /-- A field that a change asks for, with the text that may be shown for its value. -/
  | featureField (id field shown : String)
  | expectationChecked (key : String) (v : Verdict)
  | expectationsCounted (eligible skipped : Nat)
  | writeRejected (key reason : String)
  | undoFailed (target : String) (e : StoreError)
  | runNotClosed (e : StoreError)
  | finished (t : Tally)
  | failed (op : Operation) (kind : ErrorKind)
deriving DecidableEq

/-- The events of a document's changes. Values of secret fields are not shown. -/
def changeEvents (d : Document) : List Event :=
  d.params.map .paramChange ++ d.features.flatMap fun c =>
    c.desired.entries.map fun e =>
      .featureField c.id e.1 (if isSecretField e.1 then (Sensitive.mk e.2).shown else e.2)

/-! ## Rendering -/

/-- Where the events at the ends of a command come from. -/
def component : String := "patchx_engine::commands::patch_run"

/-- The level of an event. -/
def Event.level : Event → Level
  | .started _ | .finished _ => .info
  | .undoFailed .. | .runNotClosed _ => .warn
  | .failed .. => .error
  | _ => .debug

/-- The fields at either end of a command. -/
def boundary (op : Operation) (event : String) : List (String × String) :=
  [("component", component), ("op", op.name), ("event", event)]

/-- The fields of a tally. -/
def Tally.fields : Tally → List (String × String)
  | .applied n m digest =>
    [("applied_count", toString n), ("skipped_count", toString m), ("document_digest", digest)]
  | .planned n m => [("applied_count", toString n), ("skipped_count", toString m)]
  | .checked n m => [("param_count", toString n), ("feature_count", toString m)]

/-- The fields of an event itself, in a run with these ids. That the store did not close a run is told with the id of
the run. -/
def Event.fields (ctx : Context) : Event → List (String × String)
  | .started op => boundary op "start"
  | .documentLoaded n m =>
    [("params", toString n), ("features", toString m), ("message", "patch document loaded")]
  | .paramChange c =>
    [("param_key", c.key), ("expect", c.expected), ("update", c.update), ("message", "param change")]
  | .featureField id field shown =>
    [("feature_id", id), ("field", field), ("value", shown), ("message", "feature field")]
  | .expectationChecked key v => [("param_key", key), ("verdict", v.text), ("message", "checked expectation")]
  | .expectationsCounted n m =>
    [("eligible", toString n), ("skipped", toString m), ("message", "expectations checked")]
  | .writeRejected key reason =>
    [("param_key", key), ("reason", reason), ("message", "write rejected, rolling back")]
  | .undoFailed target e =>
    [("target_key", target), ("err", e.message), ("message", "rollback write failed")]
  | .runNotClosed e =>
    [("run_id", ctx.runId), ("end_err", e.message), ("message", "store rollback failed")]
  | .finished t => boundary t.operation "end" ++ t.fields
  | .failed op kind => boundary op "end_error" ++ [("err.kind", kind.name), ("err.code", kind.code)]

/-- The fields around the events of a run, which every one of them has. -/
def contextFields (ctx : Context) : List (String × String) :=
  ("run_id", ctx.runId) :: (ctx.traceId.map fun id => ("trace_id", id)).toList

/-- An event as it is written to the log. -/
structure Record where
  level : Level
  fields : TextMap
deriving DecidableEq

/-- The record of an event of a run. Where a field stands both around the event and in the event, the event's own
counts. -/
def Event.record (ctx : Context) (e : Event) : Record :=
  ⟨e.level, .ofList (contextFields ctx ++ e.fields ctx)⟩

end Log

end GuardedPatch
