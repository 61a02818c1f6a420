import GuardedPatch.Run.Phase

set_option autoImplicit false

/-! # Outcomes

What a caller gets to see of a finished run, and of a document that was only checked. -/

namespace GuardedPatch

open Json (Value)

/-- A run that was applied, or planned without writing anything. -/
structure RunOutcome where
  context : Context
  project : String
  /-- The word for the phase in which the run was left. -/
  phase : String
  dryRun : Bool
  digest : String
  result : ApplyResult
deriving DecidableEq

/-- The outcome of a run with this result. -/
def RunOutcome.ofRun (run : PatchRun) (result : ApplyResult) (dryRun : Bool) : RunOutcome :=
  ⟨run.context, run.document.project, run.phase.name, dryRun, run.digest, result⟩

/-- An outcome as a JSON object. -/
def RunOutcome.toJson (o : RunOutcome) : Value :=
  .obj ([("run_id", .str o.context.runId)] ++ Json.optional "trace_id" (o.context.traceId.map .str)
    ++ [("project", .str o.project), ("state", .str o.phase), ("dry_run", .bool o.dryRun),
      ("document_digest", .str o.digest), ("result", o.result.toJson)])

/-- What a document is about. -/
structure DocumentSummary where
  project : String
  digest : String
  paramKeys : List String
  featureIds : List String
deriving DecidableEq, Repr

/-- The summary of a document. -/
def Document.summary (d : Document) : DocumentSummary :=
  ⟨d.project, d.digest, d.params.map (·.key), d.features.map (·.id)⟩

/-- A summary as a JSON object. -/
def DocumentSummary.toJson (d : DocumentSummary) : Value :=
  .obj [("project", .str d.project), ("document_digest", .str d.digest),
    ("param_count", .nat d.paramKeys.length), ("feature_count", .nat d.featureIds.length),
    ("param_keys", .arr (d.paramKeys.map .str)), ("feature_ids", .arr (d.featureIds.map .str))]

end GuardedPatch
