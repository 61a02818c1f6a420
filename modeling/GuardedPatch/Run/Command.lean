import GuardedPatch.Patch.Load
import GuardedPatch.Run.Outcome

set_option autoImplicit false

/-! # Commands

A command takes the text of a patch to its end: it loads the text, validates the document, and applies it or tells
what applying it would do. Checking a text needs no store. Whatever happens, a command logs its start first and how
it ended last. -/

namespace GuardedPatch

open Log (Event Operation Tally)

variable {σ α : Type}

/-- Loads a text and logs that it was loaded. -/
def loadTraced (text : String) (s : σ) : Traced σ Document :=
  match load text with
  | .ok d => ⟨.ok d, s, [.documentLoaded d.params.length d.features.length]⟩
  | .error e => .fail (.load e) s

/-- Puts the events of a command's start and end around an activity. -/
def bracketed (op : Operation) (tally : α → Tally) (t : Traced σ α) : Traced σ α :=
  let last : Event :=
    match t.answer with
    | .ok a => .finished (tally a)
    | .error e => .failed op e.kind
  { t with events := .started op :: t.events ++ [last] }

/-- The document of a text, without a store. -/
def checkPatch (text : String) : Traced Unit DocumentSummary :=
  bracketed .check (fun d => .checked d.paramKeys.length d.featureIds.length)
    ((loadTraced text ()).map Document.summary)

variable [ConfigStore σ]

/-- Loads a text and validates its document. -/
def validatedRun (ctx : Context) (text : String) (s : σ) : Traced σ (PatchRun × Report) :=
  (loadTraced text s).andThen fun d s =>
    let (run, t) := (PatchRun.start ctx d).validate s
    (t.map fun report => (run, report)).after (Log.changeEvents d)

/-- Loads, validates and applies a text. -/
def applyPatch (ctx : Context) (text : String) (s : σ) : Traced σ RunOutcome :=
  bracketed .apply (fun o => .applied o.result.applied.length o.result.skipped.length o.digest)
    ((validatedRun ctx text s).andThen fun (run, report) s =>
      let (run, t) := run.apply s
      (t.map fun result => .ofRun run result false).after
        [.expectationsCounted report.eligibleCount report.skippedCount])

/-- Loads and validates a text and tells what applying it would do; the store is only read. -/
def planPatch (ctx : Context) (text : String) (s : σ) : Traced σ RunOutcome :=
  bracketed .plan (fun o => .planned o.result.applied.length o.result.skipped.length)
    ((validatedRun ctx text s).andThen fun (run, _) s =>
      ⟨run.forecast.map fun result => .ofRun run result true, s, []⟩)

end GuardedPatch
