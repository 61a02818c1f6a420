import GuardedPatch.Run.Outcome

set_option autoImplicit false

/-! # Summaries

What is printed of an outcome for someone to read: a line on top, a line for each entry, and a line with the counts.
Values that a parameter was expected to have and has are quoted, so that blanks and invisible characters show. -/

namespace GuardedPatch

/-- The line for a parameter that got a new value. -/
def AppliedChange.summary (c : AppliedChange) : String :=
  if c.old = c.new then "  = " ++ c.key ++ ": " ++ c.new ++ " (unchanged)"
  else "  ~ " ++ c.key ++ ": " ++ c.old ++ " -> " ++ c.new

/-- The line for a parameter that is skipped. -/
def SkippedChange.summary (c : SkippedChange) : String :=
  "  - " ++ c.key ++ ": skipped, " ++ c.reason.name ++
    match c.actual with
    | some actual => " (expected " ++ Text.quoted c.expected ++ ", found " ++ Text.quoted actual ++ ")"
    | none => ""

/-- The word for an action in a summary. -/
def FeatureAction.word : FeatureAction → String
  | .created => "created"
  | .updated => "updated"
  | .unchanged => "unchanged"

/-- The line for a feature. -/
def FeatureOutcome.summary (f : FeatureOutcome) : String :=
  "  * " ++ f.id ++ ": " ++ f.action.word
    ++ if f.changed.isEmpty then "" else " [" ++ String.intercalate ", " f.changed ++ "]"

/-- The lines for an outcome. -/
def RunOutcome.summary (o : RunOutcome) : List String :=
  [(if o.dryRun then "Planned" else "Applied") ++ " patch for project " ++ o.project ++ " (run "
      ++ o.context.runId ++ ")"]
    ++ o.result.applied.map (·.summary) ++ o.result.skipped.map (·.summary) ++ o.result.features.map (·.summary)
    ++ [toString o.result.applied.length ++ " applied, " ++ toString o.result.skipped.length ++ " skipped, "
      ++ toString o.result.features.length ++ " feature(s); digest " ++ o.digest]

/-- The lines for a document that was read from a path. -/
def DocumentSummary.summary (d : DocumentSummary) (path : String) : List String :=
  ["✓ " ++ path ++ " is a valid patch for project " ++ d.project]
    ++ d.paramKeys.map ("  param   " ++ ·) ++ d.featureIds.map ("  feature " ++ ·) ++ ["digest " ++ d.digest]

end GuardedPatch
