import GuardedPatch.Proofs.Run.Command
import GuardedPatch.Proofs.TextMap

set_option autoImplicit false

/-! # The ends of a command in the log

Loading, validating and applying log only what is for looking into a run (`Traced.Quiet`), whatever the store answers,
so that the two events that `bracketed` puts around them are the only ones that name the command. They stand first and
last, and the last one tells how the command ended (`commands_log_boundaries`).

The ids of a run stand around all of its events. An event may have fields of its own with the same names, and those
count; but only the one of a run that the store did not close has any, and it has the same id (`Event.carriesIds`). -/

namespace GuardedPatch

/-! ## Records -/

namespace Log

/-- Whether an event stands at an end of a command. -/
def Event.isBoundary : Event → Bool
  | .started _ | .finished _ | .failed .. => true
  | _ => false

/-- A record tells the ids of a run: its own one, and the one that the caller gave, if there is one. -/
structure Record.CarriesIds (r : Record) (ctx : Context) : Prop where
  run : r.fields.get? "run_id" = some ctx.runId
  trace : r.fields.get? "trace_id" = ctx.traceId

/-- A record stands at this end of a command. -/
structure Record.Marks (r : Record) (op : Operation) (event : String) : Prop where
  op : r.fields.get? "op" = some op.name
  event : r.fields.get? "event" = some event

/-- A record stands at no end of any command. -/
structure Record.Inner (r : Record) : Prop where
  op : r.fields.get? "op" = none
  event : r.fields.get? "event" = none

/-- A record tells how a command ended: with an answer, of which it tells some numbers, or with an error, of which it
tells the code. -/
inductive Record.Closes {α : Type} (r : Record) (op : Operation) (counts : α → List (String × Nat)) :
    Except PatchError α → Prop
  | finished {a : α} (hmarks : r.Marks op "end") (hlevel : r.level = .info)
    (hcounts : ∀ p ∈ counts a, r.fields.get? p.1 = some (toString p.2)) : Closes r op counts (.ok a)
  | failed {e : PatchError} (hmarks : r.Marks op "end_error") (hlevel : r.level = .error)
    (hcode : r.fields.get? "err.code" = some e.kind.code) : Closes r op counts (.error e)

section Fields

variable (ctx : Context)

theorem get?_contextFields (name : String) :
    (TextMap.ofList (contextFields ctx)).get? name
      = if name = "trace_id" then ctx.traceId else if name = "run_id" then some ctx.runId else none := by
  have hempty : TextMap.empty.get? name = none := rfl
  obtain ⟨runId, traceId⟩ := ctx
  cases traceId with
  | none =>
      simp only [contextFields, Option.map_none, Option.toList_none, TextMap.ofList, TextMap.insertAll, List.foldl_cons,
        List.foldl_nil, TextMap.get?_insert, hempty]
      by_cases htrace : name = "trace_id"
      · rw [htrace]
        rfl
      · rw [if_neg htrace]
  | some id =>
      simp only [contextFields, Option.map_some, Option.toList_some, TextMap.ofList, TextMap.insertAll, List.foldl_cons,
        List.foldl_nil, TextMap.get?_insert, hempty]

namespace Event

variable {ctx} {e : Event}

/-- A field that an event has not itself is the one around it. -/
theorem get?_record_of_not_mem {name : String} (h : name ∉ (e.fields ctx).map (·.1)) :
    (e.record ctx).fields.get? name
      = if name = "trace_id" then ctx.traceId else if name = "run_id" then some ctx.runId else none := by
  rw [record, TextMap.ofList, TextMap.insertAll_append, TextMap.get?_insertAll_of_not_mem h]
  exact get?_contextFields ctx name

variable (ctx) in
/-- **No event hides the ids of its run.** -/
theorem carriesIds (e : Event) : (e.record ctx).CarriesIds ctx := by
  have htrace : "trace_id" ∉ (e.fields ctx).map (·.1) := by
    cases e with
    | finished t => cases t <;> simp [fields, boundary, Tally.fields]
    | _ => simp [fields, boundary]
  refine ⟨?_, get?_record_of_not_mem htrace⟩
  cases e with
  | runNotClosed err =>
      -- the event has an id of its own, which is that of the run
      simp [record, fields, TextMap.ofList, TextMap.insertAll, TextMap.get?_insert]
  | finished t =>
      have hrun : "run_id" ∉ ((finished t).fields ctx).map (·.1) := by
        cases t <;> simp [fields, boundary, Tally.fields]
      exact get?_record_of_not_mem hrun
  | _ => exact get?_record_of_not_mem (by simp [fields, boundary])

/-- Only the events at the ends of a command say which end of which command they stand at. -/
theorem inner_of_not_boundary (h : e.isBoundary = false) : (e.record ctx).Inner := by
  have hnames : "op" ∉ (e.fields ctx).map (·.1) ∧ "event" ∉ (e.fields ctx).map (·.1) := by
    cases e with
    | started | finished | failed => cases h
    | _ => simp [fields]
  exact ⟨get?_record_of_not_mem hnames.1, get?_record_of_not_mem hnames.2⟩

theorem marks_of_fields {op : Operation} {name : String} {more : List (String × String)}
    (hfields : e.fields ctx = boundary op name ++ more) (hop : "op" ∉ more.map (·.1))
    (hevent : "event" ∉ more.map (·.1)) : (e.record ctx).Marks op name := by
  constructor
  · rw [record, hfields, TextMap.ofList, TextMap.insertAll_append, TextMap.insertAll_append,
      TextMap.get?_insertAll_of_not_mem hop]
    simp [boundary, TextMap.insertAll, TextMap.get?_insert]
  · rw [record, hfields, TextMap.ofList, TextMap.insertAll_append, TextMap.insertAll_append,
      TextMap.get?_insertAll_of_not_mem hevent]
    simp [boundary, TextMap.insertAll]

theorem marks_started (op : Operation) : ((started op).record ctx).Marks op "start" :=
  marks_of_fields (List.append_nil _).symm List.not_mem_nil List.not_mem_nil

theorem marks_finished (t : Tally) : ((finished t).record ctx).Marks t.operation "end" := by
  refine marks_of_fields rfl ?_ ?_
  · cases t <;> simp [Tally.fields]
  · cases t <;> simp [Tally.fields]

/-- The event at the end of a command that went well has the numbers of its tally. -/
theorem get?_finished {t : Tally} {p : String × String} (h : p ∈ t.fields) :
    ((finished t).record ctx).fields.get? p.1 = some p.2 := by
  have hnodup : (((finished t).fields ctx).map (·.1)).Nodup := by
    cases t <;> simp [fields, boundary, Tally.fields]
  have hmem : p ∈ (finished t).fields ctx := List.mem_append_right _ h
  rw [record, TextMap.ofList, TextMap.insertAll_append, TextMap.get?_insertAll hnodup,
    TextMap.lookup_eq_some_of_mem hnodup hmem, Option.some_or]

theorem marks_failed (op : Operation) (kind : ErrorKind) : ((failed op kind).record ctx).Marks op "end_error" := by
  refine marks_of_fields rfl ?_ ?_
  · simp
  · simp

/-- The event at the end of a command that failed has the code of the error's kind. -/
theorem get?_failed (op : Operation) (kind : ErrorKind) :
    ((failed op kind).record ctx).fields.get? "err.code" = some kind.code := by
  simp [record, fields, boundary, TextMap.ofList, TextMap.insertAll]

end Event

end Fields

end Log

/-! ## Activities between the ends -/

/-- An activity logs nothing that stands at an end of a command. -/
def Traced.Quiet {σ α : Type} (t : Traced σ α) : Prop :=
  ∀ e ∈ t.events, e.isBoundary = false

namespace Traced.Quiet

variable {σ α β : Type} {t : Traced σ α}

theorem map (h : t.Quiet) (f : α → β) : (t.map f).Quiet := h

theorem after (h : t.Quiet) {events : List Log.Event} (hevents : ∀ e ∈ events, e.isBoundary = false) :
    (t.after events).Quiet := by
  intro e he
  rcases List.mem_append.1 he with he | he
  · exact hevents e he
  · exact h e he

theorem andThen (h : t.Quiet) {next : α → σ → Traced σ β} (hnext : ∀ a s, (next a s).Quiet) :
    (t.andThen next).Quiet := by
  rw [Traced.andThen]
  cases t.answer with
  | ok a => exact (hnext a t.store).after h
  | error e => exact h

end Traced.Quiet

theorem Log.changeEvents_quiet (d : Document) : ∀ e ∈ Log.changeEvents d, e.isBoundary = false := by
  intro e he
  rw [changeEvents, List.mem_append, List.mem_map, List.mem_flatMap] at he
  obtain ⟨c, -, rfl⟩ | ⟨c, -, he⟩ := he
  · rfl
  · obtain ⟨field, -, rfl⟩ := List.mem_map.1 he
    rfl

theorem loadTraced_quiet {σ : Type} (text : String) (s : σ) : (loadTraced text s).Quiet := by
  cases hload : load text with
  | ok d =>
      rw [loadTraced_of_ok hload]
      simp [Traced.Quiet, Log.Event.isBoundary]
  | error e =>
      rw [loadTraced_of_error hload]
      simp [Traced.Quiet, Traced.fail]

section AnyStore

variable {σ : Type} [ConfigStore σ]

theorem readParams_quiet (cs : List ParamChange) (s : σ) : (readParams cs s).Quiet := by
  induction cs generalizing s with
  | nil => simp [readParams, Traced.pure, Traced.Quiet]
  | cons c rest ih =>
      rw [readParams]
      generalize ConfigStore.get c.key s = out
      obtain ⟨answer, s'⟩ := out
      cases answer with
      | error e => simp [Traced.fail, Traced.Quiet]
      | ok actual => exact ((ih s').map _).after (by simp [Log.Event.isBoundary])

theorem readFeatures_quiet (cs : List FeatureChange) (s : σ) : (readFeatures cs s).Quiet := by
  rw [readFeatures]
  split_ifs
  · simp [Traced.pure, Traced.Quiet]
  · generalize ConfigStore.listFeatures s = out
    obtain ⟨answer, s'⟩ := out
    cases answer <;> simp [Traced.fail, Traced.Quiet]

theorem validate_quiet (d : Document) (s : σ) : (validate d s).Quiet :=
  (readParams_quiet d.params s).andThen fun _ s' => (readFeatures_quiet d.features s').map _

/-- What is logged of a refused step and of undos that fail. -/
theorem abort_quiet (refusal : Refusal) (result : ApplyResult) (journal : List Undo) (s : σ) :
    (abort refusal result journal s).Quiet := by
  intro e he
  rw [abort, List.mem_cons, List.mem_map] at he
  obtain rfl | ⟨failure, -, rfl⟩ := he
  · rfl
  · rfl

theorem performAll_quiet (result : ApplyResult) (journal : List Undo) (steps : List Step) (s : σ) :
    (performAll result journal steps s).Quiet := by
  induction steps generalizing result journal s with
  | nil => simp [performAll, Traced.pure, Traced.Quiet]
  | cons step rest ih =>
      rw [performAll]
      generalize step.perform s = out
      obtain ⟨answer, s'⟩ := out
      cases answer with
      | error refusal => exact abort_quiet refusal result journal s'
      | ok _ => exact ih (step.addTo result) (step.undo?.toList ++ journal) s'

theorem apply_quiet (d : Document) (r : Report) (s : σ) : (apply d r s).Quiet := by
  rw [apply]
  cases Agenda.of? d r with
  | error e => simp [Traced.fail, Traced.Quiet]
  | ok agenda => exact performAll_quiet agenda.initial [] agenda.steps s

theorem applyBracketed_quiet (d : Document) (r : Report) (s : σ) : (PatchRun.applyBracketed d r s).Quiet := by
  rw [PatchRun.applyBracketed]
  generalize ConfigStore.beginRun s = opened
  obtain ⟨answer, s'⟩ := opened
  cases answer with
  | error e => simp [Traced.fail, Traced.Quiet]
  | ok _ =>
      have happly := apply_quiet d r s'
      simp only
      cases (apply d r s').answer with
      | ok result =>
          generalize ConfigStore.endRun true (apply d r s').store = closed
          obtain ⟨answer, s''⟩ := closed
          cases answer <;> exact happly
      | error stop =>
          generalize ConfigStore.endRun false (apply d r s').store = closed
          obtain ⟨answer, s''⟩ := closed
          cases answer with
          | ok _ => exact happly
          | error e =>
              intro event hevent
              rcases List.mem_append.1 hevent with h | h
              · exact happly event h
              · rw [List.mem_singleton.1 h]
                rfl

end AnyStore

/-! ## Commands -/

/-- A command logs its ends: its first event says that it starts, its last one how it ended, no other one stands at an
end of a command, and all of them tell the ids of the run. -/
structure Traced.LogsBoundaries {σ α : Type} (t : Traced σ α) (ctx : Context) (op : Log.Operation)
    (counts : α → List (String × Nat)) : Prop where
  ends : ∃ first inner last, t.events.map (·.record ctx) = first :: inner ++ [last]
    ∧ first.Marks op "start" ∧ first.level = .info ∧ (∀ r ∈ inner, r.Inner) ∧ last.Closes op counts t.answer
  ids : ∀ r ∈ t.events.map (·.record ctx), r.CarriesIds ctx

theorem bracketed_logsBoundaries {σ α : Type} {t : Traced σ α} (h : t.Quiet) (ctx : Context) {op : Log.Operation}
    {tally : α → Log.Tally} (hop : ∀ a, (tally a).operation = op) {counts : α → List (String × Nat)}
    (hcounts : ∀ a, ∀ p ∈ counts a, (p.1, toString p.2) ∈ (tally a).fields) :
    (bracketed op tally t).LogsBoundaries ctx op counts := by
  have hinner : ∀ r ∈ t.events.map (·.record ctx), r.Inner := by
    intro r hr
    obtain ⟨e, he, rfl⟩ := List.mem_map.1 hr
    exact Log.Event.inner_of_not_boundary (h e he)
  constructor
  · rw [bracketed_answer, bracketed, List.map_append, List.map_cons, List.map_singleton]
    refine ⟨_, _, _, rfl, Log.Event.marks_started op, rfl, hinner, ?_⟩
    cases t.answer with
    | ok a =>
        exact .finished (hop a ▸ Log.Event.marks_finished (tally a)) rfl fun p hp =>
          Log.Event.get?_finished (hcounts a p hp)
    | error e => exact .failed (Log.Event.marks_failed op e.kind) rfl (Log.Event.get?_failed op e.kind)
  · intro r hr
    obtain ⟨e, -, rfl⟩ := List.mem_map.1 hr
    exact e.carriesIds ctx

section AnyStore

variable {σ : Type} [ConfigStore σ] (ctx : Context) (text : String) (s : σ)

theorem validatedRun_quiet : (validatedRun ctx text s).Quiet := by
  refine (loadTraced_quiet text s).andThen fun d s => ?_
  have hvalidate : ((PatchRun.start ctx d).validate s).2.Quiet := by
    have h := validate_quiet d s
    simp only [PatchRun.start, PatchRun.validate]
    cases (validate d s).answer <;> exact h
  exact (hvalidate.map _).after (Log.changeEvents_quiet d)

theorem PatchRun.apply_quiet (run : PatchRun) (s : σ) : (run.apply s).2.Quiet := by
  have hout (action : String) : (Traced.fail (α := ApplyResult) (run.outOfTurn action) s).Quiet := by
    simp [Traced.fail, Traced.Quiet]
  rw [PatchRun.apply]
  cases run.phase with
  | validated report =>
      have h := applyBracketed_quiet run.document report s
      simp only
      cases (applyBracketed run.document report s).answer with
      | ok result => exact h.map _
      | error e => exact h
  | _ => exact hout "apply"

/-- **A command logs where it starts and how it ends.** Whatever the text and the store are, the first event of
applying, planning or checking says that this command starts, and the last one says that it has ended: with an answer,
and then how many changes were applied and skipped, or how many of each kind there are in a text that was only checked;
or with an error, and then the code of its kind. No other event stands at an end of a command, and all of them tell the
id of the run, and the caller's own id exactly if there is one. -/
theorem commands_log_boundaries :
    (applyPatch ctx text s).LogsBoundaries ctx .apply
        (fun o => [("applied_count", o.result.applied.length), ("skipped_count", o.result.skipped.length)])
      ∧ (planPatch ctx text s).LogsBoundaries ctx .plan
        (fun o => [("applied_count", o.result.applied.length), ("skipped_count", o.result.skipped.length)])
      ∧ (checkPatch text).LogsBoundaries ctx .check
        (fun d => [("param_count", d.paramKeys.length), ("feature_count", d.featureIds.length)]) := by
  refine ⟨?_, ?_, ?_⟩
  · refine bracketed_logsBoundaries ?_ ctx (fun o => ?_) fun o => ?_
    · refine (validatedRun_quiet ctx text s).andThen fun (run, report) s => ?_
      exact ((run.apply_quiet s).map _).after (by simp [Log.Event.isBoundary])
    · rfl
    · simp [Log.Tally.fields]
  · refine bracketed_logsBoundaries ?_ ctx (fun o => ?_) fun o => ?_
    · exact (validatedRun_quiet ctx text s).andThen fun _ _ => by simp [Traced.Quiet]
    · rfl
    · simp [Log.Tally.fields]
  · refine bracketed_logsBoundaries ?_ ctx (fun d => ?_) fun d => ?_
    · exact (loadTraced_quiet text ()).map _
    · rfl
    · simp [Log.Tally.fields]

end AnyStore

end GuardedPatch
