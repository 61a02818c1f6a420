import GuardedPatch.Proofs.Run.Command
import GuardedPatch.Proofs.Store.SameButSecrets

set_option autoImplicit false

/-! # Runs do not show secrets

Two runs of a command whose texts and stores are the same but for secrets cannot be told apart by what they answer and
log, as long as each secret of a change is in its record in both runs or in neither one (`Document.AgreesAlike`). That
is the only way in which a secret counts: a change is compared with its record once, when its step is made. From there
on the steps of the two runs are the same but for secrets, so that they are answered alike (`Step.SameButSecrets.twins`)
and add the same to the result.

The digest of a document is made from all of it. It is in the outcome of a run, and in the last event of one that has
been applied; everything else is the same. -/

namespace GuardedPatch

/-! ## Reports -/

/-- Each secret that a change asks for is in a record of a listing exactly if it is so for the other document and the
other listing. -/
def Document.AgreesAlike (d d' : Document) (records records' : List FeatureRecord) : Prop :=
  ∀ p ∈ d.features.zip d'.features, ∀ q ∈ records.zip records', q.1.id = p.1.id → AgreeAlike p.1 p.2 q.1 q.2

/-- What was found for two lists of changes leads to the same steps but for secrets. -/
structure ChecksAlike (cs cs' : List FeatureChange) (checks checks' : List FeatureCheck) : Prop where
  ids : checks.map (·.id) = checks'.map (·.id)
  steps : List.Forall₂ Step.SameButSecrets ((cs.zip checks).map fun (c, check) => c.step check.target)
    ((cs'.zip checks').map fun (c, check) => c.step check.target)

/-- Two reports on two documents say the same but for secrets. -/
structure Report.SameButSecrets (d d' : Document) (r r' : Report) : Prop where
  params : r.params = r'.params
  features : ChecksAlike d.features d'.features r.features r'.features

theorem checkTargets_sameButSecrets {records records' : List FeatureRecord} {cs cs' : List FeatureChange}
    (h : List.Forall₂ (fun c c' => c.SameButSecrets c'
      ∧ Option.Rel (Target.AgreeAlike c c') (c.target? records) (c'.target? records')) cs cs') :
    AnswersAlike (ChecksAlike cs cs') (checkTargets records cs) (checkTargets records' cs') := by
  induction h with
  | nil => exact .ok ⟨rfl, .nil⟩
  | @cons c c' rest rest' hc _ ih =>
      obtain ⟨hc, htarget⟩ := hc
      rw [checkTargets, checkTargets, ← hc.id, ← hc.type?]
      generalize c.target? records = target at htarget
      generalize c'.target? records' = target' at htarget
      cases htarget with
      | none => exact .error _
      | some htarget =>
          refine ih.map fun checks checks' hchecks => ⟨?_, .cons (hc.step htarget) hchecks.steps⟩
          rw [List.map_cons, List.map_cons, hchecks.ids]

section Runs

variable {σ : Type} [ConfigStore σ] {R : σ → σ → Prop} {d d' : Document} {s t : σ}

theorem SecretsUnseen.get_alike (hR : SecretsUnseen R) (key : String) :
    CallsAlike R (ConfigStore.get key) (ConfigStore.get key) := by
  intro s t hst
  rw [hR.get_store, hR.get_store]
  exact ⟨hR.get key s t hst, hst⟩

section Validation

variable (hR : SecretsUnseen R) (hd : d.SameButSecrets d') (hst : R s t)
  (hagree : ∀ records records', (ConfigStore.listFeatures s).1 = .ok records →
    (ConfigStore.listFeatures t).1 = .ok records' → d.AgreesAlike d' records records')
include hR hd hst hagree

theorem readFeatures_sameButSecrets :
    Traced.AlikeUpTo (ChecksAlike d.features d'.features) (fun s' t' => s' = s ∧ t' = t) (readFeatures d.features s)
      (readFeatures d'.features t) := by
  obtain ⟨hlength, hchanges⟩ := List.forall₂_iff_zip.1 hd.features
  have hempty : d.features.isEmpty = d'.features.isEmpty := by
    rw [Bool.eq_iff_iff, List.isEmpty_iff_length_eq_zero, List.isEmpty_iff_length_eq_zero, hlength]
  have hlisted := hR.list s t hst
  have hs : ConfigStore.listFeatures s = ((ConfigStore.listFeatures s).1, s) := Prod.ext rfl (hR.list_store s)
  have ht : ConfigStore.listFeatures t = ((ConfigStore.listFeatures t).1, t) := Prod.ext rfl (hR.list_store t)
  rw [readFeatures, readFeatures, ← hempty, hs, ht]
  split_ifs with hnone
  · have hnone' : d'.features = [] := List.isEmpty_iff.1 (hempty.symm.trans hnone)
    rw [List.isEmpty_iff.1 hnone, hnone']
    exact ⟨.ok ⟨rfl, .nil⟩, rfl, rfl, rfl⟩
  · generalize (ConfigStore.listFeatures s).1 = listing at hlisted hagree
    generalize (ConfigStore.listFeatures t).1 = listing' at hlisted hagree
    cases hlisted with
    | error e => exact ⟨.error _, rfl, rfl, rfl⟩
    | @ok records records' hrecords =>
        obtain ⟨hcount, hsame⟩ := List.forall₂_iff_zip.1 hrecords
        refine ⟨checkTargets_sameButSecrets (List.forall₂_iff_zip.2 ⟨hlength, fun {c c'} hc => ?_⟩), rfl, rfl, rfl⟩
        refine ⟨hchanges hc, (hchanges hc).target? (List.forall₂_iff_zip.2 ⟨hcount, fun {r r'} hr => ?_⟩)⟩
        exact ⟨hsame hr, hagree records records' rfl rfl (c, c') hc (r, r') hr⟩

/-- **Validating comes to the same but for secrets**, and only reads. -/
theorem validate_sameButSecrets :
    Traced.AlikeUpTo (Report.SameButSecrets d d') R (validate d s) (validate d' t) := by
  -- reading leaves both stores as they are, so that what is listed after the parameters were read is listed before
  have hget : ∀ key, CallsAlike (fun s' t' : σ => s' = s ∧ t' = t) (ConfigStore.get key) (ConfigStore.get key) := by
    rintro key _ _ ⟨rfl, rfl⟩
    exact ⟨hR.get key _ _ hst, hR.get_store key _, hR.get_store key _⟩
  have hquiet : Traced.AlikeUpTo (Report.SameButSecrets d d') (fun s' t' => s' = s ∧ t' = t) (validate d s)
      (validate d' t) := by
    rw [validate, validate, ← hd.params]
    refine (Traced.alike_iff.1 (readParams_alike hget d.params ⟨rfl, rfl⟩)).andThen ?_
    rintro params _ rfl _ _ ⟨rfl, rfl⟩
    exact (readFeatures_sameButSecrets hR hd hst hagree).map fun _ _ h => ⟨rfl, h⟩
  refine ⟨hquiet.answer, hquiet.events, ?_⟩
  rw [hquiet.stores.1, hquiet.stores.2]
  exact hst

end Validation

/-! ## Applying -/

theorem Step.SameButSecrets.refl (step : Step) : step.SameButSecrets step := by
  cases step with
  | setParam c => exact .setParam c
  | putFeature record previous outcome =>
      refine .putFeature outcome (.refl record) ?_
      cases previous with
      | none => exact .none
      | some r => exact .some (.refl r)

/-- **Steps that are the same but for secrets are answered alike**, and so are their undos. -/
theorem Step.SameButSecrets.twins (hR : SecretsUnseen R) {step step' : Step} (h : step.SameButSecrets step') :
    step.Twins R step' := by
  have hundo : ∀ {u u' : Undo}, u.target = u'.target → u.edit.SameButSecrets u'.edit → u.Twins R u' := by
    intro u u' htarget hedit
    refine ⟨htarget, fun s t hst => ?_⟩
    rw [u.perform_eq, u'.perform_eq]
    exact hR.edit hedit s t hst
  cases h with
  | setParam c => exact .setParam c (hR.edit (.setParam _ _)) (hundo rfl (.setParam _ _))
  | putFeature outcome hrecord hprevious =>
      refine .putFeature outcome hrecord.id (fun _ => hR.edit (.putRecord hrecord)) fun _ => hundo hrecord.id ?_
      cases hprevious with
      | none => exact hrecord.id ▸ .dropRecord _
      | some hr => exact .putRecord hr

/-- What is intended for two documents is the same but for secrets. -/
structure Agenda.SameButSecrets (a a' : Agenda) : Prop where
  steps : List.Forall₂ Step.SameButSecrets a.steps a'.steps
  skipped : a.skipped = a'.skipped

theorem Agenda.SameButSecrets.initial {a a' : Agenda} (h : a.SameButSecrets a') : a.initial = a'.initial := by
  rw [Agenda.initial, Agenda.initial, h.skipped]

/-- **The result is the same.** -/
theorem Agenda.SameButSecrets.result {a a' : Agenda} (h : a.SameButSecrets a') : a.result = a'.result := by
  rw [Agenda.result, Agenda.result, h.initial]
  have hsteps := h.steps
  generalize a'.initial = result
  generalize a.steps = steps at hsteps
  generalize a'.steps = steps' at hsteps
  induction hsteps generalizing result with
  | nil => rfl
  | cons hstep _ ih => rw [List.foldl_cons, List.foldl_cons, hstep.addTo, ih]

theorem Agenda.of?_sameButSecrets (hd : d.SameButSecrets d') {r r' : Report} (hr : r.SameButSecrets d d' r') :
    AnswersAlike Agenda.SameButSecrets (Agenda.of? d r) (Agenda.of? d' r') := by
  have hids : d.features.map (·.id) = d'.features.map (·.id) := map_eq_of_forall₂ hd.features fun _ _ hc => hc.id
  rw [Agenda.of?, Agenda.of?, ← hd.params, ← hids, ← hr.params, ← hr.features.ids]
  split_ifs
  · exact .error _
  · exact .error _
  · refine .ok ⟨?_, ?_⟩
    · rw [Agenda.ofReport, Agenda.ofReport, ← hd.params, ← hr.params]
      exact List.rel_append (List.forall₂_same.2 fun step _ => .refl step) hr.features.steps
    · rw [Agenda.ofReport, Agenda.ofReport, hd.params, hr.params]

theorem forecast_eq (hd : d.SameButSecrets d') {r r' : Report} (hr : r.SameButSecrets d d' r') :
    forecast d r = forecast d' r' :=
  ((Agenda.of?_sameButSecrets hd hr).map fun _ _ h => h.result).eq

/-- **Applying gives the same result**, or is stopped in the same way. -/
theorem apply_sameButSecrets (hR : SecretsUnseen R) (hd : d.SameButSecrets d') {r r' : Report}
    (hr : r.SameButSecrets d d' r') (hst : R s t) : Traced.Alike R (apply d r s) (apply d' r' t) := by
  have hagenda := Agenda.of?_sameButSecrets hd hr
  rw [apply, apply]
  generalize Agenda.of? d r = a at hagenda
  generalize Agenda.of? d' r' = a' at hagenda
  cases hagenda with
  | error e => exact ⟨rfl, rfl, hst⟩
  | ok h =>
      simp only [h.initial]
      exact performAll_twins hR.get_alike (h.steps.imp fun _ _ hstep => hstep.twins hR) .nil _ hst

end Runs

/-! ## What is shown -/

/-- The outcome without the digest of its document. -/
def RunOutcome.undigested (o : RunOutcome) : RunOutcome :=
  { o with digest := "", result := { o.result with digest := none } }

/-- The summary without the digest of its document. -/
def DocumentSummary.undigested (o : DocumentSummary) : DocumentSummary :=
  { o with digest := "" }

/-- Two records of the log are the same but for the digest of a document. -/
structure Log.Record.SameButDigest (r r' : Log.Record) : Prop where
  level : r.level = r'.level
  fields : ∀ name, name ≠ "document_digest" → r.fields.get? name = r'.fields.get? name

theorem Log.Record.SameButDigest.refl (r : Log.Record) : r.SameButDigest r := ⟨rfl, fun _ _ => rfl⟩

/-- Only the digest is told apart at the end of a run that was applied. -/
theorem Log.sameButDigest_applied (ctx : Context) (n m : Nat) (digest digest' : String) :
    ((Event.finished (.applied n m digest)).record ctx).SameButDigest
      ((Event.finished (.applied n m digest')).record ctx) := by
  refine ⟨rfl, fun name hname => ?_⟩
  have hlast (digest : String) : ((Event.finished (.applied n m digest)).record ctx).fields
      = (TextMap.ofList (contextFields ctx ++ boundary .apply "end"
          ++ [("applied_count", toString n), ("skipped_count", toString m)])).insert "document_digest" digest := by
    simp only [Event.record, Event.fields, Tally.operation, Tally.fields, TextMap.ofList, TextMap.insertAll,
      List.foldl_append, List.foldl_cons, List.foldl_nil]
  rw [hlast, hlast, TextMap.get?_insert_of_ne _ _ hname, TextMap.get?_insert_of_ne _ _ hname]

/-- What is shown of two activities is the same but for digests: how they end, and what is logged. -/
structure Traced.ShownAlike {σ α : Type} (undigested : α → α) (ctx : Context) (t u : Traced σ α) : Prop where
  answer : t.answer.map undigested = u.answer.map undigested
  events : List.Forall₂ Log.Record.SameButDigest (t.events.map (·.record ctx)) (u.events.map (·.record ctx))

/-- Commands show the same if what they do between their first and their last event comes to the same. -/
theorem bracketed_shownAlike {σ α : Type} {R : σ → σ → Prop} {undigested : α → α} {ctx : Context} {t u : Traced σ α}
    (h : Traced.AlikeUpTo (fun a b => undigested a = undigested b) R t u) (op : Log.Operation) {tally : α → Log.Tally}
    (hlast : ∀ a b, undigested a = undigested b → ((Log.Event.finished (tally a)).record ctx).SameButDigest
      ((Log.Event.finished (tally b)).record ctx)) :
    (bracketed op tally t).ShownAlike undigested ctx (bracketed op tally u)
      ∧ R (bracketed op tally t).store (bracketed op tally u).store := by
  obtain ⟨hanswer, hevents, hstores⟩ := h
  refine ⟨⟨(hanswer.map fun _ _ hab => hab).eq, ?_⟩, hstores⟩
  simp only [bracketed, ← hevents, List.map_append, List.map_cons, List.map_nil]
  refine List.rel_append (List.forall₂_same.2 fun r _ => .refl r) (.cons ?_ .nil)
  generalize t.answer = a at hanswer
  generalize u.answer = b at hanswer
  cases hanswer with
  | ok hab => exact hlast _ _ hab
  | error e => exact .refl _

/-! ## Commands -/

theorem RunOutcome.counts_eq {o o' : RunOutcome} (h : o.undigested = o'.undigested) :
    o.result.applied.length = o'.result.applied.length ∧ o.result.skipped.length = o'.result.skipped.length :=
  ⟨congrArg (·.result.applied.length) h, congrArg (·.result.skipped.length) h⟩

section Commands

variable {σ : Type} [ConfigStore σ] {R : σ → σ → Prop} {d d' : Document} {s t : σ} (hR : SecretsUnseen R)
  (hd : d.SameButSecrets d') (hst : R s t) (hagree : ∀ records records', (ConfigStore.listFeatures s).1 = .ok records →
    (ConfigStore.listFeatures t).1 = .ok records' → d.AgreesAlike d' records records') (ctx : Context)
  {text text' : String} (hload : load text = .ok d) (hload' : load text' = .ok d')
include hR hd hst hagree

/-- Loading and validating, which both commands begin with, comes to the same, whatever they go on with. -/
theorem validated_alike {next next' : Report → σ → Traced σ RunOutcome}
    (hnext : ∀ r r', r.SameButSecrets d d' r' → ∀ s t, R s t →
      Traced.AlikeUpTo (fun o o' => o.undigested = o'.undigested) R (next r s) (next' r' t)) :
    Traced.AlikeUpTo (fun o o' : RunOutcome => o.undigested = o'.undigested) R
      (((validate d s).andThen next).after (.documentLoaded d.params.length d.features.length :: Log.changeEvents d))
      (((validate d' t).andThen next').after
        (.documentLoaded d'.params.length d'.features.length :: Log.changeEvents d')) := by
  rw [hd.changeEvents, hd.params, hd.features.length_eq]
  exact ((validate_sameButSecrets hR hd hst hagree).andThen hnext).after _

include hload hload'

/-- **Planning shows the same**, and only reads. -/
theorem planPatch_shownAlike :
    (planPatch ctx text s).ShownAlike RunOutcome.undigested ctx (planPatch ctx text' t)
      ∧ R (planPatch ctx text s).store (planPatch ctx text' t).store := by
  rw [planPatch_of_load_ok ctx hload, planPatch_of_load_ok ctx hload']
  refine bracketed_shownAlike (validated_alike hR hd hst hagree fun r r' hr s t hst => ?_) .plan fun o o' h => ?_
  · refine ⟨(AnswersAlike.of_eq (forecast_eq hd hr)).map ?_, rfl, hst⟩
    rintro result _ rfl
    simp only [RunOutcome.undigested, RunOutcome.ofRun, PatchRun.signed, validated, Phase.name, hd.project]
  · rw [(RunOutcome.counts_eq h).1, (RunOutcome.counts_eq h).2]
    exact .refl _

/-- **Applying shows the same**, and leaves stores that are related. -/
theorem applyPatch_shownAlike :
    (applyPatch ctx text s).ShownAlike RunOutcome.undigested ctx (applyPatch ctx text' t)
      ∧ R (applyPatch ctx text s).store (applyPatch ctx text' t).store := by
  rw [applyPatch_of_load_ok ctx hload, applyPatch_of_load_ok ctx hload']
  refine bracketed_shownAlike (validated_alike hR hd hst hagree fun r r' hr s t hst => ?_) .apply fun o o' h => ?_
  · have hcounts : r.eligibleCount = r'.eligibleCount ∧ r.skippedCount = r'.skippedCount := by
      rw [Report.skippedCount, Report.skippedCount, Report.eligibleCount, Report.eligibleCount, hr.params]
      exact ⟨rfl, rfl⟩
    have happly := applyBracketed_alike hR.beginRun hR.endRun
      (fun s t hst => apply_sameButSecrets hR hd hr hst) hst
    rw [hcounts.1, hcounts.2]
    refine ((Traced.alike_iff.1 happly).map ?_).after _
    rintro result _ rfl
    simp only [RunOutcome.undigested, RunOutcome.ofRun, PatchRun.signed, Phase.name, hd.project]
  · rw [(RunOutcome.counts_eq h).1, (RunOutcome.counts_eq h).2]
    exact Log.sameButDigest_applied ctx _ _ _ _

end Commands

/-- **Checking shows the same.** -/
theorem checkPatch_shownAlike (ctx : Context) {d d' : Document} {text text' : String} (hload : load text = .ok d)
    (hload' : load text' = .ok d') (hd : d.SameButSecrets d') :
    (checkPatch text).ShownAlike DocumentSummary.undigested ctx (checkPatch text') := by
  have hids : d.features.map (·.id) = d'.features.map (·.id) := map_eq_of_forall₂ hd.features fun _ _ hc => hc.id
  have halike : Traced.AlikeUpTo (fun o o' : DocumentSummary => o.undigested = o'.undigested) (· = ·)
      ((loadTraced text ()).map Document.summary) ((loadTraced text' ()).map Document.summary) := by
    rw [loadTraced_of_ok hload, loadTraced_of_ok hload', hd.params, hd.features.length_eq]
    refine ⟨.ok ?_, rfl, rfl⟩
    rw [DocumentSummary.undigested, DocumentSummary.undigested, Document.summary, Document.summary, hd.project, hids,
      hd.params]
  refine (bracketed_shownAlike halike .check fun o o' h => ?_).1
  have hkeys : o.paramKeys = o'.paramKeys := congrArg (·.paramKeys) h
  have hfeatures : o.featureIds = o'.featureIds := congrArg (·.featureIds) h
  rw [hkeys, hfeatures]
  exact .refl _

/-! ## Listings -/

theorem TableStore.SameButSecrets.shown {s t : TableStore} (h : s.SameButSecrets t) (json : Bool) :
    ((CommandLine.StoreRequest.features json).run s).1 = ((CommandLine.StoreRequest.features json).run t).1 := by
  have hlisted := TableStore.secretsUnseen.list s t h
  simp only [CommandLine.StoreRequest.run]
  generalize ConfigStore.listFeatures s = x at hlisted
  generalize ConfigStore.listFeatures t = y at hlisted
  obtain ⟨a, s'⟩ := x
  obtain ⟨b, t'⟩ := y
  cases hlisted with
  | error e => rfl
  | ok hrecords =>
      have hmasked := map_eq_of_forall₂ hrecords fun _ _ hr => hr.masked
      simp only [hmasked]

namespace Faulty

/-- The same faults, in front of stores of one kind that are the same but for secrets. -/
def SameButSecrets : Faulty (MemoryStore ⊕ TableStore) → Faulty (MemoryStore ⊕ TableStore) → Prop :=
  Before (Sum.LiftRel MemoryStore.SameButSecrets TableStore.SameButSecrets)

/-- If there are stores over a database behind the faults, their features are printed alike. -/
def PrintedAlike (s t : Faulty (MemoryStore ⊕ TableStore)) : Prop :=
  ∀ (u u' : TableStore) (json : Bool), s.inner = .inr u → t.inner = .inr u' →
    ((CommandLine.StoreRequest.features json).run u).1 = ((CommandLine.StoreRequest.features json).run u').1

theorem SameButSecrets.ofTableStore {u u' : TableStore} (h : u.SameButSecrets u') :
    (ofStore (.inr u)).SameButSecrets (ofStore (.inr u')) :=
  ⟨.inr h, rfl, rfl, rfl⟩

variable {s t : Faulty (MemoryStore ⊕ TableStore)}

theorem SameButSecrets.printedAlike (h : s.SameButSecrets t) : s.PrintedAlike t := by
  intro u u' json hs ht
  have hinner := h.inner
  rw [hs, ht] at hinner
  cases hinner with
  | inr hu => exact hu.shown json

end Faulty

/-- **Secrets do not show.** Let two texts have documents that are the same but for secrets, and two stores be the same
but for secrets, and let each secret of a change be the one of its record on both sides or on neither. Then applying,
planning and checking answer the same and log the same, digests of documents aside; the stores are the same but for
secrets after it, and their features are printed alike before and after. -/
theorem secrets_do_not_show (ctx : Context) {text text' : String} {d d' : Document} (hload : load text = .ok d)
    (hload' : load text' = .ok d') (hd : d.SameButSecrets d') {s t : Faulty (MemoryStore ⊕ TableStore)}
    (hst : s.SameButSecrets t)
    (hagree : ∀ records records', (ConfigStore.listFeatures s).1 = .ok records →
      (ConfigStore.listFeatures t).1 = .ok records' → d.AgreesAlike d' records records') :
    (applyPatch ctx text s).ShownAlike RunOutcome.undigested ctx (applyPatch ctx text' t)
      ∧ (planPatch ctx text s).ShownAlike RunOutcome.undigested ctx (planPatch ctx text' t)
      ∧ (checkPatch text).ShownAlike DocumentSummary.undigested ctx (checkPatch text')
      ∧ (applyPatch ctx text s).store.SameButSecrets (applyPatch ctx text' t).store
      ∧ (planPatch ctx text s).store.SameButSecrets (planPatch ctx text' t).store
      ∧ s.PrintedAlike t
      ∧ (applyPatch ctx text s).store.PrintedAlike (applyPatch ctx text' t).store
      ∧ (planPatch ctx text s).store.PrintedAlike (planPatch ctx text' t).store := by
  have hunseen : SecretsUnseen Faulty.SameButSecrets :=
    Faulty.secretsUnseen (Sum.secretsUnseen MemoryStore.secretsUnseen TableStore.secretsUnseen)
  obtain ⟨happly, happlied⟩ := applyPatch_shownAlike hunseen hd hst hagree ctx hload hload'
  obtain ⟨hplan, hplanned⟩ := planPatch_shownAlike hunseen hd hst hagree ctx hload hload'
  exact ⟨happly, hplan, checkPatch_shownAlike ctx hload hload' hd, happlied, hplanned, hst.printedAlike,
    happlied.printedAlike, hplanned.printedAlike⟩

/-- A patch that sets one secret to another value and leaves another one as it is. -/
theorem secrets_do_not_show_changed_and_kept :
    let text (password token : String) : String :=
      "schema_version: 0\nfeatures:\n  - id: f\n    mode: find\n    fields:\n      password: " ++ password
        ++ "\n      token: " ++ token ++ "\n      url: v\n"
    let d (password token : String) : Document :=
      ⟨"_Self", [], [⟨"f", none, .find, .ofList [("password", password), ("token", token), ("url", "v")]⟩]⟩
    let r (password token : String) : FeatureRecord :=
      ⟨"f", "t", .ofList [("password", password), ("token", token), ("url", "u")]⟩
    let s (r : FeatureRecord) : Faulty (MemoryStore ⊕ TableStore) :=
      .ofStore (.inr (.ofTables ⟨[], [r.rowAt 0]⟩ .none))
    let ctx : Context := ⟨"run", none⟩
    load (text "env:NEW" "env:A") = .ok (d "env:NEW" "env:A")
      ∧ load (text "env:CHANGED" "env:B") = .ok (d "env:CHANGED" "env:B")
      ∧ (s (r "env:OLD" "env:A")).SameButSecrets (s (r "env:FORMER" "env:B"))
      ∧ (applyPatch ctx (text "env:NEW" "env:A") (s (r "env:OLD" "env:A"))).ShownAlike RunOutcome.undigested ctx
        (applyPatch ctx (text "env:CHANGED" "env:B") (s (r "env:FORMER" "env:B"))) := by
  intro text d r s ctx
  have hload : load (text "env:NEW" "env:A") = .ok (d "env:NEW" "env:A") := by decide +kernel
  have hload' : load (text "env:CHANGED" "env:B") = .ok (d "env:CHANGED" "env:B") := by decide +kernel
  have hd : (d "env:NEW" "env:A").SameButSecrets (d "env:CHANGED" "env:B") :=
    ⟨rfl, rfl, .cons ⟨rfl, rfl, rfl, by decide +kernel⟩ .nil⟩
  have hr : (r "env:OLD" "env:A").SameButSecrets (r "env:FORMER" "env:B") := ⟨rfl, rfl, by decide +kernel⟩
  have htables : (Tables.mk [] [(r "env:OLD" "env:A").rowAt 0]).SameButSecrets
      (.mk [] [(r "env:FORMER" "env:B").rowAt 0]) := ⟨rfl, .cons (hr.rowAt 0) .nil⟩
  have hst : (s (r "env:OLD" "env:A")).SameButSecrets (s (r "env:FORMER" "env:B")) :=
    .ofTableStore (.ofTables htables .none)
  have hlisted (r : FeatureRecord) : (ConfigStore.listFeatures (s r)).1 = .ok [r] := by
    have hread : TableStore.readRecords [r.rowAt 0] = .ok [r] :=
      readRecords_eq_ok_iff.2 (Holds.newRows 0 [r])
    exact hread
  refine ⟨hload, hload', hst, (secrets_do_not_show ctx hload hload' hd hst ?_).1⟩
  intro records records' hrecords hrecords'
  rw [hlisted] at hrecords hrecords'
  cases hrecords
  cases hrecords'
  unfold Document.AgreesAlike
  decide +kernel

end GuardedPatch
