import GuardedPatch.Proofs.Document
import GuardedPatch.Proofs.Run.Phases

set_option autoImplicit false

/-! # Reports on other documents

A report names the parameters and features that it is about, and it is taken for every document with the same names.
What else the two documents ask for is not compared. So the report tells a document which of its parameters are
eligible, and which of its features are created and which are updated, as it was for the other one.

The report on another document on the same store is as good as the document's own one if the same parameters are due in
both, and each feature is changed in the same mode or is as it would be created (`Document.AsksAlike`). Otherwise
another result is forecast, and applying does something else (`foreign_reports`); it may replace a record that was to be
updated (`foreign_report_followed`). -/

namespace GuardedPatch

/-! ## Entries that come to the same -/

/-- A change of a feature comes to the same by the report on another one: both have the same mode, or the record is as
    the change would create it. -/
def FeatureChange.Alike (records : List FeatureRecord) (c c' : FeatureChange) : Prop :=
  c.mode = c'.mode ∨ recordAt? records c.id = some ⟨c.id, c.type?.getD "", c.desired⟩

/-- Creating the record that is there already is as good as updating it, and otherwise the outcomes differ. -/
theorem FeatureChange.step_update_iff (c : FeatureChange) (existing : FeatureRecord) :
    ((c.step (.update existing)).outcome? = (c.step (.create (some existing))).outcome? ↔
        existing = ⟨c.id, c.type?.getD "", c.desired⟩)
      ∧ (existing = ⟨c.id, c.type?.getD "", c.desired⟩ →
        c.step (.update existing) = c.step (.create (some existing))) := by
  have hsame : existing = ⟨c.id, c.type?.getD "", c.desired⟩ →
      c.step (.update existing) = c.step (.create (some existing)) := by
    intro h
    have hfields : existing.fields.insertAll c.desired.entries = existing.fields := by
      rw [TextMap.insertAll_eq_self_iff, h]
      exact fun e he => c.desired.get?_of_mem he
    have hrecord : (existing.mergedWith c.desired).1 = existing := by
      rw [FeatureRecord.mergedWith_fst, hfields]
    have hchanged := List.isEmpty_iff.1 ((existing.mergedWith_snd_isEmpty c.desired).2 hrecord)
    simp [step, hrecord, hchanged, ← h]
  refine ⟨⟨fun houtcome => ?_, fun h => congrArg Step.outcome? (hsame h)⟩, hsame⟩
  by_contra hne
  simp only [step, Step.outcome?, Option.some.injEq, hne, if_false, FeatureOutcome.mk.injEq] at houtcome
  split_ifs at houtcome <;> simp at houtcome

/-- **A feature change comes to the same by the report on another one** exactly if the two are alike, as all that the
    report tells is which record there is and whether to create or to update it. -/
theorem FeatureChange.step_foreign_iff {records : List FeatureRecord} (hrecords : DistinctIds records)
    {c c' : FeatureChange} (hid : c.id = c'.id) {target target' : Target} (htarget : c.target? records = some target)
    (htarget' : c'.target? records = some target') :
    ((c.step target').outcome? = (c.step target).outcome? ↔ c.Alike records c')
      ∧ (c.Alike records c' → c.step target' = c.step target) := by
  cases target with
  | create replaces =>
      obtain ⟨hmode, rfl⟩ := mode_of_target?_create htarget
      cases target' with
      | create replaces' =>
          obtain ⟨hmode', rfl⟩ := mode_of_target?_create htarget'
          rw [← hid]
          exact ⟨iff_of_true rfl (.inl (hmode.trans hmode'.symm)), fun _ => rfl⟩
      | update existing =>
          obtain ⟨hmode', hfound⟩ := recordAt?_of_target? hrecords htarget'
          rw [← hid] at hfound
          simpa [Alike, hmode, hmode', hfound] using c.step_update_iff existing
  | update existing =>
      obtain ⟨hmode, hfound⟩ := recordAt?_of_target? hrecords htarget
      cases target' with
      | create replaces' =>
          obtain ⟨hmode', rfl⟩ := mode_of_target?_create htarget'
          rw [← hid, hfound]
          have hupdate := c.step_update_iff existing
          simp only [Alike, hmode, hmode', hfound, reduceCtorEq, false_or, Option.some.injEq]
          exact ⟨eq_comm.trans hupdate.1, fun h => (hupdate.2 h).symm⟩
      | update existing' =>
          obtain ⟨hmode', hfound'⟩ := recordAt?_of_target? hrecords htarget'
          rw [← hid, hfound] at hfound'
          obtain rfl : existing = existing' := Option.some.inj hfound'
          exact ⟨iff_of_true rfl (.inl (hmode.trans hmode'.symm)), fun _ => rfl⟩

/-- The entry of a parameter change in the report on a store with these parameters. -/
def ParamChange.checkIn (params : TextMap) (c : ParamChange) : ParamCheck :=
  ⟨c.key, c.verdict (params.get? c.key)⟩

/-- Two changes get the same entry exactly if they are for one parameter and both are due, or neither of them. -/
theorem ParamChange.checkIn_eq_iff {params : TextMap} {c c' : ParamChange} :
    c.checkIn params = c'.checkIn params ↔ c.key = c'.key ∧ c.dueIn params = c'.dueIn params := by
  rw [checkIn, checkIn, ParamCheck.mk.injEq, dueIn, dueIn]
  refine and_congr_right fun hkey => ?_
  rw [← hkey]
  cases params.get? c.key with
  | none => simp [verdict]
  | some value =>
      by_cases h : value = c.expected <;> by_cases h' : value = c'.expected <;> simp [verdict, h, h']

theorem ParamChange.verdict_eq_of_skipped? {c : ParamChange} {v v' : Verdict} (h : c.skipped? v = c.skipped? v') :
    v = v' := by
  cases v <;> cases v' <;> simp_all [skipped?, Verdict.skip?]

theorem ParamChange.key_of_skipped? {c : ParamChange} {v : Verdict} {e : SkippedChange} (h : c.skipped? v = some e) :
    e.key = c.key := by
  rw [skipped?, Option.map_eq_some_iff] at h
  obtain ⟨⟨reason, actual⟩, -, rfl⟩ := h
  rfl

/-! ## Reports that come to the same -/

/-- The entries for the parameters that a report leaves alone. -/
def skippedBy (cs : List ParamChange) (checks : List ParamCheck) : List SkippedChange :=
  (cs.zip checks).filterMap fun (c, check) => c.skipped? check.verdict

theorem skippedBy_cons (c : ParamChange) (cs : List ParamChange) (check : ParamCheck) (checks : List ParamCheck) :
    skippedBy (c :: cs) (check :: checks) = (c.skipped? check.verdict).toList ++ skippedBy cs checks := by
  cases hskip : c.skipped? check.verdict <;> simp [skippedBy, hskip]

theorem key_mem_of_skippedBy {cs : List ParamChange} {checks : List ParamCheck} {e : SkippedChange}
    (h : e ∈ skippedBy cs checks) : e.key ∈ cs.map (·.key) := by
  obtain ⟨⟨c, check⟩, hmem, he⟩ := List.mem_filterMap.1 h
  rw [ParamChange.key_of_skipped? he]
  exact List.mem_map_of_mem (List.of_mem_zip hmem).1

/-- Lists that may start with an entry which is in neither rest are the same if they start alike and go on alike. -/
theorem toList_append_inj {α : Type} {o o' : Option α} {as bs : List α} (ho : ∀ a, o = some a → a ∉ bs)
    (ho' : ∀ a, o' = some a → a ∉ as) (h : o.toList ++ as = o'.toList ++ bs) : o = o' ∧ as = bs := by
  cases o with
  | none =>
      cases o' with
      | none => exact ⟨rfl, h⟩
      | some a => exact absurd (by simp [show as = a :: bs from h]) (ho' a rfl)
  | some a =>
      cases o' with
      | none => exact absurd (by simp [← show a :: as = bs from h]) (ho a rfl)
      | some a' =>
          obtain ⟨rfl, hrest⟩ := List.cons.inj h
          exact ⟨rfl, hrest⟩

/-- **What is left alone tells all about the parameters**: which are due, and what the other ones have. -/
theorem eq_of_skippedBy_eq {cs : List ParamChange} (hnodup : (cs.map (·.key)).Nodup) {checks checks' : List ParamCheck}
    (hkeys : cs.map (·.key) = checks.map (·.key)) (hkeys' : cs.map (·.key) = checks'.map (·.key))
    (h : skippedBy cs checks = skippedBy cs checks') : checks = checks' := by
  induction cs generalizing checks checks' with
  | nil =>
      rw [List.map_nil, eq_comm, List.map_eq_nil_iff] at hkeys hkeys'
      rw [hkeys, hkeys']
  | cons c rest ih =>
      obtain ⟨⟨key, verdict⟩, checks, rfl, rfl, hothers⟩ := List.map_eq_cons_iff.1 hkeys.symm
      obtain ⟨⟨key', verdict'⟩, checks', rfl, rfl, hothers'⟩ := List.map_eq_cons_iff.1 hkeys'.symm
      rw [List.map_cons, List.nodup_cons] at hnodup
      have hfirst : ∀ v checks e, c.skipped? v = some e → e ∉ skippedBy rest checks := by
        intro v checks e he hmem
        rw [← ParamChange.key_of_skipped? he] at hnodup
        exact hnodup.1 (key_mem_of_skippedBy hmem)
      rw [skippedBy_cons, skippedBy_cons] at h
      obtain ⟨hskipped, hrest⟩ := toList_append_inj (hfirst _ _) (hfirst _ _) h
      have hverdict : verdict = verdict' := ParamChange.verdict_eq_of_skipped? hskipped
      rw [hverdict, ih hnodup.2 hothers.symm hothers'.symm hrest]

/-- The outcomes of feature changes by the entries of a report. -/
def outcomesBy (cs : List FeatureChange) (checks : List FeatureCheck) : List FeatureOutcome :=
  (cs.zip checks).filterMap fun (c, check) => (c.step check.target).outcome?

/-- The steps of feature changes by the entries of a report. -/
def stepsBy (cs : List FeatureChange) (checks : List FeatureCheck) : List Step :=
  (cs.zip checks).map fun (c, check) => c.step check.target

theorem FeatureChange.exists_outcome (c : FeatureChange) (target : Target) :
    ∃ outcome, (c.step target).outcome? = some outcome := by
  cases target <;> exact ⟨_, rfl⟩

/-- **By the report on other changes of the same features**, the outcomes are the same exactly if the changes are alike,
    and then the steps are the same as well. -/
theorem outcomesBy_eq_iff {records : List FeatureRecord} (hrecords : DistinctIds records)
    {cs cs' : List FeatureChange} (hids : cs.map (·.id) = cs'.map (·.id)) {checks checks' : List FeatureCheck}
    (hchecks : checkTargets records cs = .ok checks) (hchecks' : checkTargets records cs' = .ok checks') :
    (outcomesBy cs checks' = outcomesBy cs checks ↔ List.Forall₂ (fun c c' => c.id = c'.id ∧ c.Alike records c') cs cs')
      ∧ (List.Forall₂ (fun c c' => c.id = c'.id ∧ c.Alike records c') cs cs' →
        stepsBy cs checks' = stepsBy cs checks) := by
  obtain ⟨hlands, rfl⟩ := checkTargets_eq_ok_iff.1 hchecks
  obtain ⟨hlands', rfl⟩ := checkTargets_eq_ok_iff.1 hchecks'
  clear hchecks hchecks'
  induction cs generalizing cs' with
  | nil =>
      rw [List.map_nil, eq_comm, List.map_eq_nil_iff] at hids
      rw [hids]
      exact ⟨iff_of_true rfl .nil, fun _ => rfl⟩
  | cons c rest ih =>
      obtain ⟨c', rest', rfl, hid, hothers⟩ := List.map_eq_cons_iff.1 hids.symm
      rw [List.forall_mem_cons] at hlands hlands'
      obtain ⟨hsame, hstep⟩ := FeatureChange.step_foreign_iff hrecords hid.symm hlands.1 hlands'.1
      obtain ⟨houtcomes, hsteps⟩ := ih hothers.symm hlands.2 hlands'.2
      obtain ⟨outcome, houtcome⟩ := c.exists_outcome (c.landing records)
      obtain ⟨outcome', houtcome'⟩ := c.exists_outcome (c'.landing records)
      rw [houtcome, houtcome', Option.some.injEq] at hsame
      constructor
      · rw [List.forall₂_cons, and_iff_right hid.symm, ← hsame, ← houtcomes]
        simp [outcomesBy, houtcome, houtcome']
      · intro halike
        rw [List.forall₂_cons] at halike
        have htail := hsteps halike.2
        simp only [stepsBy, List.map_cons, List.zip_cons_cons] at htail ⊢
        rw [hstep halike.1.2, htail]

/-! ## Documents that ask alike -/

namespace Document

/-- Two documents have the same names in the same order. -/
def SameNames (d d' : Document) : Prop :=
  d.params.map (·.key) = d'.params.map (·.key) ∧ d.features.map (·.id) = d'.features.map (·.id)

/-- Two documents ask alike for these parameters and records: the same of their parameters are due, and their feature
    changes come to the same. -/
structure AsksAlike (params : TextMap) (records : List FeatureRecord) (d d' : Document) : Prop where
  params : List.Forall₂ (fun c c' => c.key = c'.key ∧ c.dueIn params = c'.dueIn params) d.params d'.params
  features : List.Forall₂ (fun c c' => c.id = c'.id ∧ c.Alike records c') d.features d'.features

end Document

variable {d d' : Document} {r r' : Report}

/-- The steps that set parameters by the entries of a report. -/
def setsBy (cs : List ParamChange) (checks : List ParamCheck) : List Step :=
  (cs.zip checks).filterMap fun (c, check) => c.step? check.verdict

theorem Agenda.ofReport_eq (d : Document) (r : Report) :
    Agenda.ofReport d r = ⟨setsBy d.params r.params ++ stepsBy d.features r.features, skippedBy d.params r.params⟩ :=
  rfl

theorem features_result (d : Document) (r : Report) :
    (Agenda.ofReport d r).result.features = outcomesBy d.features r.features := by
  have hsets : (setsBy d.params r.params).filterMap Step.outcome? = [] := by
    rw [List.filterMap_eq_nil_iff]
    intro step hstep
    obtain ⟨⟨c, check⟩, -, heq⟩ := List.mem_filterMap.1 hstep
    exact ParamChange.outcome?_of_step? heq
  rw [Agenda.result, foldl_addTo, Agenda.ofReport_eq]
  show [] ++ (setsBy d.params r.params ++ stepsBy d.features r.features).filterMap Step.outcome? = _
  rw [List.nil_append, List.filterMap_append, hsets, List.nil_append, stepsBy, List.filterMap_map]
  rfl

theorem skipped_result (d : Document) (r : Report) :
    (Agenda.ofReport d r).result.skipped = skippedBy d.params r.params := by
  rw [Agenda.result, foldl_addTo]
  rfl

section QuietStore

variable {σ : Type} [ConfigStore σ] {s : σ} {params : TextMap} {records : List FeatureRecord}

/-- A report on another document is taken if that document has the same names. -/
theorem alignedWith_iff_sameNames (hreport' : (validate d' s).answer = .ok r') : r'.AlignedWith d ↔ d.SameNames d' := by
  obtain ⟨hkeys, hids, -⟩ := Agenda.of?_eq_ok_iff.1 (validate_aligned hreport')
  rw [Report.AlignedWith, Document.SameNames, hkeys, hids]

/-- Parameters get the same entries exactly if the same of them are due. -/
theorem map_checkIn_eq_iff {cs cs' : List ParamChange} :
    cs.map (·.checkIn params) = cs'.map (·.checkIn params)
      ↔ List.Forall₂ (fun c c' => c.key = c'.key ∧ c.dueIn params = c'.dueIn params) cs cs' := by
  rw [← List.forall₂_eq_eq_eq, List.forall₂_map_left_iff, List.forall₂_map_right_iff]
  simp only [ParamChange.checkIn_eq_iff]

theorem agenda_of_not_aligned (h : ¬ r.AlignedWith d) : ∃ reason, Agenda.of? d r = .error (.reportMismatch reason) := by
  rw [Agenda.of?]
  split_ifs with hkeys hids
  · exact ⟨_, rfl⟩
  · exact ⟨_, rfl⟩
  · push Not at hkeys hids
    exact absurd ⟨hkeys, hids⟩ h

/-- **A report on another document is as good as the own one** exactly if both documents ask alike. Then it makes the
    same agenda, and otherwise another forecast. -/
theorem agenda_foreign (hreads : Reads s params records) (hrecords : DistinctIds records) (hd : d.Valid)
    (hreport : (validate d s).answer = .ok r) (hreport' : (validate d' s).answer = .ok r') :
    (d.AsksAlike params records d' → Agenda.of? d r' = Agenda.of? d r)
      ∧ (forecast d r' = forecast d r → d.AsksAlike params records d') := by
  obtain ⟨hparams, hchecks⟩ := hreads.report hreport
  obtain ⟨hparams', hchecks'⟩ := hreads.report hreport'
  have hentries : r.params = r'.params
      ↔ List.Forall₂ (fun c c' => c.key = c'.key ∧ c.dueIn params = c'.dueIn params) d.params d'.params := by
    rw [hparams, hparams']
    exact map_checkIn_eq_iff
  have hown : r.AlignedWith d := (alignedWith_iff_sameNames hreport).2 ⟨rfl, rfl⟩
  constructor
  · intro halike
    have hkeys : d.params.map (·.key) = d'.params.map (·.key) := map_eq_of_forall₂ halike.params fun _ _ h => h.1
    have hids : d.features.map (·.id) = d'.features.map (·.id) := map_eq_of_forall₂ halike.features fun _ _ h => h.1
    have hother : r'.AlignedWith d := (alignedWith_iff_sameNames hreport').2 ⟨hkeys, hids⟩
    have hsteps : stepsBy d.features r'.features = stepsBy d.features r.features :=
      (outcomesBy_eq_iff hrecords hids hchecks hchecks').2 halike.features
    rw [hown.agenda, hother.agenda, Agenda.ofReport_eq, Agenda.ofReport_eq, hsteps, hentries.2 halike.params]
  · intro hsame
    by_cases hnames : d.SameNames d'
    · have hother : r'.AlignedWith d := (alignedWith_iff_sameNames hreport').2 hnames
      rw [forecast_of_aligned hown, forecast_of_aligned hother, Except.ok.injEq] at hsame
      have hskipped := congrArg ApplyResult.skipped hsame
      have hfeatures := congrArg ApplyResult.features hsame
      rw [skipped_result, skipped_result] at hskipped
      rw [features_result, features_result] at hfeatures
      exact ⟨hentries.1 (eq_of_skippedBy_eq hd.keys_nodup hown.1 hother.1 hskipped.symm),
        (outcomesBy_eq_iff hrecords hnames.2 hchecks hchecks').1.1 hfeatures⟩
    · obtain ⟨reason, hmismatch⟩ := agenda_of_not_aligned (mt (alignedWith_iff_sameNames hreport').1 hnames)
      rw [forecast_of_aligned hown, forecast, hmismatch] at hsame
      cases hsame

/-- **Reports on other documents.** On any store that is not changed by reading, let a report be made there for one
    document and taken for another one, which is valid.

    - If the names of the two documents differ, the report is refused as a mismatch, and nothing is done.
    - If they do not, the report is followed, whatever else the documents ask for, and even if there is none on the
      document itself.
    - If there is one, the other one forecasts the same exactly if both documents ask alike. Then applying does the same
      as well, and otherwise it does not answer with the same result. -/
theorem foreign_reports (hreads : Reads s params records) (hrecords : DistinctIds records) (hd : d.Valid)
    (hreport' : (validate d' s).answer = .ok r') :
    (¬ d.SameNames d' → ∃ reason, forecast d r' = .error (.reportMismatch reason)
        ∧ apply d r' s = .fail (.reportMismatch reason) s)
      ∧ (d.SameNames d' → (∃ result, forecast d r' = .ok result)
        ∧ ∀ reason, (apply d r' s).answer ≠ .error (.reportMismatch reason))
      ∧ ∀ r, (validate d s).answer = .ok r →
        (forecast d r' = forecast d r ↔ d.AsksAlike params records d')
          ∧ (d.AsksAlike params records d' → apply d r' s = apply d r s)
          ∧ ∀ result, (apply d r' s).answer = .ok result → (apply d r s).answer = .ok result →
            d.AsksAlike params records d' := by
  refine ⟨fun hnames => ?_, fun hnames => ⟨?_, fun reason hmismatch => ?_⟩, fun r hreport => ?_⟩
  · obtain ⟨reason, hmismatch⟩ := agenda_of_not_aligned (mt (alignedWith_iff_sameNames hreport').1 hnames)
    refine ⟨reason, ?_, ?_⟩
    · rw [forecast, hmismatch]
      rfl
    · rw [apply, hmismatch]
  · exact ⟨_, forecast_of_aligned ((alignedWith_iff_sameNames hreport').2 hnames)⟩
  · have hagenda := ((alignedWith_iff_sameNames hreport').2 hnames).agenda
    obtain ⟨refusal, part, rolledBack, -, habort⟩ := refusal_of_apply_error hagenda hmismatch
    cases habort
  · obtain ⟨hagenda, halike⟩ := agenda_foreign hreads hrecords hd hreport hreport'
    refine ⟨⟨halike, fun h => ?_⟩, fun h => ?_, fun result hok' hok => halike ?_⟩
    · rw [forecast, hagenda h, forecast]
    · rw [apply, hagenda h, apply]
    · rw [forecast_of_apply_ok hok', forecast_of_apply_ok hok]

end QuietStore

/-- Two documents expect the same value of a parameter. One creates a record that is there already, and the other one
    finds it. The first one takes the report on the second one, which is another one than its own, and does the same. -/
theorem foreign_reports_alike :
    let f : FeatureRecord := ⟨"f", "t", .ofList [("x", "1")]⟩
    let s : MemoryStore := ⟨.ofList [("a", "1")], [f], []⟩
    let d : Document := ⟨"site", [⟨"a", "1", "2"⟩], [⟨"f", some "t", .create, f.fields⟩]⟩
    let d' : Document := ⟨"site", [⟨"a", "1", "3"⟩], [⟨"f", none, .find, .ofList [("x", "2")]⟩]⟩
    let r : Report := ⟨[⟨"a", .eligible⟩], [⟨"f", .create (some f)⟩]⟩
    let r' : Report := ⟨[⟨"a", .eligible⟩], [⟨"f", .update f⟩]⟩
    (validate d s).answer = .ok r ∧ (validate d' s).answer = .ok r' ∧ forecast d r' = forecast d r
      ∧ apply d r' s = apply d r s := by
  intro f s d d' r r'
  have hvalid : d.Valid := ⟨rfl, by decide +kernel⟩
  have hrecords : DistinctIds s.features := List.nodup_singleton "f"
  have hreport : (validate d s).answer = .ok r := rfl
  have hreport' : (validate d' s).answer = .ok r' := rfl
  obtain ⟨-, -, hboth⟩ := foreign_reports s.reads hrecords hvalid hreport'
  obtain ⟨hforecast, happly, -⟩ := hboth r hreport
  have halike : d.AsksAlike s.params s.features d' := ⟨.cons ⟨rfl, rfl⟩ .nil, .cons ⟨rfl, .inr rfl⟩ .nil⟩
  exact ⟨hreport, hreport', hforecast.2 halike, happly halike⟩

/-- **A report on another document is followed.** A document finds a record, and another one creates it anew with
    another type and other fields. By the report on the second one, the first one replaces the record, whose type and
    whose other field are lost; by its own report it changes one field. -/
theorem foreign_report_followed :
    let f : FeatureRecord := ⟨"f", "t", .ofList [("x", "1"), ("z", "3")]⟩
    let s : MemoryStore := ⟨.empty, [f], []⟩
    let d : Document := ⟨"site", [], [⟨"f", none, .find, .ofList [("x", "2")]⟩]⟩
    let d' : Document := ⟨"site", [], [⟨"f", some "u", .create, .ofList [("y", "1")]⟩]⟩
    let r : Report := ⟨[], [⟨"f", .update f⟩]⟩
    let r' : Report := ⟨[], [⟨"f", .create (some f)⟩]⟩
    d.Valid ∧ d'.Valid ∧ DistinctIds s.features
      ∧ (validate d s).answer = .ok r ∧ (validate d' s).answer = .ok r'
      ∧ forecast d r' = .ok ⟨[], [], [⟨"f", .created, ["x"]⟩], none⟩
      ∧ forecast d r = .ok ⟨[], [], [⟨"f", .updated, ["x"]⟩], none⟩
      ∧ (apply d r' s).answer = forecast d r' ∧ (apply d r s).answer = forecast d r
      ∧ (apply d r' s).store.features = [⟨"f", "", .ofList [("x", "2")]⟩]
      ∧ (apply d r s).store.features = [⟨"f", "t", .ofList [("x", "2"), ("z", "3")]⟩] := by
  intro f s d d' r r'
  have hvalid : d.Valid := ⟨rfl, by decide +kernel⟩
  have hvalid' : d'.Valid := ⟨rfl, by decide +kernel⟩
  exact ⟨hvalid, hvalid', List.nodup_singleton "f", rfl, rfl, rfl, rfl, rfl, rfl, rfl, rfl⟩

end GuardedPatch
