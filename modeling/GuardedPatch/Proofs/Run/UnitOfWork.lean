import GuardedPatch.Proofs.Run.Command
import GuardedPatch.Proofs.Run.Reference
import GuardedPatch.Proofs.Store.Outages
import GuardedPatch.Proofs.Store.Rows

set_option autoImplicit false

/-! # Applying on a store over a database

Applying a patch text on a store over a database is all or nothing. There are many points at which it can fail: the
text is not loaded, the document is not validated, a read or a write is refused, an undo is refused as well, the commit
fails; and any statement may meet an outage. After the run was opened, all of them leave a store within that run
(`Fallible.apply_keeps`), and closing it brings back the store as it was; before that, nothing was written.

When nothing fails, the tables are those that the document intends: a parameter row that is due gets its new value, a
feature row that is altered gets the wanted type and fields, and each record that is created gets a new row. Locks,
positions and all other rows stay as they are. -/

namespace GuardedPatch

/-! ## All or nothing -/

namespace OverDatabase

variable {τ : Type} [ConfigStore τ] {view : τ → TableStore} {s : τ}

/-- A run that is opened is opened on the store behind. -/
theorem of_begun (h : OverDatabase view) (hidle : (view s).Idle) {s' : τ}
    (hbegin : ConfigStore.beginRun s = (.ok (), s')) :
    view s' = (TableStore.openRun (view s)).2 ∧ (view s).Within (view s') := by
  have hview : view s' = (TableStore.openRun (view s)).2 := by rw [h.beginRun.of_ok hbegin]
  exact ⟨hview, hview ▸ (TableStore.openRun_of_idle hidle).2.1⟩

/-- A run that cannot be opened leaves the store behind as it was. -/
theorem of_not_begun (h : OverDatabase view) (hidle : (view s).Idle) {s' : τ} {err : StoreError}
    (hbegin : ConfigStore.beginRun s = (.error err, s')) : view s' = view s := by
  rcases h.beginRun s with ⟨hanswer, -⟩ | ⟨err', -, hsame⟩
  · rw [hbegin, (TableStore.openRun_of_idle hidle).1] at hanswer
    cases hanswer
  · rwa [hbegin] at hsame

/-- **A unit of work leaves what applying writes, or the store as it was.** -/
theorem applyBracketed_cases (h : OverDatabase view) (hidle : (view s).Idle) (d : Document) (r : Report) :
    (∃ result, (PatchRun.applyBracketed d r s).answer = .ok result
        ∧ (apply d r (TableStore.openRun (view s)).2).answer = .ok result
        ∧ (view (PatchRun.applyBracketed d r s).store).Idle
        ∧ (view (PatchRun.applyBracketed d r s).store).tables
          = (apply d r (TableStore.openRun (view s)).2).store.tables)
      ∨ ∃ e, (PatchRun.applyBracketed d r s).answer = .error e
        ∧ view (PatchRun.applyBracketed d r s).store = view s := by
  rw [PatchRun.applyBracketed]
  cases hbegin : ConfigStore.beginRun s with
  | mk answer s' =>
      cases answer with
      | error err => exact .inr ⟨_, rfl, h.of_not_begun hidle hbegin⟩
      | ok _ =>
          obtain ⟨hview, hwithin⟩ := h.of_begun hidle hbegin
          -- whatever applying comes to, undos that fail included, the run is still open and can be closed
          have hinside : (view s).Within (view (apply d r s').store) :=
            h.apply_keeps (fun _ _ hs => hs) (fun e _ hs => hs.perform e) d r hwithin
          cases happly : (apply d r s').answer with
          | ok result =>
              obtain ⟨hbehind, hstore⟩ := h.apply d r s' result happly
              rw [hview] at hbehind hstore
              simp only [happly]
              have hkept := h.keepRun hidle hinside
              generalize ConfigStore.endRun true (apply d r s').store = closed at hkept
              obtain ⟨answer, s''⟩ := closed
              rcases hkept with ⟨hok, hafter, htables⟩ | ⟨err, herror, hback⟩
              · obtain rfl : answer = .ok () := hok
                exact .inl ⟨result, rfl, hbehind, hafter, htables.trans (congrArg TableStore.tables hstore)⟩
              · obtain rfl : answer = .error err := herror
                exact .inr ⟨_, rfl, hback⟩
          | error stop =>
              simp only [happly]
              have hdropped := h.dropRun hidle hinside
              generalize ConfigStore.endRun false (apply d r s').store = closed at hdropped
              obtain ⟨answer, s''⟩ := closed
              obtain ⟨hok, hback⟩ := hdropped
              obtain rfl : answer = .ok () := hok
              exact .inr ⟨stop, rfl, hback⟩

theorem validate_store (h : OverDatabase view) (d : Document) (s : τ) : view (validate d s).store = view s :=
  h.validate_keeps (I := (· = view s)) (fun _ _ hs => hs) (fun _ hs => hs) d rfl

/-- **Applying a text is all or nothing.** It goes through all stages, or leaves the store as it was. -/
theorem applyPatch_cases (h : OverDatabase view) (hidle : (view s).Idle) (ctx : Context) (text : String) :
    (∃ d report o, load text = .ok d ∧ (validate d (view s)).answer = .ok report
        ∧ (applyPatch ctx text s).answer = .ok o
        ∧ (∃ result, (apply d report (TableStore.openRun (view s)).2).answer = .ok result)
        ∧ (view (applyPatch ctx text s).store).Idle
        ∧ (view (applyPatch ctx text s).store).tables = (apply d report (TableStore.openRun (view s)).2).store.tables)
      ∨ ∃ e, (applyPatch ctx text s).answer = .error e ∧ view (applyPatch ctx text s).store = view s := by
  rcases commands_cases ctx text s with ⟨e, herror, -, hsame | ⟨d, hread⟩⟩ | ⟨d, report, hload, hreport⟩
  · exact .inr ⟨e, herror, congrArg view hsame⟩
  · exact .inr ⟨e, herror, (congrArg view hread).trans (h.validate_store d s)⟩
  · obtain ⟨hanswer, hstore⟩ := applyPatch_of_validated ctx hload hreport
    have hread := h.validate_store d s
    rcases h.applyBracketed_cases (hread ▸ hidle) d report with
      ⟨result, hok, happly, hafter, htables⟩ | ⟨e, herror, hsame⟩
    · rw [hok] at hanswer
      rw [hread] at happly htables
      rw [hstore]
      have hbehind := (h.validate d s report hreport).1
      exact .inl ⟨d, report, _, hload, hbehind, hanswer, ⟨result, happly⟩, hafter, htables⟩
    · rw [herror] at hanswer
      rw [hstore]
      exact .inr ⟨e, hanswer, hsame.trans hread⟩

end OverDatabase

theorem TableStore.validate_store (d : Document) (s : TableStore) : (validate d s).store = s :=
  overDatabase.validate_store d s

/-! ## What is written -/

/-- The parameter rows afterwards: those with an expected value get the new one. -/
def Document.paramRowsAfter (d : Document) (params : TextMap) (rows : List ParamRow) : List ParamRow :=
  rows.map (·.overlaid (d.dueEntries params))

/-- The feature rows afterwards: those of records that are altered hold the wanted ones, and those that are created
    get new rows. -/
def Document.featureRowsAfter (d : Document) (records : List FeatureRecord) (rows : List FeatureRow) :
    List FeatureRow :=
  rows.map (·.overlaid (d.written records)) ++ newRows (nextPosition rows) (d.created records)

theorem foldl_write_setParam (es : List (String × String)) (t : Tables) :
    (es.map fun e => Edit.setParam e.1 e.2).foldl (fun t e => t.write e.toWrite) t
      = { t with params := es.foldl (fun rows e => putParamRow e.1 e.2 rows) t.params } := by
  induction es generalizing t with
  | nil => rfl
  | cons e rest ih =>
      rw [List.map_cons, List.foldl_cons, ih]
      rfl

theorem foldl_write_putRecord (ws : List FeatureRecord) (t : Tables) :
    (ws.map Edit.putRecord).foldl (fun t e => t.write e.toWrite) t
      = { t with features := ws.foldl (fun rows w => putFeatureRow w rows) t.features } := by
  induction ws generalizing t with
  | nil => rfl
  | cons w rest ih =>
      rw [List.map_cons, List.foldl_cons, ih]
      rfl

namespace TableStore

variable {s : TableStore}

/-- A store over a database is not changed by reading, and reads as its tables. -/
theorem reads (hkeyed : s.tables.Keyed) {records : List FeatureRecord}
    (hrecords : ∀ rs, s.features = .ok rs → rs = records) : Reads s s.params records where
  get_store _ := rfl
  get_answer key value h := by
    rw [get?_params hkeyed.params]
    exact (Except.ok.inj h).symm
  list_store := rfl
  list_answer rs h := hrecords rs h

/-- The records of a listing have the ids of the rows. -/
theorem ids_of_features {records : List FeatureRecord} (h : s.features = .ok records) :
    (records.map (·.id)).Perm (s.tables.features.map (·.id)) := by
  rw [(readRecords_eq_ok_iff.1 h).ids]
  exact (listed_perm _).map _

/-- A document that is validated changes no features, unless they can be listed. -/
theorem features_of_validate {d : Document} {r : Report} (h : (validate d s).answer = .ok r) :
    d.features = [] ∨ ∃ records, s.features = .ok records := by
  have hstore : (readParams d.params s).store = s :=
    readParams_invariant (I := (· = s)) (fun _ _ hs => hs) d.params rfl
  have hfeatures := (reads_of_validate h).2
  rw [hstore] at hfeatures
  rcases checkTargets_of_readFeatures hfeatures with ⟨hnil, -⟩ | ⟨records, hlist, -⟩
  · exact .inl hnil
  · exact .inr ⟨records, hlist⟩

/-- There is a row for each parameter that is due. -/
theorem row_of_due (hkeyed : s.tables.Keyed) (d : Document) :
    ∀ e ∈ d.dueEntries s.params, ∃ r ∈ s.tables.params, r.key = e.1 := by
  intro e he
  obtain ⟨c, hc, rfl⟩ := List.mem_map.1 he
  have hdue := (List.mem_filter.1 hc).2
  rw [ParamChange.dueIn, beq_iff_eq, get?_params hkeyed.params, Option.map_eq_some_iff] at hdue
  obtain ⟨r, hr, -⟩ := hdue
  exact ⟨r, List.mem_of_find?_eq_some hr, by simpa using List.find?_some hr⟩

/-- What is written for ids without rows is what is created. -/
theorem written_without_row (hkeyed : s.tables.Keyed) {d : Document} {r : Report}
    (hreport : (validate d s).answer = .ok r) {records : List FeatureRecord} (hlist : s.features = .ok records) :
    ((d.written records).filter fun w => w.id ∉ s.tables.features.map (·.id)) = d.created records := by
  have hids := ids_of_features hlist
  have hreads : Reads s s.params records := reads hkeyed fun rs hrs => Except.ok.inj (hrs.symm.trans hlist)
  rw [← d.written_new (hreads.found (hids.nodup_iff.2 hkeyed.features) hreport)]
  apply List.filter_congr
  intro w _
  rw [Bool.eq_iff_iff, decide_eq_true_iff, Option.isNone_iff_eq_none, recordAt?_eq_none_iff, ← hids.mem_iff]
  simp

/-- Applying leaves keys and ids distinct. -/
theorem keyed_of_apply {s₁ : TableStore} (h : s₁.tables.Keyed) (d : Document) (r : Report) :
    (apply d r s₁).store.tables.Keyed := by
  have hedit : ∀ (e : Edit) (s' : TableStore), s'.tables.Keyed → (e.perform s').2.tables.Keyed := by
    intro e s' hs
    rcases perform_cases e s' with ⟨-, hwrite⟩ | ⟨err, hrefused⟩
    · rw [hwrite]
      exact hs.write e.toWrite
    · rw [hrefused]
      exact hs
  exact apply_invariant (I := fun s' : TableStore => s'.tables.Keyed) (fun _ _ hs => hs) hedit d r h

/-- Applying writes the values and the records of the steps on the tables, one after the other. -/
theorem tables_of_steps {s₁ : TableStore} {d : Document} {r : Report} {params : TextMap}
    {records : List FeatureRecord} (hagenda : Agenda.of? d r = .ok ⟨d.stepsIn params records, d.skippedIn params⟩)
    {result : ApplyResult} (happly : (apply d r s₁).answer = .ok result) :
    (apply d r s₁).store.tables
      = ⟨(d.dueEntries params).foldl (fun rows e => putParamRow e.1 e.2 rows) s₁.tables.params,
        (d.written records).foldl (fun rows w => putFeatureRow w rows) s₁.tables.features⟩ := by
  have hrefusal := ((apply_eq_ok_iff hagenda).1 happly).1
  have hwritten : (progress (d.stepsIn params records) s₁).store.tables
      = ((progress (d.stepsIn params records) s₁).done.filterMap Step.edit?).foldl
          (fun t e => t.write e.toWrite) s₁.tables :=
    kept_progress (fun _ _ => rfl) tables_of_accepted tables_of_refused (d.stepsIn params records) s₁
  rw [apply_store_of_ok hagenda hrefusal, hwritten, done_of_refusal_none hrefusal, d.edits_stepsIn,
    List.foldl_append, foldl_write_setParam, foldl_write_putRecord]

/-- **What applying writes on tables is what is intended for them.** -/
theorem tables_of_apply {s₁ : TableStore} (hkeyed : s.tables.Keyed) (htables : s₁.tables = s.tables) {d : Document}
    (hd : d.Valid) {r : Report} (hreport : (validate d s).answer = .ok r) {records : List FeatureRecord}
    (hreads : Reads s s.params records) (hrecords : DistinctIds records)
    (hnew : ((d.written records).filter fun w => w.id ∉ s.tables.features.map (·.id)) = d.created records)
    {result : ApplyResult} (happly : (apply d r s₁).answer = .ok result) :
    (apply d r s₁).store.tables.params = d.paramRowsAfter s.params s.tables.params
      ∧ (apply d r s₁).store.tables.features = d.featureRowsAfter records s.tables.features := by
  have hagenda := agenda_of_validated hreads hrecords hreport
  have hparams := foldl_putParamRow (hd.dueEntries_nodup s.params) hkeyed.params (row_of_due hkeyed d)
  have hfeatures := foldl_putFeatureRow (hd.written_distinct records) hkeyed.features
  rw [hnew] at hfeatures
  rw [tables_of_steps hagenda happly, htables]
  exact ⟨hparams, hfeatures⟩

/-! ## What is read afterwards -/

/-- Parameters afterwards have the intended values. -/
theorem get?_paramRowsAfter {after : TableStore} (hkeyed : s.tables.Keyed) {d : Document} (hd : d.Valid)
    (hafter : after.tables.params = d.paramRowsAfter s.params s.tables.params) (key : String) :
    after.params.get? key = d.valueAfter s.params key := by
  rw [get?_params_overlaid hkeyed.params (row_of_due hkeyed d) hafter, ← hd.valueAfter_eq_get?,
    TextMap.get?_insertAll (hd.dueEntries_nodup s.params)]

/-- **The listing afterwards shows the intended records**, and in the intended order if the records that are created
    find room behind the others. -/
theorem features_featureRowsAfter {after : TableStore} (hkeyed : s.tables.Keyed) {d : Document} (hd : d.Valid)
    {records : List FeatureRecord} (hlist : s.features = .ok records)
    (hafter : after.tables.features = d.featureRowsAfter records s.tables.features) :
    ∃ records', after.features = .ok records' ∧ records'.Perm (d.recordsAfter records)
      ∧ (HasRoom s.tables.features (d.created records).length → records' = d.recordsAfter records) := by
  have hrecords : DistinctIds records := (ids_of_features hlist).nodup_iff.2 hkeyed.features
  have hlisted : listed (s.tables.features.map (·.overlaid (d.written records)))
      = (listed s.tables.features).map (·.overlaid (d.written records)) :=
    listed_map (FeatureRow.id_overlaid _) (FeatureRow.position_overlaid _) _
  have hwritten : (records.map fun r => (recordAt? (d.written records) r.id).getD r) ++ d.created records
      = d.recordsAfter records := by
    rw [Document.recordsAfter]
    congr 1
    exact List.map_congr_left fun r hr => hd.written_getD hrecords hr
  have hholds : Holds ((listed s.tables.features).map (·.overlaid (d.written records))
      ++ newRows (nextPosition s.tables.features) (d.created records)) (d.recordsAfter records) := by
    rw [← hwritten]
    exact ((readRecords_eq_ok_iff.1 hlist).overlaid _).append (.newRows _ _)
  -- new rows may stand elsewhere in the listing if positions run out, but hold the same records
  have hperm : (listed after.tables.features).Perm ((listed s.tables.features).map (·.overlaid (d.written records))
      ++ newRows (nextPosition s.tables.features) (d.created records)) := by
    rw [hafter, ← hlisted]
    exact (listed_perm _).trans ((listed_perm _).symm.append_right _)
  obtain ⟨records', hread, hsame⟩ := hholds.perm hperm
  refine ⟨records', readRecords_eq_ok_iff.2 hread, hsame, fun hroom => ?_⟩
  have hnext : nextPosition s.tables.features
      = nextPosition (s.tables.features.map (·.overlaid (d.written records))) := by
    apply nextPosition_congr
    rw [List.map_map]
    exact List.map_congr_left fun r _ => (r.position_overlaid _).symm
  have horder : listed after.tables.features = (listed s.tables.features).map (·.overlaid (d.written records))
      ++ newRows (nextPosition s.tables.features) (d.created records) := by
    rw [hafter, Document.featureRowsAfter, hnext,
      listed_append_newRows (hroom.map (FeatureRow.position_overlaid _)), hlisted]
  rw [← readRecords_eq_ok_iff, ← horder] at hholds
  exact Except.ok.inj ((readRecords_eq_ok_iff.2 hread).symm.trans hholds)

end TableStore

/-! ## Whole runs -/

/-- A store over a database is what a document makes of another one: its rows are the ones that the document intends,
    still with distinct keys and ids, and what is read from them are the intended values and records. If the records
    cannot be read, the document does not change any. -/
structure Document.MakesOf (d : Document) (s after : TableStore) : Prop where
  keyed : after.tables.Keyed
  paramRows : after.tables.params = d.paramRowsAfter s.params s.tables.params
  values : ∀ key, after.params.get? key = d.valueAfter s.params key
  featureRows : ∀ records, s.features = .ok records →
    after.tables.features = d.featureRowsAfter records s.tables.features
  listing : ∀ records, s.features = .ok records → ∃ records', after.features = .ok records'
    ∧ records'.Perm (d.recordsAfter records)
    ∧ (HasRoom s.tables.features (d.created records).length → records' = d.recordsAfter records)
  unread : (∀ records, s.features ≠ .ok records) → d.features = [] ∧ after.tables.features = s.tables.features

/-- **What applying writes on tables is what the document makes of them.** -/
theorem Document.Valid.makesOf {d : Document} (hd : d.Valid) {s s₁ after : TableStore} (hkeyed : s.tables.Keyed)
    (htables : s₁.tables = s.tables) {r : Report} (hreport : (validate d s).answer = .ok r) {result : ApplyResult}
    (happly : (apply d r s₁).answer = .ok result) (hafter : after.tables = (apply d r s₁).store.tables) :
    d.MakesOf s after := by
  have hkept : after.tables.Keyed := by
    rw [hafter]
    exact TableStore.keyed_of_apply (htables ▸ hkeyed) d r
  cases hlist : s.features with
  | ok records =>
      have hread : ∀ rs, s.features = .ok rs → rs = records := fun rs hrs => Except.ok.inj (hrs.symm.trans hlist)
      have hrecords : DistinctIds records := (TableStore.ids_of_features hlist).nodup_iff.2 hkeyed.features
      obtain ⟨hparams, hfeatures⟩ := TableStore.tables_of_apply hkeyed htables hd hreport
        (TableStore.reads hkeyed hread) hrecords (TableStore.written_without_row hkeyed hreport hlist) happly
      rw [← hafter] at hparams hfeatures
      refine ⟨hkept, hparams, TableStore.get?_paramRowsAfter hkeyed hd hparams, fun rs hrs => ?_, fun rs hrs => ?_,
        fun hno => absurd hlist (hno records)⟩
      · rw [hread rs hrs]
        exact hfeatures
      · rw [hread rs hrs]
        exact TableStore.features_featureRowsAfter hkeyed hd hlist hfeatures
  | error e =>
      -- the records cannot be read, so the document has no features and is measured against no records
      have hno : ∀ rs, s.features ≠ .ok rs := by
        intro rs hrs
        rw [hlist] at hrs
        cases hrs
      have hnil : d.features = [] := by
        rcases TableStore.features_of_validate hreport with hnil | ⟨records, hrecords⟩
        · exact hnil
        · exact absurd hrecords (hno records)
      have hwritten : d.written [] = [] := by
        rw [Document.written, hnil]
        rfl
      have hcreated : d.created [] = [] := by
        rw [Document.created, hnil]
        rfl
      have hreads : Reads s s.params [] := TableStore.reads hkeyed fun rs hrs => absurd hrs (hno rs)
      obtain ⟨hparams, hfeatures⟩ := TableStore.tables_of_apply hkeyed htables hd hreport hreads List.nodup_nil
        (by rw [hwritten, hcreated, List.filter_nil]) happly
      rw [← hafter] at hparams hfeatures
      refine ⟨hkept, hparams, TableStore.get?_paramRowsAfter hkeyed hd hparams, fun rs hrs => absurd hrs (hno rs),
        fun rs hrs => absurd hrs (hno rs), fun _ => ⟨hnil, ?_⟩⟩
      rw [hfeatures, Document.featureRowsAfter, hwritten, hcreated]
      simp only [FeatureRow.overlaid_nil, List.map_id', newRows, List.append_nil]

/-- What applying a text may come to on a store over a database. -/
structure UnitOfWork (text : String) (before : TableStore) (answer : Except PatchError RunOutcome)
    (after : TableStore) : Prop where
  /-- No run is open afterwards, neither for the store nor for its database. -/
  closed : after.Idle
  /-- The next run can begin. -/
  begins : (ConfigStore.beginRun after).1 = .ok ()
  /-- If there is an error, the store is as it was, rows, locks and positions included. -/
  restored : ∀ e, answer = .error e → after = before
  /-- If there is none, the store is what the document makes of it. -/
  made : before.tables.Keyed → ∀ o, answer = .ok o → ∃ d, load text = .ok d ∧ d.MakesOf before after

theorem OverDatabase.unitOfWork {τ : Type} [ConfigStore τ] {view : τ → TableStore} (h : OverDatabase view) {s : τ}
    (hidle : (view s).Idle) (ctx : Context) (text : String) :
    UnitOfWork text (view s) (applyPatch ctx text s).answer (view (applyPatch ctx text s).store) := by
  rcases h.applyPatch_cases hidle ctx text with
    ⟨d, report, o, hload, hreport, hanswer, ⟨result, happly⟩, hafter, htables⟩ | ⟨e, hanswer, hsame⟩
  · refine ⟨hafter, (TableStore.openRun_of_idle hafter).1, fun e he => ?_, fun hkeyed _ _ => ⟨d, hload, ?_⟩⟩
    · rw [hanswer] at he
      cases he
    · have hopened : (TableStore.openRun (view s)).2.tables = (view s).tables := (TableStore.openRun_of_idle hidle).2.2
      exact (load_valid hload).makesOf hkeyed hopened hreport happly htables
  · rw [hsame]
    refine ⟨hidle, (TableStore.openRun_of_idle hidle).1, fun _ _ => rfl, fun _ o ho => ?_⟩
    rw [hanswer] at ho
    cases ho

/-- **Applying a text on a store over a database is all or nothing.** Whatever the text is, and whatever the rules of
    the database hold against any of the writes, those of undos included, or against the commit; and so it is whichever
    statements meet outages, those that open the run, read a parameter, list the features or look up a lock included. -/
theorem applyPatch_unit_of_work (ctx : Context) (text : String) :
    (∀ s : TableStore, s.Idle → UnitOfWork text s (applyPatch ctx text s).answer (applyPatch ctx text s).store)
      ∧ ∀ s : UnsteadyStore, s.store.Idle →
        UnitOfWork text s.store (applyPatch ctx text s).answer (applyPatch ctx text s).store.store :=
  ⟨fun _ hidle => TableStore.overDatabase.unitOfWork hidle ctx text,
    fun _ hidle => UnsteadyStore.overDatabase.unitOfWork hidle ctx text⟩

/-- A lock takes back what was written before it, and so does an outage at the commit; a row that cannot be read is in
    nobody's way. -/
theorem applyPatch_unit_of_work_locked :
    let s : TableStore := .ofTables ⟨[⟨"a", "x", false⟩, ⟨"b", "x", true⟩], [⟨"f", "t", 0, "?", true⟩]⟩ .none
    let ctx : Context := ⟨"run", none⟩
    let one := "schema_version: 0\nparams:\n  - key: a\n    expect: x\n    update: y\n"
    let both := one ++ "  - key: b\n    expect: x\n    update: y\n"
    let locked : PatchError := .applyAborted "b" (lockedError "b").message ⟨[⟨"a", "x", "y"⟩], [], [], none⟩ true
    -- the value is read, the run opened, the value read again, its lock looked up, and the new one written
    let unsteady : UnsteadyStore := ⟨s, [none, none, none, none, none, some "disk is full"]⟩
    (applyPatch ctx both s).answer = .error locked ∧ (applyPatch ctx both s).store = s
      ∧ (∃ d, load one = .ok d ∧ d.MakesOf s (applyPatch ctx one s).store)
      ∧ (applyPatch ctx one unsteady).answer = .error (.ofStore (.backend "disk is full"))
      ∧ (applyPatch ctx one unsteady).store.store = s := by
  intro s ctx one both locked unsteady
  have hidle : s.Idle := ⟨rfl, rfl⟩
  have hkeyed : s.tables.Keyed := ⟨by decide, by decide⟩
  have herror {answer : Except PatchError RunOutcome} {e : PatchError}
      (h : (match answer with | .ok _ => none | .error e => some e) = some e) : answer = .error e := by
    cases answer with
    | ok o => cases h
    | error e' => exact congrArg Except.error (Option.some.inj h)
  have hlocked : (applyPatch ctx both s).answer = .error locked := herror (by decide +kernel)
  have hfull : (applyPatch ctx one unsteady).answer = .error (.ofStore (.backend "disk is full")) :=
    herror (by decide +kernel)
  refine ⟨hlocked, ((applyPatch_unit_of_work ctx both).1 s hidle).restored locked hlocked, ?_, hfull,
    ((applyPatch_unit_of_work ctx one).2 unsteady hidle).restored _ hfull⟩
  have hone : (applyPatch ctx one s).answer.toOption.isSome = true := by decide +kernel
  cases hanswer : (applyPatch ctx one s).answer with
  | ok o => exact ((applyPatch_unit_of_work ctx one).1 s hidle).made hkeyed o hanswer
  | error e =>
      rw [hanswer] at hone
      cases hone

/-- At the last position there is no room behind a record: of two that are created, the second one is listed first. -/
theorem created_records_listed_by_id :
    let s : TableStore := .ofTables ⟨[], [⟨"m", "t", positionLimit - 1, "\x7b\x7d", false⟩]⟩ .none
    let text := "schema_version: 0\nfeatures:\n  - id: z\n    type: t\n    mode: create\n"
      ++ "  - id: b\n    type: t\n    mode: create\n"
    let after := applyPatch ⟨"run", none⟩ text s
    s.Idle ∧ s.tables.Keyed ∧ after.answer.isOk = true
      ∧ ∃ d, load text = .ok d
        ∧ s.features = .ok [⟨"m", "t", .empty⟩]
        ∧ d.recordsAfter [⟨"m", "t", .empty⟩] = [⟨"m", "t", .empty⟩, ⟨"z", "t", .empty⟩, ⟨"b", "t", .empty⟩]
        ∧ after.store.features = .ok [⟨"m", "t", .empty⟩, ⟨"b", "t", .empty⟩, ⟨"z", "t", .empty⟩] := by
  intro s text after
  refine ⟨⟨rfl, rfl⟩, ⟨by decide, by decide⟩, by decide +kernel,
    ⟨defaultProject, [], [⟨"z", some "t", .create, .empty⟩, ⟨"b", some "t", .create, .empty⟩]⟩, ?_⟩
  exact ⟨by decide +kernel, by decide +kernel, by decide +kernel, by decide +kernel⟩

end GuardedPatch
