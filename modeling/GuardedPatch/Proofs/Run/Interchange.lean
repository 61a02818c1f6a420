import GuardedPatch.Proofs.Run.Lockstep
import GuardedPatch.Proofs.Run.Memory
import GuardedPatch.Proofs.Run.UnitOfWork
import GuardedPatch.Proofs.Store.Shown
import Mathlib.Algebra.Ring.Nat

set_option autoImplicit false

/-! # One kind of store for the other

A store in memory and a store over a database are filled with the same things, and then used in the same way. Every
answer is the same on both, those of runs included. The relation that is kept is that the tables show the contents of
the store in memory and that the locks agree at every place that is used (`TableStore.Mirrors`). The two stores take
back a run that is stopped in different ways: one replays the undos, and the other one drops the transaction. Both
come to the store as it was (`MemoryStore.replay_done`, `TableStore.abandonRun_of_within`).

A store in memory locks names, and a database locks rows, so that the two can only agree if no name stands both for a
parameter and for a feature. Positions are numbers of 64 bits. As long as they last, the listing is the list of the
store in memory; beyond that it has the same records. -/

namespace GuardedPatch

/-- The places that a document may write to. -/
def Document.places (d : Document) : List Slot :=
  d.params.map (fun c => .param c.key) ++ d.features.map (fun c => .feature c.id)

theorem Document.slot_mem_places (d : Document) (params : TextMap) (records : List FeatureRecord) :
    ∀ step ∈ d.stepsIn params records, step.slot ∈ d.places := by
  intro step hstep
  rcases List.mem_append.1 hstep with hset | hput
  · obtain ⟨c, hc, rfl⟩ := List.mem_map.1 hset
    exact List.mem_append_left _ (List.mem_map.2 ⟨c, (List.mem_filter.1 hc).1, rfl⟩)
  · obtain ⟨c, hc, rfl⟩ := List.mem_map.1 hput
    refine List.mem_append_right _ (List.mem_map.2 ⟨c, hc, ?_⟩)
    exact congrArg Slot.feature (c.id_wanted records).symm

/-- The number of features that a text asks for. -/
def featureCount (text : String) : Nat :=
  match load text with
  | .ok d => d.features.length
  | .error _ => 0

theorem featureCount_of_load {text : String} {d : Document} (h : load text = .ok d) :
    featureCount text = d.features.length := by
  unfold featureCount
  rw [h]

/-! ## Databases without rules -/

namespace TableStore

theorem perform_unruled {s : TableStore} (h : s.database.rules = .none) (e : Edit) :
    e.perform s =
      if s.lockedAt e.slot then (.error (lockedError e.slot.name), s)
      else (.ok (), ⟨{ s.database with tables := s.tables.write e.toWrite }, s.inRun⟩) := by
  have hjudge : s.database.rules.judge e.toWrite = .accepted := by
    rw [h]
    rfl
  rw [perform_edit, unlessLocked]
  split
  · rfl
  · rw [execute, Database.execute, hjudge]
    rfl

/-- **Without rules, a unit of work ends as applying does.** -/
theorem applyBracketed_unruled {s : TableStore} (hidle : s.Idle) (hrules : s.database.rules = .none) (d : Document)
    (r : Report) :
    (PatchRun.applyBracketed d r s).answer = (apply d r (openRun s).2).answer
      ∧ (PatchRun.applyBracketed d r s).store =
        match (apply d r (openRun s).2).answer with
        | .ok _ => .ofTables (apply d r (openRun s).2).store.tables .none
        | .error _ => s := by
  have hopen : openRun s = (.ok (), ⟨{ s.database with transaction := some ⟨s.database.tables, none⟩ }, true⟩) := by
    simp only [openRun, hidle.inRun, Database.openTransaction, hidle.transaction]
    rfl
  -- no write leaves the transaction with something to hold against it
  have hinside : (apply d r (openRun s).2).store.inRun = true
      ∧ (apply d r (openRun s).2).store.database.rules = .none
      ∧ (apply d r (openRun s).2).store.database.transaction = some ⟨s.tables, none⟩ := by
    refine apply_invariant (I := fun s' : TableStore => s'.inRun = true ∧ s'.database.rules = .none
      ∧ s'.database.transaction = some ⟨s.tables, none⟩) (fun _ _ hs => hs) (fun e s' hs => ?_) d r ?_
    · rw [perform_unruled hs.2.1]
      split
      · exact hs
      · exact hs
    · rw [hopen]
      exact ⟨rfl, hrules, rfl⟩
  have hwithin : Within s (apply d r (openRun s).2).store :=
    ⟨hinside.1, hinside.2.1.trans hrules.symm, _, hinside.2.2, rfl⟩
  have hbegin : ConfigStore.beginRun s = (.ok (), (openRun s).2) := by
    rw [hopen]
    exact hopen
  have hend : ∀ commit, ConfigStore.endRun commit (apply d r (openRun s).2).store
      = if commit then commitRun (apply d r (openRun s).2).store else abandonRun (apply d r (openRun s).2).store :=
    fun commit => closeRun_of_within hwithin commit
  rw [PatchRun.applyBracketed, hbegin]
  cases hanswer : (apply d r (openRun s).2).answer with
  | ok result =>
      have hcommit : commitRun (apply d r (openRun s).2).store
          = (.ok (), .ofTables (apply d r (openRun s).2).store.tables .none) := by
        simp only [commitRun, Database.commit, hinside.2.2]
        rw [← hinside.2.1]
        rfl
      simp only [hanswer, hend, if_true, hcommit, and_self]
  | error stop =>
      simp only [hanswer, hend, Bool.false_eq_true, if_false, abandonRun_of_within hidle hwithin, and_self]

/-! ## Stores that mirror each other -/

/-- A store over a database has the contents of a store in memory, and at these places the same locks. -/
structure Mirrors (places : List Slot) (m : MemoryStore) (s : TableStore) : Prop where
  rules : s.database.rules = .none
  shows : s.tables.Shows m.contents
  locks : ∀ p ∈ places, s.lockedAt p = true ↔ p.name ∈ m.locked

theorem planPatch_store (ctx : Context) (text : String) (s : TableStore) : (planPatch ctx text s).store = s := by
  rw [GuardedPatch.planPatch_store]
  cases hload : load text with
  | error e => exact (validatedRun_of_load_error ctx hload).2
  | ok d => rw [validatedRun_store ctx hload, validate_store]

namespace Mirrors

variable {places : List Slot} {m : MemoryStore} {s : TableStore}

theorem of_tables (h : Mirrors places m s) {s' : TableStore} (hrules : s'.database.rules = .none)
    (htables : s'.tables = s.tables) : Mirrors places m s' := by
  refine ⟨hrules, htables ▸ h.shows, fun p hp => ?_⟩
  rw [lockedAt_eq, htables, ← lockedAt_eq]
  exact h.locks p hp

/-- **A write at one of the places is answered alike**, and keeps the stores alike. -/
theorem edit {e : Edit} (he : e.slot ∈ places) : CallsAlike (Mirrors places) e.perform e.perform := by
  intro m s h
  rw [MemoryStore.perform_edit, perform_unruled h.rules]
  by_cases hlocked : s.lockedAt e.slot = true
  · rw [if_pos ((h.locks _ he).1 hlocked), if_pos hlocked]
    exact ⟨rfl, h⟩
  · rw [if_neg (mt (h.locks _ he).2 hlocked), if_neg hlocked]
    refine ⟨rfl, h.rules, h.shows.write e, fun p hp => ?_⟩
    rw [lockedAt_eq, Bool.not_eq_true] at hlocked
    rw [lockedAt_eq]
    show (s.tables.write e.toWrite).lockedAt p = true ↔ p.name ∈ m.locked
    rw [Tables.lockedAt_write hlocked, ← lockedAt_eq]
    exact h.locks p hp

/-- Reading does not tell the stores apart, but for the order of a listing. -/
theorem readAlike (places : List Slot) : ReadAlike (Mirrors places) where
  get key m s h := by
    refine ⟨?_, h⟩
    show Except.ok (m.params.get? key) = .ok ((s.paramRow? key).map (·.value))
    exact congrArg Except.ok (h.shows.params key).symm
  list m s h := by
    refine ⟨?_, h⟩
    obtain ⟨rs, hrs, hperm⟩ := h.shows.listing
    show LandAlike (.ok m.features) (readRecords (listed s.tables.features))
    rw [hrs]
    exact h.shows.distinctIds.target?_perm hperm

/-- Both stores list the same parameters. -/
theorem params_eq (h : Mirrors places m s) : s.params = m.params := by
  refine TextMap.ext_get? fun key => ?_
  rw [get?_params h.shows.keyed.params]
  exact h.shows.params key

/-! ## Runs -/

/-- The steps of a validated document are answered alike if its places are among those of the stores. -/
theorem steps_writesAlike {d : Document} (hplaces : ∀ p ∈ d.places, p ∈ places) (m : MemoryStore) :
    ∀ step ∈ d.stepsIn m.params m.features, step.WritesAlike (Mirrors places) := by
  intro step hstep
  have hplace := hplaces _ (d.slot_mem_places m.params m.features step hstep)
  refine ⟨fun e he => edit ?_, fun u hu => edit ?_⟩
  · rw [Step.slot_of_edit? he]
    exact hplace
  · cases hedit : step.edit? with
    | none =>
        rw [Step.undo?_of_edit?_none hedit] at hu
        cases hu
    | some e =>
        obtain ⟨u', hu', hslot, -⟩ := Step.undo_of_edit? hedit (d.stepsIn_fit m.contents step hstep)
        obtain rfl : u = u' := Option.some.inj (hu.symm.trans hu')
        rw [hslot]
        exact hplace

/-- **A unit of work ends alike on both stores**, and leaves them alike: with what was written, or as they were. -/
theorem applyBracketed (h : Mirrors places m s) (hidle : s.Idle) {d : Document} (hd : d.Valid)
    (hplaces : ∀ p ∈ d.places, p ∈ places) {r : Report} (hreport : (validate d m).answer = .ok r) :
    (PatchRun.applyBracketed d r m).answer = (PatchRun.applyBracketed d r s).answer
      ∧ Mirrors places (PatchRun.applyBracketed d r m).store (PatchRun.applyBracketed d r s).store
      ∧ (PatchRun.applyBracketed d r s).store.Idle := by
  obtain ⟨-, hwithin, htables⟩ := openRun_of_idle hidle
  have hopened : Mirrors places m (openRun s).2 := h.of_tables (hwithin.rules.trans h.rules) htables
  have hagenda := agenda_of_validated m.reads h.shows.distinctIds hreport
  have hsteps : (Agenda.ofReport d r).steps = d.stepsIn m.params m.features := by
    rw [← (Agenda.of?_eq_ok_iff.1 hagenda).2.2]
  obtain ⟨hanswer, -, hafter⟩ :=
    apply_alike (readAlike places) (hsteps ▸ steps_writesAlike hplaces m) hopened
  obtain ⟨htableAnswer, htableStore⟩ := applyBracketed_unruled hidle h.rules d r
  obtain ⟨hmemoryAnswer, hmemoryStore⟩ := MemoryStore.applyBracketed_eq d r m
  rw [htableAnswer, htableStore, hmemoryAnswer, hmemoryStore]
  refine ⟨hanswer, ?_⟩
  rw [← hanswer]
  cases happly : (apply d r m).answer with
  | ok result =>
      exact ⟨hafter.of_tables rfl rfl, rfl, rfl⟩
  | error e =>
      -- the store in memory has undone its writes one by one
      have hback : (apply d r m).store = m :=
        MemoryStore.store_of_apply_error h.shows.distinctIds hd hreport happly
      rw [hback]
      exact ⟨h, hidle⟩

/-- **Applying a text ends alike on both stores**, and leaves them alike. -/
theorem applyPatch (h : Mirrors places m s) (hidle : s.Idle) (ctx : Context) {text : String}
    (hplaces : ∀ d, load text = .ok d → ∀ p ∈ d.places, p ∈ places) :
    (GuardedPatch.applyPatch ctx text m).answer = (GuardedPatch.applyPatch ctx text s).answer
      ∧ Mirrors places (GuardedPatch.applyPatch ctx text m).store (GuardedPatch.applyPatch ctx text s).store
      ∧ (GuardedPatch.applyPatch ctx text s).store.Idle := by
  cases hload : load text with
  | error e =>
      obtain ⟨herror, -, hafter⟩ := commands_of_load_error ctx (s := m) hload
      obtain ⟨herror', -, hafter'⟩ := commands_of_load_error ctx (s := s) hload
      rw [herror, herror', hafter, hafter']
      exact ⟨rfl, h, hidle⟩
  | ok d =>
      have hmemory : (GuardedPatch.validate d m).store = m := m.reads.validate_store d
      have hreports := ((readAlike places).validate d h).answer
      cases hreport : (GuardedPatch.validate d m).answer with
      | error e =>
          obtain ⟨herror, -, hafter⟩ := commands_of_validate_error ctx hload hreport
          obtain ⟨herror', -, hafter'⟩ := commands_of_validate_error ctx hload (hreports.symm.trans hreport)
          rw [herror, herror', hafter, hafter', hmemory, validate_store]
          exact ⟨rfl, h, hidle⟩
      | ok report =>
          obtain ⟨hanswer, hstore⟩ := applyPatch_of_validated ctx hload hreport
          obtain ⟨hanswer', hstore'⟩ := applyPatch_of_validated ctx hload (hreports.symm.trans hreport)
          obtain ⟨hsame, hafter⟩ := h.applyBracketed hidle (load_valid hload) (hplaces d hload) hreport
          rw [hanswer, hanswer', hstore, hstore', hmemory, validate_store, hsame]
          exact ⟨rfl, hafter⟩

/-- **Applying a text keeps the rows in order**, if there are positions left for all features of its document. -/
theorem inOrder_applyPatch (h : Mirrors places m s) (hidle : s.Idle) (ctx : Context) {text : String} {n : Nat}
    (horder : InOrder n s.tables.features) (hroom : ((n + featureCount text : Nat) : Int) ≤ positionLimit) :
    InOrder (n + featureCount text) (GuardedPatch.applyPatch ctx text s).store.tables.features := by
  rcases overDatabase.applyPatch_cases hidle ctx text with
    ⟨d, report, o, hload, hreport, -, ⟨result, happly⟩, -, htables⟩ | ⟨e, -, hsame⟩
  · have hreports := ((readAlike places).validate d h).answer
    have hagenda := agenda_of_validated m.reads h.shows.distinctIds (hreports.trans hreport)
    have hopened : (openRun s).2.tables = s.tables := (openRun_of_idle hidle).2.2
    have hcount : (d.written m.features).length ≤ featureCount text := by
      rw [featureCount_of_load hload, Document.written, List.length_map]
      exact List.length_filter_le _ _
    have hputs := horder.puts (d.written m.features) (by omega)
    rw [htables, tables_of_steps hagenda happly, hopened]
    exact hputs.mono (by omega)
  · rw [hsame]
    exact horder.mono (by omega)

end Mirrors

end TableStore

/-! ## Uses -/

/-- A use of a store by its callers. -/
inductive Use
  | get (key : String)
  | set (key value : String)
  | listParams
  | listFeatures
  | upsertFeature (r : FeatureRecord)
  | removeFeature (id : String)
  | plan (ctx : Context) (text : String)
  | apply (ctx : Context) (text : String)

/-- An answer to a use. -/
inductive Answer
  | value (answer : Except StoreError (Option String))
  | done (answer : Except StoreError Unit)
  | params (answer : Except StoreError (List (String × String)))
  | features (answer : Except StoreError (List FeatureRecord))
  | outcome (answer : Except PatchError RunOutcome)
deriving DecidableEq

/-- Two answers are the same, but for the order of the records that are listed. -/
inductive Answer.Same : Answer → Answer → Prop
  | refl (a : Answer) : Same a a
  | listed {rs rs' : List FeatureRecord} : rs.Perm rs' → Same (.features (.ok rs)) (.features (.ok rs'))

theorem Answer.Same.of_eq {a b : Answer} (h : a = b) : a.Same b :=
  h ▸ .refl a

namespace Use

/-- Uses a store. -/
def run {σ : Type} [ConfigStore σ] (s : σ) : Use → Answer × σ
  | .get key => (ConfigStore.get key s).map .value id
  | .set key value => (ConfigStore.set key value s).map .done id
  | .listParams => (ConfigStore.listParams s).map .params id
  | .listFeatures => (ConfigStore.listFeatures s).map .features id
  | .upsertFeature r => (ConfigStore.upsertFeature r s).map .done id
  | .removeFeature key => (ConfigStore.removeFeature key s).map .done id
  | .plan ctx text => (.outcome (planPatch ctx text s).answer, (planPatch ctx text s).store)
  | .apply ctx text => (.outcome (applyPatch ctx text s).answer, (applyPatch ctx text s).store)

/-- The places that a use may write to. -/
def places : Use → List Slot
  | .set key _ => [.param key]
  | .upsertFeature r => [.feature r.id]
  | .removeFeature id => [.feature id]
  | .apply _ text =>
    match load text with
    | .ok d => d.places
    | .error _ => []
  | _ => []

/-- The number of records that a use may add. -/
def additions : Use → Nat
  | .upsertFeature _ => 1
  | .apply _ text => featureCount text
  | _ => 0

theorem run_plan {σ : Type} [ConfigStore σ] (ctx : Context) (text : String) (s : σ) :
    (Use.plan ctx text).run s = (.outcome (planPatch ctx text s).answer, (planPatch ctx text s).store) := by
  rw [run]

theorem run_apply {σ : Type} [ConfigStore σ] (ctx : Context) (text : String) (s : σ) :
    (Use.apply ctx text).run s = (.outcome (applyPatch ctx text s).answer, (applyPatch ctx text s).store) := by
  rw [run]

theorem places_apply {ctx : Context} {text : String} {d : Document} (h : load text = .ok d) :
    (Use.apply ctx text).places = d.places := by
  show (match load text with | .ok d => d.places | .error _ => []) = d.places
  rw [h]

end Use

/-- The answers to uses, one after the other. -/
def answers {σ : Type} [ConfigStore σ] (s : σ) : List Use → List Answer
  | [] => []
  | use :: rest => (use.run s).1 :: answers (use.run s).2 rest

namespace TableStore.Mirrors

variable {places : List Slot} {m : MemoryStore} {s : TableStore}

/-- The parameters and the features are listed alike, the features in the same order if their rows are in order. -/
theorem listing (h : Mirrors places m s) :
    Answer.Same (.features (.ok m.features)) (.features s.features)
      ∧ ∀ n, InOrder n s.tables.features → s.features = .ok m.features := by
  obtain ⟨rs, hrs, hperm⟩ := h.shows.listing
  replace hrs : s.features = .ok rs := hrs
  refine ⟨hrs ▸ .listed hperm, fun n horder => ?_⟩
  rw [features, horder.listed_eq]
  exact readRecords_eq_ok_iff.2 h.shows.features

/-- A write at one of the places is answered alike, and leaves the stores alike. -/
theorem use_edit (h : Mirrors places m s) (hidle : s.Idle) {e : Edit} (he : e.slot ∈ places) :
    (e.perform m).1 = (e.perform s).1 ∧ Mirrors places (e.perform m).2 (e.perform s).2 ∧ (e.perform s).2.Idle := by
  obtain ⟨hanswer, hafter⟩ := edit he m s h
  refine ⟨hanswer, hafter, ?_⟩
  rw [perform_unruled h.rules]
  split
  · exact hidle
  · exact ⟨hidle.inRun, hidle.transaction⟩

/-- A use is answered in the same way on both stores, unless it lists the features, and leaves them alike. -/
theorem use (h : Mirrors places m s) (hidle : s.Idle) {use : Use} (hplaces : ∀ p ∈ use.places, p ∈ places) :
    ((use.run m).1 = (use.run s).1 ∨ use = .listFeatures) ∧ Mirrors places (use.run m).2 (use.run s).2
      ∧ (use.run s).2.Idle := by
  cases use with
  | get key => exact ⟨.inl (congrArg Answer.value ((readAlike places).get key m s h).1), h, hidle⟩
  | listParams =>
      have hparams : m.params.entries = s.params.entries := by rw [h.params_eq]
      exact ⟨.inl (congrArg (fun entries => Answer.params (.ok entries)) hparams), h, hidle⟩
  | listFeatures => exact ⟨.inr rfl, h, hidle⟩
  | set key value =>
      obtain ⟨hanswer, hafter⟩ := h.use_edit hidle (e := .setParam key value) (hplaces _ List.mem_cons_self)
      exact ⟨.inl (congrArg Answer.done hanswer), hafter⟩
  | upsertFeature r =>
      obtain ⟨hanswer, hafter⟩ := h.use_edit hidle (e := .putRecord r) (hplaces _ List.mem_cons_self)
      exact ⟨.inl (congrArg Answer.done hanswer), hafter⟩
  | removeFeature id =>
      obtain ⟨hanswer, hafter⟩ := h.use_edit hidle (e := .dropRecord id) (hplaces _ List.mem_cons_self)
      exact ⟨.inl (congrArg Answer.done hanswer), hafter⟩
  | plan ctx text =>
      obtain ⟨hanswer, -, hafter⟩ := (readAlike places).planPatch ctx text h
      rw [Use.run_plan, Use.run_plan, hanswer]
      rw [TableStore.planPatch_store] at hafter ⊢
      exact ⟨.inl rfl, hafter, hidle⟩
  | apply ctx text =>
      obtain ⟨hanswer, hafter⟩ := h.applyPatch hidle ctx fun d hload p hp =>
        hplaces p (by rw [Use.places_apply hload]; exact hp)
      rw [Use.run_apply, Use.run_apply, hanswer]
      exact ⟨.inl rfl, hafter⟩

/-- A use keeps the rows in order, if there are positions left for what it may add. -/
theorem inOrder_use (h : Mirrors places m s) (hidle : s.Idle) {n : Nat} (horder : InOrder n s.tables.features)
    {use : Use} (hroom : ((n + use.additions : Nat) : Int) ≤ positionLimit) :
    InOrder (n + use.additions) (use.run s).2.tables.features := by
  -- a write is made on the rows or not at all
  have hwrite : ∀ (e : Edit) (k : Nat), InOrder (n + k) (s.tables.write e.toWrite).features →
      InOrder (n + k) (e.perform s).2.tables.features := by
    intro e k hwritten
    rw [perform_unruled h.rules]
    split
    · exact horder.mono (by omega)
    · exact hwritten
  cases use with
  | get key => exact horder
  | listParams => exact horder
  | listFeatures => exact horder
  | set key value => exact hwrite (.setParam key value) 0 horder
  | upsertFeature r => exact hwrite (.putRecord r) 1 (horder.put (by simp only [Use.additions] at hroom; omega) r)
  | removeFeature id => exact hwrite (.dropRecord id) 0 (horder.sublist List.filter_sublist)
  | plan ctx text =>
      rw [Use.run_plan, TableStore.planPatch_store]
      exact horder
  | apply ctx text =>
      rw [Use.run_apply]
      exact h.inOrder_applyPatch hidle ctx horder hroom

/-- **Uses are answered alike on both stores**, one after the other. -/
theorem answers (h : Mirrors places m s) (hidle : s.Idle) {uses : List Use}
    (hplaces : ∀ p ∈ uses.flatMap Use.places, p ∈ places) :
    List.Forall₂ Answer.Same (GuardedPatch.answers m uses) (GuardedPatch.answers s uses)
      ∧ ∀ n, InOrder n s.tables.features → ((n + (uses.map Use.additions).sum : Nat) : Int) ≤ positionLimit →
        GuardedPatch.answers m uses = GuardedPatch.answers s uses := by
  induction uses generalizing m s with
  | nil => exact ⟨.nil, fun _ _ _ => rfl⟩
  | cons use rest ih =>
      rw [List.flatMap_cons, List.forall_mem_append] at hplaces
      obtain ⟨hanswer, hafter, hidle'⟩ := h.use hidle hplaces.1
      obtain ⟨hsame, hequal⟩ := ih hafter hidle' hplaces.2
      rw [GuardedPatch.answers, GuardedPatch.answers]
      refine ⟨.cons ?_ hsame, fun n horder hroom => ?_⟩
      · rcases hanswer with hanswer | rfl
        · exact .of_eq hanswer
        · exact h.listing.1
      · rw [List.map_cons, List.sum_cons] at hroom
        have hfirst : (use.run m).1 = (use.run s).1 := by
          rcases hanswer with hanswer | rfl
          · exact hanswer
          · exact (congrArg Answer.features (h.listing.2 n horder)).symm
        rw [hfirst, hequal (n + use.additions) (h.inOrder_use hidle horder (by omega)) (by omega)]

end TableStore.Mirrors

/-! ## Filling -/

/-- What both kinds of stores are filled with. -/
structure Filling where
  params : List (String × String)
  features : List FeatureRecord
  locked : List String

namespace Filling

/-- The writes of a filling. -/
def edits (f : Filling) : List Edit :=
  f.params.map (fun p => .setParam p.1 p.2) ++ f.features.map .putRecord

/-- The places of what is filled in. -/
def places (f : Filling) : List Slot :=
  f.edits.map Edit.slot

/-- A store in memory that was filled. -/
def memory (f : Filling) : MemoryStore :=
  f.locked.foldl MemoryStore.lock (f.features.foldl MemoryStore.insertFeature (.ofParams f.params))

/-- A store over a database that was filled by its owner. -/
def table (f : Filling) : TableStore :=
  let withParams := f.params.foldl (fun s p => (s.putParam p.1 p.2).2) (.ofTables .empty .none)
  let withFeatures := f.features.foldl (fun s r => (s.putFeature r).2) withParams
  f.locked.foldl (fun s key => (s.setLocked key true).2) withFeatures

/-! ### What is in the stores -/

theorem memory_eq (f : Filling) :
    f.memory.contents = f.edits.foldl Edit.run ⟨.empty, []⟩ ∧ ∀ key, key ∈ f.memory.locked ↔ key ∈ f.locked := by
  have hlocked : ∀ (keys : List String) (m : MemoryStore),
      keys.foldl MemoryStore.lock m = { m with locked := keys.reverse ++ m.locked } := by
    intro keys
    induction keys with
    | nil => exact fun _ => rfl
    | cons key rest ih =>
        intro m
        rw [List.foldl_cons, ih, List.reverse_cons, List.append_assoc]
        rfl
  have hinserted : ∀ (rs : List FeatureRecord) (m : MemoryStore),
      rs.foldl MemoryStore.insertFeature m
        = { m with features := rs.foldl (fun rs w => replaceOrAppend w rs) m.features } := by
    intro rs
    induction rs with
    | nil => exact fun _ => rfl
    | cons r rest ih =>
        intro m
        rw [List.foldl_cons, ih]
        rfl
  rw [memory, hlocked, hinserted, edits, List.foldl_append, foldl_run_setParam, foldl_run_putRecord]
  exact ⟨rfl, fun key => by simp [MemoryStore.ofParams]⟩

/-- The tables that are filled in, before anything is locked. -/
def unlockedTables (f : Filling) : Tables :=
  f.edits.foldl (fun t e => t.write e.toWrite) .empty

theorem table_eq (f : Filling) :
    f.table = .ofTables (f.locked.foldl (fun t key => t.setLocked key true) f.unlockedTables) .none := by
  have hparams : f.params.foldl (fun s p => (s.putParam p.1 p.2).2) (.ofTables .empty .none)
      = TableStore.ofTables (f.params.foldl (fun t p => t.write (.putParam p.1 p.2)) .empty) .none :=
    List.foldl_hom (fun t => TableStore.ofTables t .none) fun _ _ => rfl
  have hfeatures : ∀ t : Tables, f.features.foldl (fun s r => (s.putFeature r).2) (.ofTables t .none)
      = TableStore.ofTables (f.features.foldl (fun t r => t.write (.putFeature r)) t) .none := fun t =>
    List.foldl_hom (fun t => TableStore.ofTables t .none) fun _ _ => rfl
  have hlocked : ∀ t : Tables, f.locked.foldl (fun s key => (s.setLocked key true).2) (.ofTables t .none)
      = TableStore.ofTables (f.locked.foldl (fun t key => t.setLocked key true) t) .none := fun t =>
    List.foldl_hom (fun t => TableStore.ofTables t .none) fun _ _ => rfl
  rw [table, hparams, hfeatures, hlocked, unlockedTables, edits, List.foldl_append, List.foldl_map, List.foldl_map]
  rfl

theorem shows_unlockedTables (f : Filling) :
    f.unlockedTables.Shows f.memory.contents ∧ ∀ slot, f.unlockedTables.lockedAt slot = false := by
  rw [f.memory_eq.1, unlockedTables]
  have hempty : ∀ slot, Tables.empty.lockedAt slot = false := by
    intro slot
    cases slot <;> rfl
  have hshows := Tables.Shows.empty
  generalize Tables.empty = t at hempty hshows ⊢
  generalize (⟨TextMap.empty, []⟩ : Contents) = c at hshows ⊢
  generalize f.edits = es
  induction es generalizing t c with
  | nil => exact ⟨hshows, hempty⟩
  | cons e rest ih =>
      have hstill : ∀ slot, (t.write e.toWrite).lockedAt slot = false := by
        intro slot
        rw [Tables.lockedAt_write (hempty _)]
        exact hempty slot
      exact ih _ hstill _ (hshows.write e)

/-- Something was put at each place of a filling. -/
theorem at?_isSome (f : Filling) : ∀ p ∈ f.places, (f.memory.contents.at? p).isSome = true := by
  have hcontent : ∀ e ∈ f.edits, e.content?.isSome = true := by
    intro e he
    rcases List.mem_append.1 he with he | he
    · obtain ⟨p, -, rfl⟩ := List.mem_map.1 he
      rfl
    · obtain ⟨r, -, rfl⟩ := List.mem_map.1 he
      rfl
  -- what is there stays there, as nothing is removed
  have hkept : ∀ (es : List Edit) (c : Contents) (p : Slot), (∀ e ∈ es, e.content?.isSome = true) →
      (p ∈ es.map Edit.slot ∨ (c.at? p).isSome = true) → ((es.foldl Edit.run c).at? p).isSome = true := by
    intro es
    induction es with
    | nil =>
        rintro c p - (hp | hp)
        · cases hp
        · exact hp
    | cons e rest ih =>
        intro c p hes hp
        rw [List.forall_mem_cons] at hes
        refine ih _ p hes.2 ?_
        rw [Edit.at?_run]
        by_cases hslot : e.slot = p
        · rw [if_pos hslot]
          exact .inr hes.1
        · rw [if_neg hslot]
          rw [List.map_cons, List.mem_cons] at hp
          exact hp.imp_left fun hp => hp.resolve_left (Ne.symm hslot)
  intro p hp
  rw [f.memory_eq.1]
  exact hkept f.edits _ p hcontent (.inl hp)

/-- **The two stores mirror each other** at places of unambiguous names, if all names that are locked are in use. -/
theorem mirrors (f : Filling) {places : List Slot} (hlocked : ∀ key ∈ f.locked, ∃ p ∈ f.places, p.name = key)
    (hnames : ∀ p ∈ f.places ++ places, ∀ q ∈ f.places ++ places, p.name = q.name → p = q) :
    TableStore.Mirrors (f.places ++ places) f.memory f.table := by
  have hlocks : ∀ (keys : List String) (t : Tables), t.Shows f.memory.contents →
      (keys.foldl (fun t key => t.setLocked key true) t).Shows f.memory.contents
        ∧ ∀ slot, (keys.foldl (fun t key => t.setLocked key true) t).lockedAt slot
          = (t.lockedAt slot || (decide (slot.name ∈ keys) && (f.memory.contents.at? slot).isSome)) := by
    intro keys
    induction keys with
    | nil => exact fun t ht => ⟨ht, fun slot => by simp⟩
    | cons key rest ih =>
        intro t ht
        obtain ⟨hshows, hlockedAt⟩ := ih _ (ht.setLocked key true)
        refine ⟨hshows, fun slot => ?_⟩
        have hmem : decide (slot.name ∈ key :: rest) = (slot.name == key || decide (slot.name ∈ rest)) := by
          rw [Bool.eq_iff_iff]
          simp
        rw [List.foldl_cons, hlockedAt, ht.lockedAt_setLocked, hmem, Bool.and_or_distrib_right, Bool.or_assoc]
  obtain ⟨hshows, hunlocked⟩ := f.shows_unlockedTables
  obtain ⟨hshows, hlockedAt⟩ := hlocks f.locked _ hshows
  rw [f.table_eq]
  refine ⟨rfl, hshows, fun p hp => ?_⟩
  rw [TableStore.lockedAt_eq]
  show (f.locked.foldl (fun t key => t.setLocked key true) f.unlockedTables).lockedAt p = true
    ↔ p.name ∈ f.memory.locked
  rw [hlockedAt, hunlocked, f.memory_eq.2, Bool.false_or, Bool.and_eq_true, decide_eq_true_eq, and_iff_left_iff_imp]
  intro hname
  -- the name is that of something that was filled in, which is at no other place
  obtain ⟨q, hq, hsame⟩ := hlocked p.name hname
  obtain rfl := hnames p hp q (List.mem_append_left _ hq) hsame.symm
  exact f.at?_isSome p hq

/-- Rows are filled in in order. -/
theorem inOrder_table (f : Filling) (hroom : ((f.features.length : Nat) : Int) ≤ positionLimit) :
    InOrder f.features.length f.table.tables.features := by
  have hlocked : ∀ (keys : List String) (t : Tables),
      (keys.foldl (fun t key => t.setLocked key true) t).features.map (·.position)
        = t.features.map (·.position) := by
    intro keys
    induction keys with
    | nil => exact fun _ => rfl
    | cons key rest ih =>
        intro t
        rw [List.foldl_cons, ih]
        exact map_updated (fun r : FeatureRow => { r with locked := true }) (fun _ _ => rfl) t.features
  have hputs : InOrder f.features.length f.unlockedTables.features := by
    have hnil : InOrder 0 [] := ⟨List.Pairwise.nil, by simp⟩
    have hall := hnil.puts f.features (by omega)
    rw [Nat.zero_add] at hall
    rw [unlockedTables, edits, List.foldl_append, foldl_write_setParam, foldl_write_putRecord]
    exact hall
  rw [f.table_eq]
  exact ⟨(hlocked _ _).symm ▸ hputs.increasing, (hlocked _ _).symm ▸ hputs.below⟩

end Filling

/-! ## Observations -/

/-- **A store in memory and a store over a database cannot be told apart.** Filled with the same parameters, features and
    locks, they give the same answers to the same uses, refusals, failing runs and undone writes included; the only
    things that are asked are that what is locked is there and that no name is used both for a parameter and for a
    feature. Answers are equal as long as there are 64-bit numbers for the positions of all features that are ever
    added, and beyond that they are equal but for the order in which records are listed. -/
theorem answers_of_either_store (f : Filling) (uses : List Use)
    (hlocked : ∀ key ∈ f.locked, ∃ p ∈ f.places, p.name = key)
    (hnames : ∀ p ∈ f.places ++ uses.flatMap Use.places, ∀ q ∈ f.places ++ uses.flatMap Use.places,
      p.name = q.name → p = q) :
    List.Forall₂ Answer.Same (answers f.memory uses) (answers f.table uses)
      ∧ (f.features.length + (uses.map Use.additions).sum ≤ 2 ^ 63 →
        answers f.memory uses = answers f.table uses) := by
  have hmirrors := f.mirrors hlocked hnames
  have hidle : f.table.Idle := by
    rw [f.table_eq]
    exact ⟨rfl, rfl⟩
  obtain ⟨hsame, hequal⟩ := hmirrors.answers hidle fun p hp => List.mem_append_right _ hp
  have hlimit : positionLimit = ((2 ^ 63 : Nat) : Int) := rfl
  refine ⟨hsame, fun hroom => hequal _ (f.inOrder_table (by omega)) (by omega)⟩

/-- A lock stops a run that has written before, and a record that is removed and put in again comes last. -/
theorem answers_of_either_store_locked :
    let f : Filling := ⟨[("a", "x"), ("b", "x")], [⟨"f", "t", .empty⟩, ⟨"g", "t", .empty⟩], ["b"]⟩
    let ctx : Context := ⟨"run", none⟩
    let one := "schema_version: 0\nparams:\n  - key: a\n    expect: x\n    update: y\n"
    let both := one ++ "  - key: b\n    expect: x\n    update: y\n"
    let uses : List Use :=
      [.set "b" "z", .apply ctx both, .get "a", .removeFeature "f", .upsertFeature ⟨"f", "u", .empty⟩, .listFeatures,
        .plan ctx one, .apply ctx one, .listParams]
    let locked : PatchError := .applyAborted "b" (lockedError "b").message ⟨[⟨"a", "x", "y"⟩], [], [], none⟩ true
    (answers f.memory uses)[1]? = some (.outcome (.error locked)) ∧ answers f.memory uses = answers f.table uses := by
  intro f ctx one both uses locked
  have hlocked : ∀ key ∈ f.locked, ∃ p ∈ f.places, p.name = key := by decide
  have hnames : ∀ p ∈ f.places ++ uses.flatMap Use.places, ∀ q ∈ f.places ++ uses.flatMap Use.places,
      p.name = q.name → p = q := by decide +kernel
  have hroom : f.features.length + (uses.map Use.additions).sum ≤ 2 ^ 63 := by decide +kernel
  exact ⟨by decide +kernel, (answers_of_either_store f uses hlocked hnames).2 hroom⟩

end GuardedPatch
