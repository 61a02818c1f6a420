import GuardedPatch.Proofs.Run.Interchange
import GuardedPatch.Proofs.Run.Secrets

set_option autoImplicit false

/-! # Locks hold

A store over a database asks for the lock of a row before it writes there. So every write of a run that goes through
leaves the locked rows as they are, and makes no other ones (`Tables.SameLocked.write`). This goes for the undos of a
run that is stopped as well, since they are writes as all others are; and when a transaction is rolled back, the tables
that it brings back have the same locked rows, because they are a state of the same database (`Database.Keeps`). So
whatever the callers of a store do, its locked rows stay what they are, and no others are locked (`locks_hold`).

The owner of a store writes past the locks, and does not change them either. -/

namespace GuardedPatch

/-! ## Locked rows -/

/-- Tables have the locked rows that other ones had, and distinct keys and ids. -/
structure Tables.SameLocked (start t : Tables) : Prop where
  keyed : t.Keyed
  params : t.params.filter (·.locked) = start.params.filter (·.locked)
  features : t.features.filter (·.locked) = start.features.filter (·.locked)

/-- Whether a place is locked can be told from the locked rows. -/
theorem Tables.Keyed.lockedAt_eq {t : Tables} (h : t.Keyed) (slot : Slot) :
    t.lockedAt slot =
      match slot with
      | .param key => (t.params.filter (·.locked)).any (·.key == key)
      | .feature id => (t.features.filter (·.locked)).any (·.id == id) := by
  cases slot with
  | param key => exact any_find?_eq h.params key
  | feature id => exact any_find?_eq h.features id

namespace Tables.SameLocked

variable {start t : Tables}

theorem refl (h : t.Keyed) : t.SameLocked t := ⟨h, rfl, rfl⟩

theorem lockedAt (hstart : start.Keyed) (h : start.SameLocked t) (slot : Slot) :
    t.lockedAt slot = start.lockedAt slot := by
  rw [h.keyed.lockedAt_eq, hstart.lockedAt_eq, h.params, h.features]

/-- No locked row is at a place that is not locked. -/
theorem key_ne (h : start.SameLocked t) {key : String} (hunlocked : t.lockedAt (.param key) = false) :
    ∀ row ∈ t.params, row.locked = true → row.key ≠ key := by
  intro row hrow hlocked hkey
  rw [h.keyed.lockedAt_eq, List.any_eq_false] at hunlocked
  exact hunlocked row (List.mem_filter.2 ⟨hrow, hlocked⟩) (beq_iff_eq.2 hkey)

theorem id_ne (h : start.SameLocked t) {id : String} (hunlocked : t.lockedAt (.feature id) = false) :
    ∀ row ∈ t.features, row.locked = true → row.id ≠ id := by
  intro row hrow hlocked hid
  rw [h.keyed.lockedAt_eq, List.any_eq_false] at hunlocked
  exact hunlocked row (List.mem_filter.2 ⟨hrow, hlocked⟩) (beq_iff_eq.2 hid)

/-- **A write to a place that is not locked leaves the locked rows alone.** -/
theorem write (h : start.SameLocked t) {e : Edit} (hunlocked : t.lockedAt e.slot = false) :
    start.SameLocked (t.write e.toWrite) := by
  refine ⟨h.keyed.write _, ?_, ?_⟩
  · refine Eq.trans ?_ h.params
    cases e with
    | setParam key value =>
        show (putParamRow key value t.params).filter (·.locked) = t.params.filter (·.locked)
        rw [putParamRow_eq]
        exact filter_putKeyed (h.key_ne hunlocked) (fun _ => rfl) rfl
    | putRecord r => rfl
    | dropRecord id => rfl
  · refine Eq.trans ?_ h.features
    cases e with
    | setParam key value => rfl
    | putRecord r =>
        show (putFeatureRow r t.features).filter (·.locked) = t.features.filter (·.locked)
        rw [putFeatureRow_eq]
        exact filter_putKeyed (h.id_ne hunlocked) (fun _ => rfl) rfl
    | dropRecord id =>
        show (t.features.filter (·.id != id)).filter (·.locked) = t.features.filter (·.locked)
        rw [List.filter_filter]
        refine List.filter_congr fun row hrow => ?_
        cases hlocked : row.locked with
        | false => rw [Bool.false_and]
        | true => rw [Bool.true_and, bne_iff_ne.2 (h.id_ne hunlocked row hrow hlocked)]

end Tables.SameLocked

/-! ## Operations -/

/-- An operation on a store: a use by its callers, or the opening or closing of a unit of work. -/
inductive Operation
  | use (u : Use)
  | beginRun
  | endRun (commit : Bool)

/-- The store after an operation, whatever its answer. -/
def Operation.run {σ : Type} [ConfigStore σ] (s : σ) : Operation → σ
  | .use u => (u.run s).2
  | .beginRun => (ConfigStore.beginRun s).2
  | .endRun commit => (ConfigStore.endRun commit s).2

section AnyStore

variable {σ : Type} [ConfigStore σ] {I : σ → Prop}

/-- **What the calls of a run keep, every operation keeps.** -/
theorem CallInvariant.operation (h : CallInvariant (fun _ => True) I)
    (hparams : ∀ s, I s → I (ConfigStore.listParams s).2) (op : Operation) {s : σ} (hs : I s) : I (op.run s) := by
  have hany : ∀ e : Edit, e.Puts fun _ => True := fun _ _ _ => trivial
  cases op with
  | use u =>
      cases u with
      | get key => exact h.get key s hs
      | set key value => exact h.edit (.setParam key value) (hany _) s hs
      | listParams => exact hparams s hs
      | listFeatures => exact h.list s hs
      | upsertFeature r => exact h.edit (.putRecord r) (hany _) s hs
      | removeFeature id => exact h.edit (.dropRecord id) (hany _) s hs
      | plan ctx text => exact h.planPatch ctx text hs
      | apply ctx text =>
          refine h.applyPatch_of_steps ctx text hs fun d report _ _ step _ => ?_
          cases step with
          | setParam c => trivial
          | putFeature record previous outcome => exact ⟨trivial, fun _ _ => trivial⟩
  | beginRun => exact h.beginRun s hs
  | endRun commit => exact h.endRun commit s hs

theorem CallInvariant.operations (h : CallInvariant (fun _ => True) I)
    (hparams : ∀ s, I s → I (ConfigStore.listParams s).2) (ops : List Operation) {s : σ} (hs : I s) :
    I (ops.foldl Operation.run s) := by
  induction ops generalizing s with
  | nil => exact hs
  | cons op rest ih => exact ih (h.operation hparams op hs)

end AnyStore

namespace TableStore

/-- All states of a database go on having the same locked rows. -/
theorem callInvariant_sameLocked (start : Tables) :
    CallInvariant (fun _ => True) fun s : TableStore => ∀ t, s.database.Keeps t → start.SameLocked t where
  get _ _ hs := hs
  list _ hs := hs
  listed _ _ _ _ _ _ := trivial
  edit e _ s hs t ht := by
    obtain hold | ⟨hunlocked, rfl⟩ := keeps_edit ht
    · exact hs t hold
    · exact (hs s.tables s.database.keeps_tables).write (s.lockedAt_eq e.slot ▸ hunlocked)
  beginRun _ hs t ht := hs t (keeps_openRun ht)
  endRun _ _ hs t ht := hs t (keeps_closeRun ht)

theorem Idle.eq_of_keeps {s : TableStore} (h : s.Idle) {t : Tables} (ht : s.database.Keeps t) : t = s.tables := by
  obtain rfl | ⟨transaction, hopen, -⟩ := ht
  · rfl
  · rw [h.transaction] at hopen
    cases hopen

/-! ## The owner's writes -/

/-- What a write of the owner comes to. It goes through unless a rule of the database is against it, and then nothing
    happens. -/
structure OwnerWrite (s : TableStore) (w : Write) (out : Except PatchError Unit × TableStore) : Prop where
  accepted : s.database.rules.judge w = .accepted → out.1 = .ok ()
  made : out.1 = .ok () → out.2.tables = s.tables.write w
  refused : out.1 ≠ .ok () → out.2 = s

theorem ownerWrite (s : TableStore) (w : Write) :
    s.OwnerWrite w ((s.execute w).1.mapError ownerError, (s.execute w).2) := by
  refine ⟨fun haccepted => ?_, ?_, ?_⟩
  · rw [execute, Database.execute, haccepted]
    rfl
  · intro hok
    obtain ⟨-, htables⟩ | ⟨message, herror⟩ := execute_cases w s
    · exact htables
    · rw [herror] at hok
      cases hok
  · intro hne
    obtain ⟨hok, -⟩ | ⟨message, herror⟩ := execute_cases w s
    · rw [hok] at hne
      exact absurd rfl hne
    · rw [herror]

/-- A write that changes no lock changes none when the owner makes it. -/
theorem OwnerWrite.lockedAt {s : TableStore} {w : Write} {out : Except PatchError Unit × TableStore}
    (h : s.OwnerWrite w out) (hlocks : ∀ slot, (s.tables.write w).lockedAt slot = s.tables.lockedAt slot)
    (slot : Slot) : out.2.lockedAt slot = s.lockedAt slot := by
  by_cases hok : out.1 = .ok ()
  · rw [lockedAt_eq, h.made hok, hlocks, lockedAt_eq]
  · rw [h.refused hok]

/-- **A value that the owner puts in goes to the row of its key**, whose lock stays as it is. -/
theorem putParam_row {s : TableStore} {key value : String} {row : ParamRow} (hrow : s.paramRow? key = some row)
    (hok : (s.putParam key value).1 = .ok ()) :
    (s.putParam key value).2.paramRow? key = some { row with value } := by
  have hmade : (s.putParam key value).2.tables = s.tables.write (.putParam key value) :=
    (s.ownerWrite (.putParam key value)).made hok
  rw [paramRow?] at hrow
  rw [paramRow?, hmade, Tables.write, find?_putParamRow, if_pos rfl, hrow, Option.elim_some]

/-- **A record that the owner puts in goes to the row of its id**, whose position and lock stay as they are. -/
theorem putFeature_row {s : TableStore} {r : FeatureRecord} {row : FeatureRow} (hrow : s.featureRow? r.id = some row)
    (hok : (s.putFeature r).1 = .ok ()) : (s.putFeature r).2.featureRow? r.id = some (row.holding r) := by
  have hmade : (s.putFeature r).2.tables = s.tables.write (.putFeature r) := (s.ownerWrite (.putFeature r)).made hok
  rw [featureRow?] at hrow
  rw [featureRow?, hmade, Tables.write, find?_putFeatureRow, if_pos rfl, hrow, Option.elim_some]

end TableStore

/-! ## The locks of a store -/

/-- **Locks hold.** Whatever the callers of a store over a database do, which may be any number of operations, from no
    open run on, and whatever the rules of the database: the locked rows are afterwards the same as before, and no place
    has another lock than before. The owner's writes go into the row that there is, unless the rules are against them,
    and leave its lock, and all others, as they are. -/
theorem locks_hold {s : TableStore} (hkeyed : s.tables.Keyed) (hidle : s.Idle) (ops : List Operation) :
    let after := ops.foldl Operation.run s
    after.tables.params.filter (·.locked) = s.tables.params.filter (·.locked)
      ∧ after.tables.features.filter (·.locked) = s.tables.features.filter (·.locked)
      ∧ (∀ slot, after.lockedAt slot = s.lockedAt slot)
      ∧ (∀ (s' : TableStore) (key value : String) (row : ParamRow), s'.paramRow? key = some row →
        let put := s'.putParam key value
        s'.OwnerWrite (.putParam key value) put ∧ (∀ slot, put.2.lockedAt slot = s'.lockedAt slot)
          ∧ (put.1 = .ok () → put.2.paramRow? key = some { row with value }))
      ∧ ∀ (s' : TableStore) (r : FeatureRecord) (row : FeatureRow), s'.featureRow? r.id = some row →
        let put := s'.putFeature r
        s'.OwnerWrite (.putFeature r) put ∧ (∀ slot, put.2.lockedAt slot = s'.lockedAt slot)
          ∧ (put.1 = .ok () → put.2.featureRow? r.id = some (row.holding r)) := by
  intro after
  have hstart : ∀ t, s.database.Keeps t → s.tables.SameLocked t := by
    intro t ht
    rw [hidle.eq_of_keeps ht]
    exact .refl hkeyed
  have hall := (TableStore.callInvariant_sameLocked s.tables).operations (fun _ hs => hs) ops hstart
  have hsame : s.tables.SameLocked after.tables := hall _ after.database.keeps_tables
  refine ⟨hsame.params, hsame.features, fun slot => ?_, fun s' key value row hrow => ?_, fun s' r row hrow => ?_⟩
  · rw [after.lockedAt_eq, s.lockedAt_eq]
    exact hsame.lockedAt hkeyed slot
  · have hput : s'.OwnerWrite (.putParam key value) (s'.putParam key value) := s'.ownerWrite _
    exact ⟨hput, hput.lockedAt (s'.tables.lockedAt_putParam key value), TableStore.putParam_row hrow⟩
  · have hput : s'.OwnerWrite (.putFeature r) (s'.putFeature r) := s'.ownerWrite _
    exact ⟨hput, hput.lockedAt (s'.tables.lockedAt_putFeature r), TableStore.putFeature_row hrow⟩

/-- A text that is stopped at a locked parameter, a run that is dropped, in which one locked feature is removed and put
    in again to no avail, and a new feature. -/
theorem locks_hold_against_writes :
    let locked : ParamRow := ⟨"b", "x", true⟩
    let frozen : FeatureRow := ⟨"g", "t", 1, "?", true⟩
    let s : TableStore :=
      .ofTables ⟨[⟨"a", "x", false⟩, locked], [⟨"f", "t", 0, "\x7b\x7d", false⟩, frozen]⟩ .none
    let one := "schema_version: 0\nparams:\n  - key: a\n    expect: x\n    update: y\n"
    let both := one ++ "  - key: b\n    expect: x\n    update: y\n"
    let ops : List Operation :=
      [.use (.apply ⟨"run", none⟩ both), .beginRun, .use (.set "a" "z"), .use (.set "b" "z"), .use (.removeFeature "f"),
        .use (.removeFeature "g"), .use (.upsertFeature ⟨"g", "u", .empty⟩), .endRun false,
        .use (.upsertFeature ⟨"h", "u", .empty⟩), .use (.set "a" "w")]
    let after := ops.foldl Operation.run s
    after.tables.params.filter (·.locked) = [locked] ∧ after.tables.features.filter (·.locked) = [frozen]
      ∧ after.lockedAt (.feature "h") = false ∧ (after.featureRow? "h").isSome := by
  intro locked frozen s one both ops after
  obtain ⟨hparams, hfeatures, hlocks, -⟩ := locks_hold (s := s) ⟨by decide, by decide⟩ ⟨rfl, rfl⟩ ops
  exact ⟨hparams, hfeatures, hlocks (.feature "h"), by decide +kernel⟩

end GuardedPatch
