import GuardedPatch.Proofs.Run.Lockstep
import GuardedPatch.Proofs.SameButSecrets
import GuardedPatch.Proofs.Store.Rows
import GuardedPatch.Proofs.Store.Transaction
import GuardedPatch.Store.Faulty
import Mathlib.Data.Sum.Basic

set_option autoImplicit false

/-! # Stores that are the same but for secrets

Two stores are the same but for secrets if they differ in nothing but the values of secret fields in their records.
A call that puts in the same record but for secrets is answered alike by both of them and keeps them so, and a call that
reads tells them apart by secrets at most (`SecretsUnseen`). This holds for stores in memory, for stores over a
database, for either of them, and behind the same faults.

Over a database, all that matters about the fields of a row is what is read from their text, or how it cannot be read
(`FeatureRow.SameButSecrets`). The rows that an open transaction has saved are the same but for secrets as well, and the
rules of the databases, which may be any others, do not look at secrets (`Rules.JudgeAlike`). -/

namespace GuardedPatch

/-! ## Writes -/

/-- The same write but for the secrets of a record. -/
inductive Edit.SameButSecrets : Edit → Edit → Prop
  | setParam (key value : String) : SameButSecrets (.setParam key value) (.setParam key value)
  | putRecord {r r' : FeatureRecord} : r.SameButSecrets r' → SameButSecrets (.putRecord r) (.putRecord r')
  | dropRecord (id : String) : SameButSecrets (.dropRecord id) (.dropRecord id)

theorem Edit.SameButSecrets.slot_eq {e e' : Edit} (h : e.SameButSecrets e') : e.slot = e'.slot := by
  cases h with
  | setParam key value => rfl
  | putRecord hr => exact congrArg Slot.feature hr.id
  | dropRecord id => rfl

/-- Related stores are told apart by secrets at most, and calls keep them related. -/
structure SecretsUnseen {σ : Type} [ConfigStore σ] (R : σ → σ → Prop) : Prop where
  get_store : ∀ key (s : σ), (ConfigStore.get key s).2 = s
  get : ∀ key s t, R s t → (ConfigStore.get key s).1 = (ConfigStore.get key t).1
  list_store : ∀ s : σ, (ConfigStore.listFeatures s).2 = s
  list : ∀ s t, R s t → AnswersAlike (List.Forall₂ FeatureRecord.SameButSecrets) (ConfigStore.listFeatures s).1
    (ConfigStore.listFeatures t).1
  edit : ∀ {e e' : Edit}, e.SameButSecrets e' → CallsAlike R e.perform e'.perform
  beginRun : CallsAlike R ConfigStore.beginRun ConfigStore.beginRun
  endRun : ∀ commit, CallsAlike R (ConfigStore.endRun commit) (ConfigStore.endRun commit)

/-! ## Stores in memory -/

/-- The same contents but for the secrets in records. -/
structure Contents.SameButSecrets (c c' : Contents) : Prop where
  params : c.params = c'.params
  features : List.Forall₂ FeatureRecord.SameButSecrets c.features c'.features

theorem Contents.SameButSecrets.run {c c' : Contents} (h : c.SameButSecrets c') {e e' : Edit}
    (he : e.SameButSecrets e') : (e.run c).SameButSecrets (e'.run c') := by
  cases he with
  | setParam key value => exact ⟨congrArg (·.insert key value) h.params, h.features⟩
  | @putRecord r r' hr =>
      refine ⟨h.params, ?_⟩
      show List.Forall₂ _ (replaceOrAppend r c.features) (replaceOrAppend r' c'.features)
      rw [replaceOrAppend_eq, replaceOrAppend_eq, ← hr.id]
      exact forall₂_putKeyed (fun _ _ h => h.id) (fun _ _ _ _ => hr) hr h.features
  | dropRecord id =>
      refine ⟨h.params, forall₂_filter h.features fun r r' hr => ?_⟩
      rw [hr.id]

/-- The same store but for the secrets in its records. -/
structure MemoryStore.SameButSecrets (s t : MemoryStore) : Prop where
  contents : s.contents.SameButSecrets t.contents
  locked : s.locked = t.locked

theorem MemoryStore.secretsUnseen : SecretsUnseen MemoryStore.SameButSecrets where
  get_store _ _ := rfl
  get key _ _ h := congrArg (fun m : TextMap => Except.ok (m.get? key)) h.contents.params
  list_store _ := rfl
  list _ _ h := .ok h.contents.features
  edit {e e'} he s t h := by
    rw [perform_edit, perform_edit, ← he.slot_eq, ← h.locked]
    split_ifs
    · exact ⟨rfl, h⟩
    · exact ⟨rfl, h.contents.run he, rfl⟩
  beginRun _ _ h := ⟨rfl, h⟩
  endRun _ _ _ h := ⟨rfl, h⟩

/-! ## Rows -/

/-- The same row but for the secrets that its text holds. -/
structure FeatureRow.SameButSecrets (r r' : FeatureRow) : Prop where
  id : r.id = r'.id
  type : r.type = r'.type
  position : r.position = r'.position
  fields : AnswersAlike TextMap.SameButSecrets (Json.readFields r.fields) (Json.readFields r'.fields)
  locked : r.locked = r'.locked

theorem FeatureRow.SameButSecrets.readRecord {r r' : FeatureRow} (h : r.SameButSecrets r') :
    AnswersAlike FeatureRecord.SameButSecrets (TableStore.readRecord r) (TableStore.readRecord r') := by
  have hfields := h.fields
  rw [TableStore.readRecord, TableStore.readRecord, ← h.id, ← h.type]
  generalize Json.readFields r.fields = a at hfields
  generalize Json.readFields r'.fields = b at hfields
  cases hfields with
  | ok hfields => exact .ok ⟨rfl, rfl, hfields⟩
  | error message => exact .error _

theorem FeatureRecord.SameButSecrets.writeFields {w w' : FeatureRecord} (h : w.SameButSecrets w') :
    AnswersAlike TextMap.SameButSecrets (Json.readFields (Json.writeFields w.fields))
      (Json.readFields (Json.writeFields w'.fields)) := by
  rw [Json.readFields_writeFields, Json.readFields_writeFields]
  exact .ok h.fields

theorem FeatureRecord.SameButSecrets.rowAt {w w' : FeatureRecord} (h : w.SameButSecrets w') (position : Int) :
    (w.rowAt position).SameButSecrets (w'.rowAt position) :=
  ⟨h.id, h.type, rfl, h.writeFields, rfl⟩

section Rows

variable {rows rows' : List FeatureRow} (h : List.Forall₂ FeatureRow.SameButSecrets rows rows')
include h

theorem readRecords_sameButSecrets :
    AnswersAlike (List.Forall₂ FeatureRecord.SameButSecrets) (TableStore.readRecords rows)
      (TableStore.readRecords rows') := by
  induction h with
  | nil => exact .ok .nil
  | @cons r r' rest rest' hr _ ih =>
      have hread := hr.readRecord
      rw [TableStore.readRecords, TableStore.readRecords]
      generalize TableStore.readRecord r = a at hread
      generalize TableStore.readRecord r' = b at hread
      generalize TableStore.readRecords rest = as at ih
      generalize TableStore.readRecords rest' = bs at ih
      cases hread with
      | error e => exact .error e
      | ok hr =>
          cases ih with
          | error e => exact .error e
          | ok hrest => exact .ok (.cons hr hrest)

/-- Such rows stand at the same places of the listing. -/
theorem listed_sameButSecrets : List.Forall₂ FeatureRow.SameButSecrets (listed rows) (listed rows') := by
  have hinsert : ∀ {r r' : FeatureRow} {xs xs' : List FeatureRow}, r.SameButSecrets r' →
      List.Forall₂ FeatureRow.SameButSecrets xs xs' →
      List.Forall₂ FeatureRow.SameButSecrets (insertListed r xs) (insertListed r' xs') := by
    intro r r' xs xs' hr hxs
    induction hxs with
    | nil => exact .cons hr .nil
    | @cons x x' xs xs' hx hxs ih =>
        have hprecedes : x.precedes r = x'.precedes r' := by
          rw [FeatureRow.precedes, FeatureRow.precedes, hx.id, hx.position, hr.id, hr.position]
        rw [insertListed, insertListed, ← hprecedes]
        split_ifs
        · exact .cons hx ih
        · exact .cons hr (.cons hx hxs)
  induction h with
  | nil => exact .nil
  | cons hr _ ih => exact hinsert hr ih

theorem putFeatureRow_sameButSecrets {w w' : FeatureRecord} (hw : w.SameButSecrets w') :
    List.Forall₂ FeatureRow.SameButSecrets (putFeatureRow w rows) (putFeatureRow w' rows') := by
  have hnext : nextPosition rows = nextPosition rows' :=
    nextPosition_congr (map_eq_of_forall₂ h fun _ _ hr => hr.position)
  rw [putFeatureRow_eq, putFeatureRow_eq, ← hw.id, ← hnext]
  refine forall₂_putKeyed (fun _ _ hr => hr.id) (fun r r' hr _ => ?_) (hw.rowAt _) h
  exact ⟨hr.id, hw.type, hr.position, hw.writeFields, hr.locked⟩

end Rows

/-- The same tables but for the secrets that feature rows hold. -/
structure Tables.SameButSecrets (t t' : Tables) : Prop where
  params : t.params = t'.params
  features : List.Forall₂ FeatureRow.SameButSecrets t.features t'.features

theorem Tables.SameButSecrets.write {t t' : Tables} (h : t.SameButSecrets t') {e e' : Edit}
    (he : e.SameButSecrets e') : (t.write e.toWrite).SameButSecrets (t'.write e'.toWrite) := by
  cases he with
  | setParam key value => exact ⟨congrArg (putParamRow key value) h.params, h.features⟩
  | putRecord hr => exact ⟨h.params, putFeatureRow_sameButSecrets h.features hr⟩
  | dropRecord id =>
      refine ⟨h.params, forall₂_filter h.features fun r r' hr => ?_⟩
      rw [hr.id]

/-! ## Databases -/

/-- Rules that judge the writes of runs alike, whatever secrets these put in. -/
structure Rules.JudgeAlike (r r' : Rules) : Prop where
  judge : ∀ e e' : Edit, e.SameButSecrets e' → r.judge e.toWrite = r'.judge e'.toWrite
  failedCommitEnds : r.failedCommitEnds = r'.failedCommitEnds

theorem Rules.JudgeAlike.none : Rules.none.JudgeAlike .none := ⟨fun _ _ _ => rfl, rfl⟩

/-- The same transaction but for the secrets in the tables that it has saved. -/
structure Transaction.SameButSecrets (t t' : Transaction) : Prop where
  saved : t.saved.SameButSecrets t'.saved
  violation : t.violation = t'.violation

/-- The same database but for the secrets in its tables. -/
structure Database.SameButSecrets (db db' : Database) : Prop where
  tables : db.tables.SameButSecrets db'.tables
  transaction : Option.Rel Transaction.SameButSecrets db.transaction db'.transaction
  rules : db.rules.JudgeAlike db'.rules

namespace Database

/-- A write is accepted by both databases, or refused by both. -/
theorem execute_alike {e e' : Edit} (he : e.SameButSecrets e') :
    CallsAlike SameButSecrets (·.execute e.toWrite) (·.execute e'.toWrite) := by
  rintro ⟨tables, transaction, rules⟩ ⟨tables', transaction', rules'⟩ ⟨htables, htransaction, hrules⟩
  have hjudge : rules.judge e.toWrite = rules'.judge e'.toWrite := hrules.judge e e' he
  simp only [execute, hjudge]
  cases rules'.judge e'.toWrite with
  | accepted => exact ⟨rfl, htables.write he, htransaction, hrules⟩
  | refused message => exact ⟨rfl, htables, htransaction, hrules⟩
  | deferred message =>
      cases htransaction with
      | none => exact ⟨rfl, htables, .none, hrules⟩
      | some ht => exact ⟨rfl, htables.write he, .some ⟨ht.saved, rfl⟩, hrules⟩

theorem openTransaction_alike : CallsAlike SameButSecrets openTransaction openTransaction := by
  rintro ⟨tables, transaction, rules⟩ ⟨tables', transaction', rules'⟩ ⟨htables, htransaction, hrules⟩
  cases htransaction with
  | none => exact ⟨rfl, htables, .some ⟨htables, rfl⟩, hrules⟩
  | some ht => exact ⟨rfl, htables, .some ht, hrules⟩

theorem rollBack_alike : CallsAlike SameButSecrets rollBack rollBack := by
  rintro ⟨tables, transaction, rules⟩ ⟨tables', transaction', rules'⟩ ⟨htables, htransaction, hrules⟩
  cases htransaction with
  | none => exact ⟨rfl, htables, .none, hrules⟩
  | some ht => exact ⟨rfl, ht.saved, .none, hrules⟩

theorem commit_alike : CallsAlike SameButSecrets commit commit := by
  rintro ⟨tables, transaction, rules⟩ ⟨tables', transaction', rules'⟩ ⟨htables, htransaction, hrules⟩
  cases htransaction with
  | none => exact ⟨rfl, htables, .none, hrules⟩
  | @some t t' ht =>
      have hends : rules.failedCommitEnds = rules'.failedCommitEnds := hrules.failedCommitEnds
      simp only [commit, ← ht.violation, hends]
      cases t.violation with
      | none => exact ⟨rfl, htables, .none, hrules⟩
      | some message =>
          refine ⟨rfl, ?_⟩
          simp only
          split_ifs
          · exact ⟨ht.saved, .none, hrules⟩
          · exact ⟨htables, .some ht, hrules⟩

end Database

/-! ## Stores over a database -/

/-- The same store but for the secrets in its database. -/
structure TableStore.SameButSecrets (s t : TableStore) : Prop where
  database : s.database.SameButSecrets t.database
  inRun : s.inRun = t.inRun

namespace TableStore

variable {s t : TableStore}

theorem SameButSecrets.ofTables {tables tables' : Tables} (htables : tables.SameButSecrets tables') {rules rules' : Rules}
    (hrules : rules.JudgeAlike rules') : (ofTables tables rules).SameButSecrets (.ofTables tables' rules') :=
  ⟨⟨htables, .none, hrules⟩, rfl⟩

theorem SameButSecrets.lockedAt (h : s.SameButSecrets t) (slot : Slot) : s.lockedAt slot = t.lockedAt slot := by
  cases slot with
  | param key => exact congrArg (fun rows => (rows.find? (·.key == key)).any (·.locked)) h.database.tables.params
  | feature id =>
      have hrow : Option.Rel FeatureRow.SameButSecrets (s.featureRow? id) (t.featureRow? id) :=
        rel_find? h.database.tables.features (fun r r' hr => by rw [hr.id]) fun _ _ hr _ => hr
      rw [TableStore.lockedAt, TableStore.lockedAt]
      generalize s.featureRow? id = row at hrow
      generalize t.featureRow? id = row' at hrow
      cases hrow with
      | none => rfl
      | some hr => exact hr.locked

theorem openRun_alike : CallsAlike SameButSecrets openRun openRun := by
  intro s t h
  obtain ⟨a, db, db', hs, ht, hdb⟩ := Database.openTransaction_alike.out h.database
  rw [openRun, openRun, hs, ht, ← h.inRun]
  split_ifs
  · exact ⟨rfl, h⟩
  · cases a <;> exact ⟨rfl, hdb, rfl⟩

theorem abandonRun_alike : CallsAlike SameButSecrets abandonRun abandonRun := by
  intro s t h
  obtain ⟨a, db, db', hs, ht, hdb⟩ := Database.rollBack_alike.out h.database
  rw [abandonRun, abandonRun, hs, ht]
  cases a with
  | ok _ => exact ⟨rfl, hdb, rfl⟩
  | error message => exact ⟨rfl, hdb, h.inRun⟩

theorem commitRun_alike : CallsAlike SameButSecrets commitRun commitRun := by
  intro s t h
  obtain ⟨a, db, db', hs, ht, hdb⟩ := Database.commit_alike.out h.database
  rw [commitRun, commitRun, hs, ht]
  cases a with
  | ok _ => exact ⟨rfl, hdb, rfl⟩
  | error message =>
      have hopen : db.transaction.isNone = db'.transaction.isNone := by
        have htransaction := hdb.transaction
        generalize db.transaction = x at htransaction
        generalize db'.transaction = y at htransaction
        cases htransaction <;> rfl
      simp only [hopen]
      split_ifs
      · exact ⟨rfl, hdb, rfl⟩
      · have hafter : SameButSecrets { s with database := db } { t with database := db' } := ⟨hdb, h.inRun⟩
        obtain ⟨a, s', t', hs', ht', hback⟩ := abandonRun_alike.out hafter
        rw [hs', ht']
        cases a <;> exact ⟨rfl, hback⟩

theorem closeRun_alike (commit : Bool) : CallsAlike SameButSecrets (closeRun commit) (closeRun commit) := by
  intro s t h
  rw [closeRun, closeRun, ← h.inRun]
  split_ifs
  · exact ⟨rfl, h⟩
  · exact commitRun_alike s t h
  · exact abandonRun_alike s t h

theorem secretsUnseen : SecretsUnseen SameButSecrets where
  get_store _ _ := rfl
  get key _ _ h := congrArg (fun rows => Except.ok ((rows.find? (·.key == key)).map (·.value))) h.database.tables.params
  list_store _ := rfl
  list _ _ h := readRecords_sameButSecrets (listed_sameButSecrets h.database.tables.features)
  edit {e e'} he s t h := by
    rw [perform_edit, perform_edit, ← he.slot_eq, ← h.lockedAt]
    obtain ⟨a, db, db', hs, ht, hdb⟩ := (Database.execute_alike he).out h.database
    simp only [unlessLocked, execute, hs, ht]
    split_ifs
    · exact ⟨rfl, h⟩
    · exact ⟨rfl, hdb, h.inRun⟩
  beginRun := openRun_alike
  endRun := closeRun_alike

end TableStore

/-! ## Stores of either kind, and stores with faults -/

section Combined

variable {α β σ : Type} [ConfigStore α] [ConfigStore β] [ConfigStore σ]

theorem Sum.secretsUnseen {R : α → α → Prop} {R' : β → β → Prop} (hR : SecretsUnseen R) (hR' : SecretsUnseen R') :
    SecretsUnseen (Sum.LiftRel R R') where
  get_store key s := by
    cases s with
    | inl a => exact congrArg Sum.inl (hR.get_store key a)
    | inr b => exact congrArg Sum.inr (hR'.get_store key b)
  get key _ _ h := by
    cases h with
    | inl h => exact hR.get key _ _ h
    | inr h => exact hR'.get key _ _ h
  list_store s := by
    cases s with
    | inl a => exact congrArg Sum.inl (hR.list_store a)
    | inr b => exact congrArg Sum.inr (hR'.list_store b)
  list _ _ h := by
    cases h with
    | inl h => exact hR.list _ _ h
    | inr h => exact hR'.list _ _ h
  edit {e e'} he s t h := by
    cases h with
    | inl h =>
        have hcall := hR.edit he _ _ h
        cases he <;> exact ⟨hcall.1, .inl hcall.2⟩
    | inr h =>
        have hcall := hR'.edit he _ _ h
        cases he <;> exact ⟨hcall.1, .inr hcall.2⟩
  beginRun _ _ h := by
    cases h with
    | inl h => exact (hR.beginRun _ _ h).imp_right .inl
    | inr h => exact (hR'.beginRun _ _ h).imp_right .inr
  endRun commit _ _ h := by
    cases h with
    | inl h => exact (hR.endRun commit _ _ h).imp_right .inl
    | inr h => exact (hR'.endRun commit _ _ h).imp_right .inr

namespace Faulty

/-- The same faults, in front of related stores. -/
structure Before (R : σ → σ → Prop) (s t : Faulty σ) : Prop where
  inner : R s.inner t.inner
  budgets : s.budgets = t.budgets
  failing : s.failing = t.failing
  unreadable : s.unreadable = t.unreadable

variable {R : σ → σ → Prop}

omit [ConfigStore σ] in
theorem pass_alike {γ : Type} {f g : StoreCall σ γ} (h : CallsAlike R f g) :
    CallsAlike (Before R) (pass f) (pass g) := by
  intro s t hst
  obtain ⟨hanswer, hinner⟩ := h _ _ hst.inner
  exact ⟨hanswer, hinner, hst.budgets, hst.failing, hst.unreadable⟩

omit [ConfigStore σ] in
theorem passUnless_alike (failing : FailingCall) {γ : Type} {f g : StoreCall σ γ} (h : CallsAlike R f g) :
    CallsAlike (Before R) (passUnless failing f) (passUnless failing g) := by
  intro s t hst
  rw [passUnless, passUnless, ← hst.failing]
  split_ifs
  · exact ⟨rfl, hst⟩
  · exact pass_alike h s t hst

omit [ConfigStore σ] in
theorem passWrite_alike (key : String) {f g : StoreCall σ Unit} (h : CallsAlike R f g) :
    CallsAlike (Before R) (passWrite key f) (passWrite key g) := by
  intro s t hst
  rw [passWrite, passWrite, ← hst.budgets]
  cases s.budgets.lookup key with
  | none => exact pass_alike h s t hst
  | some n =>
      cases n with
      | zero => exact ⟨rfl, hst⟩
      | succ n => exact pass_alike h _ _ ⟨hst.inner, rfl, hst.failing, hst.unreadable⟩

theorem secretsUnseen (h : SecretsUnseen R) : SecretsUnseen (Before R) where
  get_store key s := by
    show (if key ∈ s.unreadable then _ else _ : Except StoreError _ × Faulty σ).2 = s
    split_ifs
    · rfl
    · exact congrArg (fun inner => { s with inner }) (h.get_store key s.inner)
  get key s t hst := by
    show (if key ∈ s.unreadable then _ else _ : Except StoreError _ × Faulty σ).1
      = (if key ∈ t.unreadable then _ else _ : Except StoreError _ × Faulty σ).1
    rw [← hst.unreadable]
    split_ifs
    · rfl
    · exact h.get key _ _ hst.inner
  list_store s := by
    show (if _ ∈ s.failing then _ else _ : Except StoreError _ × Faulty σ).2 = s
    split_ifs
    · rfl
    · exact congrArg (fun inner => { s with inner }) (h.list_store s.inner)
  list s t hst := by
    show AnswersAlike _ (if _ ∈ s.failing then _ else _ : Except StoreError _ × Faulty σ).1
      (if _ ∈ t.failing then _ else _ : Except StoreError _ × Faulty σ).1
    rw [← hst.failing]
    split_ifs
    · exact .error _
    · exact h.list _ _ hst.inner
  edit {e e'} he s t hst := by
    rw [perform_edit, perform_edit, ← he.slot_eq]
    exact passWrite_alike _ (h.edit he) s t hst
  beginRun := passUnless_alike _ h.beginRun
  endRun commit := passUnless_alike _ (h.endRun commit)

end Faulty

end Combined

end GuardedPatch
