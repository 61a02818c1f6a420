import GuardedPatch.Proofs.Store.Retrieval
import GuardedPatch.Proofs.Store.Shown
import GuardedPatch.Proofs.Store.States

set_option autoImplicit false

/-! # Listings

A write changes a list of records at one place (`Edit.Relists`): a record takes the place of the one with its id, a new
record goes to the end, and one that is removed leaves the others in their order.

A store in memory keeps such a list. A database sorts its rows when it lists them, by their positions and then by their
ids. A new row gets the position after the largest one that is left, which may be the position of a row that was removed
before. So the rows always stand in the order of their positions, and the listing shows them as they stand
(`Tables.Ordered.write`). Only when the positions have run out, new rows share the last one and are listed by their ids;
even then no other row moves, as sorting can be interchanged with leaving rows out (`listed_filter`). -/

namespace GuardedPatch

/-! ## Sorting rows -/

namespace FeatureRow

variable {a b c : FeatureRow}

/-- A row is not behind another one if it is listed before it or at the same place. -/
theorem precedes_eq_false_iff :
    b.precedes a = false ↔ a.position < b.position ∨ a.position = b.position ∧ a.id ≤ b.id := by
  rw [precedes, Bool.or_eq_false_iff, Bool.and_eq_false_iff, decide_eq_false_iff_not, beq_eq_false_iff_ne,
    decide_eq_false_iff_not, String.not_lt]
  constructor
  · rintro ⟨hle, hne | hid⟩
    · omega
    · by_cases heq : a.position = b.position
      · exact .inr ⟨heq, hid⟩
      · omega
  · rintro (hlt | ⟨heq, hid⟩)
    · exact ⟨by omega, .inl (by omega)⟩
    · exact ⟨by omega, .inr hid⟩

theorem not_precedes_trans (hab : b.precedes a = false) (hbc : c.precedes b = false) : c.precedes a = false := by
  rw [precedes_eq_false_iff] at *
  rcases hab with hab | ⟨hab, hid⟩
  · omega
  · rcases hbc with hbc | ⟨hbc, hid'⟩
    · omega
    · exact .inr ⟨hab.trans hbc, String.le_trans hid hid'⟩

theorem not_precedes_of_precedes (h : a.precedes b = true) : b.precedes a = false := by
  rw [precedes_eq_false_iff]
  simp only [precedes, Bool.or_eq_true, Bool.and_eq_true, decide_eq_true_eq, beq_iff_eq] at h
  rcases h with hlt | ⟨heq, hlt⟩
  · exact .inl hlt
  · exact .inr ⟨heq, String.not_lt.1 (String.lt_asymm hlt)⟩

end FeatureRow

/-- No row stands behind one that it is listed before. -/
def Sorted (rows : List FeatureRow) : Prop :=
  rows.Pairwise fun a b => b.precedes a = false

theorem sorted_insertListed {rows : List FeatureRow} (h : Sorted rows) (r : FeatureRow) :
    Sorted (insertListed r rows) := by
  induction rows with
  | nil => exact List.pairwise_singleton _ r
  | cons x rest ih =>
      obtain ⟨hhead, htail⟩ := List.pairwise_cons.1 h
      rw [insertListed]
      split_ifs with hx
      · refine List.pairwise_cons.2 ⟨fun y hy => ?_, ih htail⟩
        rcases List.mem_cons.1 ((insertListed_perm r rest).mem_iff.1 hy) with rfl | hy
        · exact FeatureRow.not_precedes_of_precedes hx
        · exact hhead y hy
      · rw [Bool.not_eq_true] at hx
        refine List.pairwise_cons.2 ⟨fun y hy => ?_, h⟩
        rcases List.mem_cons.1 hy with rfl | hy
        · exact hx
        · exact FeatureRow.not_precedes_trans hx (hhead y hy)

theorem sorted_listed (rows : List FeatureRow) : Sorted (listed rows) := by
  induction rows with
  | nil => exact .nil
  | cons r rest ih => exact sorted_insertListed ih r

/-- A row that no other one is listed before goes to the front. -/
theorem insertListed_of_first {r : FeatureRow} {rows : List FeatureRow} (h : ∀ x ∈ rows, x.precedes r = false) :
    insertListed r rows = r :: rows := by
  cases rows with
  | nil => rfl
  | cons x rest => simp [insertListed, h x List.mem_cons_self]

theorem filter_insertListed {rows : List FeatureRow} (h : Sorted rows) (p : FeatureRow → Bool) (r : FeatureRow) :
    (insertListed r rows).filter p = if p r then insertListed r (rows.filter p) else rows.filter p := by
  induction rows with
  | nil => simp [insertListed, List.filter_cons]
  | cons x rest ih =>
      obtain ⟨hhead, htail⟩ := List.pairwise_cons.1 h
      by_cases hx : x.precedes r = true
      · rw [insertListed, if_pos hx, List.filter_cons, ih htail, List.filter_cons]
        by_cases hpx : p x = true
        · by_cases hpr : p r = true <;> simp [hpx, hpr, hx, insertListed]
        · simp [hpx]
      · -- nothing is listed before the new row, whatever is left out
        rw [Bool.not_eq_true] at hx
        have hfirst : ∀ y ∈ (x :: rest).filter p, y.precedes r = false := by
          intro y hy
          rcases List.mem_cons.1 (List.mem_of_mem_filter hy) with rfl | hy
          · exact hx
          · exact FeatureRow.not_precedes_trans hx (hhead y hy)
        rw [insertListed_of_first hfirst, insertListed, if_neg (Bool.eq_false_iff.1 hx), List.filter_cons]

/-- **Rows that are left out leave the others in their order.** -/
theorem listed_filter (p : FeatureRow → Bool) (rows : List FeatureRow) :
    listed (rows.filter p) = (listed rows).filter p := by
  induction rows with
  | nil => rfl
  | cons r rest ih =>
      show _ = (insertListed r (listed rest)).filter p
      rw [filter_insertListed (sorted_listed rest), ← ih, List.filter_cons]
      split <;> rfl

/-- A row that is there keeps its place in the listing. -/
theorem listed_putFeatureRow {r : FeatureRecord} {rows : List FeatureRow} (hids : (rows.map (·.id)).Nodup)
    (hr : ∃ row ∈ rows, row.id = r.id) : listed (putFeatureRow r rows) = putFeatureRow r (listed rows) := by
  have hids' : ((listed rows).map (·.id)).Nodup := ((listed_perm rows).map _).nodup_iff.2 hids
  have hr' : ∃ row ∈ listed rows, row.id = r.id := by
    obtain ⟨row, hrow, hid⟩ := hr
    exact ⟨row, (listed_perm rows).mem_iff.2 hrow, hid⟩
  rw [putFeatureRow_eq, putFeatureRow_eq, putKeyed_of_present hids hr, putKeyed_of_present hids' hr', listed_map]
  · intro row
    split <;> rfl
  · intro row
    split <;> rfl

/-- A new row leaves the others in their order. -/
theorem listed_of_new {r : FeatureRecord} {rows : List FeatureRow} (hr : ∀ row ∈ rows, row.id ≠ r.id) :
    listed rows = (listed (putFeatureRow r rows)).filter (·.id != r.id) := by
  have hothers : rows.filter (·.id != r.id) = rows := by
    simpa [List.filter_eq_self] using hr
  rw [← listed_filter, putFeatureRow_eq, putKeyed_of_absent hr, List.filter_append, hothers]
  simp

/-! ## What a write does to a list -/

/-- A list of records before and after a write that is made. A record that is new stands somewhere among the others, and
    behind all of them if there is room. -/
inductive Edit.Relists (room : Prop) : Edit → List FeatureRecord → List FeatureRecord → Prop
  | replaced (front back : List FeatureRecord) {r old : FeatureRecord} (hid : old.id = r.id) :
      Relists room (.putRecord r) (front ++ old :: back) (front ++ r :: back)
  | added (front back : List FeatureRecord) {r : FeatureRecord} (hnew : ∀ x ∈ front ++ back, x.id ≠ r.id)
      (hlast : room → back = []) : Relists room (.putRecord r) (front ++ back) (front ++ r :: back)
  | removed (id : String) (rs : List FeatureRecord) : Relists room (.dropRecord id) rs (rs.filter (·.id != id))
  | untouched (key value : String) (rs : List FeatureRecord) : Relists room (.setParam key value) rs rs

namespace Edit.Relists

variable {room : Prop} {rs rs' : List FeatureRecord}

theorem cons {r x : FeatureRecord} (h : Relists room (.putRecord r) rs rs') (hx : x.id ≠ r.id) :
    Relists room (.putRecord r) (x :: rs) (x :: rs') := by
  cases h with
  | replaced front back hid => exact .replaced (x :: front) back hid
  | added front back hnew hlast => exact .added (x :: front) back (List.forall_mem_cons.2 ⟨hx, hnew⟩) hlast

/-- A record that is put in takes the place of the one with its id, or the last one. -/
theorem replaceOrAppend (r : FeatureRecord) (rs : List FeatureRecord) :
    Relists room (.putRecord r) rs (GuardedPatch.replaceOrAppend r rs) := by
  induction rs with
  | nil => exact .added [] [] nofun fun _ => rfl
  | cons x rest ih =>
      rw [GuardedPatch.replaceOrAppend]
      split_ifs with hid
      · exact .replaced [] rest hid
      · exact ih.cons hid

theorem run (c : Contents) (e : Edit) : e.Relists room c.features (e.run c).features := by
  cases e with
  | setParam key value => exact .untouched key value c.features
  | putRecord r => exact .replaceOrAppend r c.features
  | dropRecord id => exact .removed id c.features

/-- A list without its record of an id is one to which this record was added, at any place if there is no room. -/
theorem of_filter {r : FeatureRecord} (hroom : ¬ room) (hids : DistinctIds rs) (hr : r ∈ rs) :
    Relists room (.putRecord r) (rs.filter (·.id != r.id)) rs := by
  obtain ⟨front, back, rfl⟩ := List.append_of_mem hr
  have hnew : ∀ x ∈ front ++ back, x.id ≠ r.id := by
    rw [DistinctIds, (List.perm_middle.map _).nodup_iff, List.map_cons, List.nodup_cons] at hids
    exact fun x hx heq => hids.1 (heq ▸ List.mem_map_of_mem hx)
  have hothers : (front ++ r :: back).filter (·.id != r.id) = front ++ back := by
    have hkeep : ∀ part : List FeatureRecord, (∀ x ∈ part, x.id ≠ r.id) → part.filter (·.id != r.id) = part := by
      intro part hpart
      simpa [List.filter_eq_self] using hpart
    rw [List.forall_mem_append] at hnew
    simp [hkeep front hnew.1, hkeep back hnew.2]
  rw [hothers]
  exact .added front back hnew fun h => absurd h hroom

end Edit.Relists

/-! ## Stores in memory -/

namespace MemoryStore

/-- What can happen to a store in memory. -/
inductive Action
  /-- A write through the calls of a run. -/
  | write (e : Edit)
  | insertFeature (r : FeatureRecord)
  | lock (key : String)

/-- The store after an action, whatever its answer. -/
def Action.run (s : MemoryStore) : Action → MemoryStore
  | .write e => (e.perform s).2
  | .insertFeature r => s.insertFeature r
  | .lock key => s.lock key

theorem distinctIds_run {s : MemoryStore} (h : DistinctIds s.features) (a : Action) :
    DistinctIds (a.run s).features := by
  cases a with
  | insertFeature r => exact h.replaceOrAppend r
  | lock key => exact h
  | write e =>
      rw [Action.run, perform_edit]
      split_ifs
      · exact h
      · cases e with
        | setParam key value => exact h
        | putRecord r => exact h.replaceOrAppend r
        | dropRecord id => exact h.sublist (List.filter_sublist.map _)

theorem distinctIds_runs {s : MemoryStore} (h : DistinctIds s.features) (actions : List Action) :
    DistinctIds (actions.foldl Action.run s).features := by
  induction actions generalizing s with
  | nil => exact h
  | cons a rest ih => exact ih (distinctIds_run h a)

end MemoryStore

/-! ## Stores over a database -/

/-- How many positions a write may take. -/
def Write.positions : Write → Nat
  | .putFeature _ => 1
  | _ => 0

theorem Write.positions_le_one (w : Write) : w.positions ≤ 1 := by
  cases w <;> simp [positions]

/-- The feature rows can be read, and they stand in the order of their positions, unless more of these have been taken
    than there are. -/
structure Tables.Ordered (n : Nat) (t : Tables) : Prop where
  latest : ∃ ws, t.HoldsLatest ws
  inOrder : (n : Int) ≤ positionLimit → InOrder n t.features

theorem Tables.HoldsLatest.ids {t : Tables} {ws : List Write} (h : t.HoldsLatest ws) :
    (t.features.map (·.id)).Nodup := by
  obtain ⟨rs, hholds, hids, -⟩ := h
  rw [← hholds.ids]
  exact hids

namespace Tables.Ordered

variable {n : Nat} {t : Tables}

theorem of_no_features (params : List ParamRow) : Ordered 0 ⟨params, []⟩ where
  latest := ⟨[], .of_no_features params⟩
  inOrder _ := ⟨.nil, nofun⟩

theorem mono (h : t.Ordered n) {m : Nat} (hm : n ≤ m) : t.Ordered m :=
  ⟨h.latest, fun hlimit => (h.inOrder (by omega)).mono hm⟩

/-- **Every write keeps the rows in order.** -/
theorem write (h : t.Ordered n) (w : Write) : (t.write w).Ordered (n + w.positions) := by
  obtain ⟨⟨ws, hlatest⟩, hinOrder⟩ := h
  refine ⟨⟨ws ++ [w], hlatest.write w⟩, fun hlimit => ?_⟩
  cases w with
  | putFeature r =>
      simp only [Write.positions] at hlimit
      exact (hinOrder (by omega)).put (by omega) r
  | removeFeature id => exact (hinOrder hlimit).sublist List.filter_sublist
  | lockFeature id locked =>
      have hpositions : ((t.write (.lockFeature id locked)).features).map (·.position) = t.features.map (·.position) :=
        map_updated (fun r : FeatureRow => { r with locked }) (fun _ _ => rfl) t.features
      obtain ⟨hincreasing, hbelow⟩ := hinOrder hlimit
      exact ⟨hpositions ▸ hincreasing, hpositions ▸ hbelow⟩
  | putParam key value => exact hinOrder hlimit
  | lockParam key locked => exact hinOrder hlimit

/-- **A write does to the listing what it does to a list.** -/
theorem relists (h : t.Ordered n) {rs : List FeatureRecord} (hrs : TableStore.readRecords (listed t.features) = .ok rs)
    {room : Prop} (hroom : room → (n : Int) ≤ positionLimit) (e : Edit) :
    ∃ rs', TableStore.readRecords (listed (t.write e.toWrite).features) = .ok rs' ∧ e.Relists room rs rs' := by
  have hholds : Holds (listed t.features) rs := readRecords_eq_ok_iff.1 hrs
  cases e with
  | setParam key value => exact ⟨rs, hrs, .untouched key value rs⟩
  | dropRecord id =>
      refine ⟨rs.filter (·.id != id), readRecords_eq_ok_iff.2 ?_, .removed id rs⟩
      show Holds (listed (t.features.filter (·.id != id))) _
      rw [listed_filter]
      exact hholds.remove id
  | putRecord r =>
      show ∃ rs', TableStore.readRecords (listed (putFeatureRow r t.features)) = .ok rs' ∧ _
      by_cases hnext : room
      · -- the rows stand as they are listed, before the write and after it
        have hinOrder := h.inOrder (hroom hnext)
        rw [hinOrder.listed_eq] at hholds
        rw [(hinOrder.put (hroom hnext) r).listed_eq]
        exact ⟨_, readRecords_eq_ok_iff.2 (hholds.put r), .replaceOrAppend r rs⟩
      · obtain ⟨ws, hlatest⟩ := h.latest
        obtain ⟨rs', hrs', hids', hlast⟩ := (hlatest.write (.putFeature r)).listing
        have hholds' : Holds (listed (putFeatureRow r t.features)) rs' := readRecords_eq_ok_iff.1 hrs'
        by_cases hr : ∃ row ∈ t.features, row.id = r.id
        · rw [listed_putFeatureRow hlatest.ids hr]
          exact ⟨_, readRecords_eq_ok_iff.2 (hholds.put r), .replaceOrAppend r rs⟩
        · -- without room, a new row may be listed before others at the same position
          push Not at hr
          have hothers := hholds'.remove r.id
          rw [← listed_of_new hr, ← readRecords_eq_ok_iff, hrs] at hothers
          have hfound : recordAt? rs' r.id = some r := by
            rw [hlast, lastWritten_append, Write.recordFor, if_pos rfl]
          rw [Except.ok.inj hothers]
          exact ⟨rs', hrs', .of_filter hnext hids' (mem_of_recordAt? hfound)⟩

end Tables.Ordered

namespace TableStore

variable {n : Nat} {s : TableStore}

/-- The rows are in order, and so are those that come back if the open transaction is rolled back. -/
def Ordered (n : Nat) (s : TableStore) : Prop :=
  ∀ t, s.database.Keeps t → t.Ordered n

theorem Ordered.mono (h : s.Ordered n) {m : Nat} (hm : n ≤ m) : s.Ordered m :=
  fun t ht => (h t ht).mono hm

theorem Ordered.execute (h : s.Ordered n) (w : Write) : (s.execute w).2.Ordered (n + w.positions) := by
  intro t ht
  rcases Database.keeps_execute ht with ht | rfl
  · exact (h t ht).mono (by omega)
  · exact (h _ s.database.keeps_tables).write w

/-- **Whatever happens takes one more position at most.** -/
theorem Ordered.run (h : s.Ordered n) (a : Action) : (a.run s).Ordered (n + 1) := by
  cases a with
  | write e =>
      intro t ht
      have hone := e.toWrite.positions_le_one
      rcases keeps_edit ht with ht | ⟨-, rfl⟩
      · exact (h t ht).mono (by omega)
      · exact ((h _ s.database.keeps_tables).write e.toWrite).mono (by omega)
  | putParam key value => exact (h.execute (.putParam key value)).mono (by simp [Write.positions])
  | putFeature r => exact h.execute (.putFeature r)
  | setLocked key locked =>
      rcases setLocked_cases key locked s with ⟨message, -, hstopped⟩ | ⟨-, hboth⟩
      · rw [Action.run, hstopped]
        exact h.mono (by omega)
      · rw [Action.run, hboth]
        have hfirst := h.execute (.lockParam key locked)
        exact (hfirst.execute (.lockFeature key locked)).mono (by simp [Write.positions])
  | beginRun => exact fun t ht => (h t (keeps_openRun ht)).mono (by omega)
  | endRun commit => exact fun t ht => (h t (keeps_closeRun ht)).mono (by omega)
  | newRules rules violation =>
      rintro t (rfl | ⟨transaction, htransaction, rfl⟩)
      · exact (h _ s.database.keeps_tables).mono (by omega)
      · obtain ⟨before, hbefore, rfl⟩ := Option.map_eq_some_iff.1 htransaction
        exact (h _ (.inr ⟨before, hbefore, rfl⟩)).mono (by omega)

theorem Ordered.runs (h : s.Ordered n) (actions : List Action) :
    (actions.foldl Action.run s).Ordered (n + actions.length) := by
  induction actions generalizing s n with
  | nil => exact h
  | cons a rest ih =>
      have hrest := ih (h.run a)
      rwa [Nat.add_assoc, Nat.add_comm 1] at hrest

theorem ordered_of_no_features (params : List ParamRow) (rules : Rules) :
    (ofTables ⟨params, []⟩ rules).Ordered 0 := by
  rintro t (rfl | ⟨transaction, hopened, -⟩)
  · exact .of_no_features params
  · cases hopened

end TableStore

/-! ## Either store -/

/-- A write is refused and nothing happens, or it is made and does to the listing what it does to a list. -/
def Edit.Amends {σ ε : Type} [ConfigStore σ] (room : Prop) (e : Edit) (s : σ) (out : Except ε Unit × σ) : Prop :=
  (∃ err, out = (.error err, s))
    ∨ ∃ rs rs', out.1 = .ok () ∧ (ConfigStore.listFeatures s).1 = .ok rs ∧ (ConfigStore.listFeatures out.2).1 = .ok rs'
      ∧ e.Relists room rs rs'

theorem MemoryStore.amends_perform (e : Edit) (s : MemoryStore) : e.Amends True s (e.perform s) := by
  rw [perform_edit]
  split_ifs
  · exact .inl ⟨_, rfl⟩
  · exact .inr ⟨_, _, rfl, rfl, rfl, .run s.contents e⟩

theorem MemoryStore.perform_ok_iff (e : Edit) (s : MemoryStore) :
    (e.perform s).1 = .ok () ↔ e.slot.name ∉ s.locked := by
  rw [perform_edit]
  split_ifs with hlocked <;> simp [hlocked]

namespace TableStore

variable {n : Nat} {s : TableStore} {room : Prop}

theorem perform_ok_iff (e : Edit) (s : TableStore) :
    (e.perform s).1 = .ok () ↔ s.lockedAt e.slot = false ∧ (s.execute e.toWrite).1 = .ok () := by
  rw [perform_edit, unlessLocked]
  split_ifs with hlocked
  · simp [hlocked]
  · cases hanswer : (s.execute e.toWrite).1 <;> simp [hlocked, hanswer, Except.mapError]

/-- The owner's write is made as well, or nothing happens. -/
theorem putFeature_cases (r : FeatureRecord) (s : TableStore) :
    ((s.putFeature r).1 = .ok () ∧ (s.putFeature r).2.tables = s.tables.write (.putFeature r))
      ∨ ∃ err, s.putFeature r = (.error err, s) := by
  rw [putFeature]
  rcases execute_cases (.putFeature r) s with ⟨hok, htables⟩ | ⟨message, hrefused⟩
  · exact .inl ⟨by simp [hok, Except.mapError], htables⟩
  · exact .inr ⟨ownerError message, by simp [hrefused, Except.mapError]⟩

/-- A write that is made does to the listing what it does to a list. -/
theorem Ordered.amends (h : s.Ordered n) (hroom : room → (n : Int) ≤ positionLimit) (e : Edit) {ε : Type}
    {out : Except ε Unit × TableStore}
    (hout : (out.1 = .ok () ∧ out.2.tables = s.tables.write e.toWrite) ∨ ∃ err, out = (.error err, s)) :
    e.Amends room s out := by
  rcases hout with ⟨hok, htables⟩ | hrefused
  · have hordered := h _ s.database.keeps_tables
    obtain ⟨ws, hlatest⟩ := hordered.latest
    obtain ⟨rs, hrs, -⟩ := hlatest.listing
    obtain ⟨rs', hrs', hrelists⟩ := hordered.relists hrs hroom e
    refine .inr ⟨rs, rs', hok, hrs, ?_, hrelists⟩
    show readRecords (listed out.2.tables.features) = .ok rs'
    rw [htables]
    exact hrs'
  · exact .inl hrefused

end TableStore

open TableStore

/-- **Listings keep their order.** Whatever happens to a store that starts without features, refusals and failures
    included, no two of its records have the same id. A write that is refused changes nothing. One that is made puts a
    record in the place of the one with its id, or puts a new one last, or takes out one record, and leaves all others
    as they are and in their order.

    In a database the positions go up along the listing, so that no two rows have the same one, and a new record is
    last, as long as there have not been more actions than there are positions. The rest holds even then. -/
theorem listings_keep_order :
    (∀ actions : List MemoryStore.Action,
      let s := actions.foldl MemoryStore.Action.run .empty
      DistinctIds s.features
        ∧ (∀ r : FeatureRecord, (Edit.putRecord r).Relists True s.features (s.insertFeature r).features)
        ∧ ∀ e : Edit, e.Amends True s (e.perform s) ∧ ((e.perform s).1 = .ok () ↔ e.slot.name ∉ s.locked))
      ∧ ∀ (params : List ParamRow) (rules : Rules) (actions : List Action),
        let s := actions.foldl Action.run (.ofTables ⟨params, []⟩ rules)
        let room := (actions.length : Int) ≤ positionLimit
        (∃ rs, (ConfigStore.listFeatures s).1 = .ok rs ∧ DistinctIds rs)
          ∧ (room → ((listed s.tables.features).map (·.position)).Pairwise fun p q => p < q)
          ∧ (∀ r : FeatureRecord, (Edit.putRecord r).Amends room s (s.putFeature r))
          ∧ ∀ e : Edit, e.Amends room s (e.perform s)
            ∧ ((e.perform s).1 = .ok () ↔ s.lockedAt e.slot = false ∧ (s.execute e.toWrite).1 = .ok ()) := by
  refine ⟨fun actions => ?_, fun params rules actions => ?_⟩
  · intro s
    have hempty : DistinctIds MemoryStore.empty.features := List.nodup_nil
    refine ⟨MemoryStore.distinctIds_runs hempty actions, fun r => .replaceOrAppend r s.features, fun e => ?_⟩
    exact ⟨MemoryStore.amends_perform e s, MemoryStore.perform_ok_iff e s⟩
  · intro s room
    have hordered : s.Ordered actions.length := by
      have hruns := (ordered_of_no_features params rules).runs actions
      rwa [Nat.zero_add] at hruns
    have htables := hordered _ s.database.keeps_tables
    obtain ⟨ws, hlatest⟩ := htables.latest
    obtain ⟨rs, hrs, hids, -⟩ := hlatest.listing
    refine ⟨⟨rs, hrs, hids⟩, fun h => ?_, fun r => ?_, fun e => ?_⟩
    · have hinOrder : InOrder actions.length s.tables.features := htables.inOrder h
      rw [hinOrder.listed_eq]
      exact hinOrder.increasing
    · exact hordered.amends id (.putRecord r) (putFeature_cases r s)
    · exact ⟨hordered.amends id e (perform_cases e s), perform_ok_iff e s⟩

end GuardedPatch
