import GuardedPatch.Proofs.Store.Rows
import GuardedPatch.Proofs.Store.Sessions

set_option autoImplicit false

/-! # Records survive storage

A record is stored with its fields as a JSON text, and this text reads back as the fields that it was written from. So
a table that starts without rows can be read after any writes, and it holds for each id what was written last
(`Tables.HoldsLatest.write`).

Over a whole session, the writes that count are those that were made and have not been taken back since. A ledger keeps
track of them: it goes back to the writes of the beginning when a run is dropped, or when it cannot be kept
(`Ledger.next`). The tables are at any time those at the start after the writes that stand (`Ledger.Explains.next`). -/

namespace GuardedPatch

/-! ## What is written last -/

/-- What there is for an id after a write. -/
def Write.recordFor (id : String) (before : Option FeatureRecord) : Write → Option FeatureRecord
  | .putFeature r => if r.id = id then some r else before
  | .removeFeature id' => if id' = id then none else before
  | .putParam _ _ => before
  | .lockParam _ _ => before
  | .lockFeature _ _ => before

/-- The record last written for an id, unless it has been removed since. -/
def lastWritten (ws : List Write) (id : String) : Option FeatureRecord :=
  ws.foldl (Write.recordFor id) none

theorem lastWritten_append (ws : List Write) (w : Write) (id : String) :
    lastWritten (ws ++ [w]) id = w.recordFor id (lastWritten ws id) := by
  rw [lastWritten, List.foldl_append]
  rfl

/-- The feature rows can be read, and each id has the record last written for it. -/
def Tables.HoldsLatest (t : Tables) (ws : List Write) : Prop :=
  ∃ rs, Holds t.features rs ∧ DistinctIds rs ∧ ∀ id, recordAt? rs id = lastWritten ws id

namespace Tables.HoldsLatest

variable {t : Tables} {ws : List Write}

theorem of_no_features (params : List ParamRow) : HoldsLatest ⟨params, []⟩ [] :=
  ⟨[], .nil, List.nodup_nil, fun _ => rfl⟩

/-- **What is written is held.** -/
theorem write (h : t.HoldsLatest ws) (w : Write) : (t.write w).HoldsLatest (ws ++ [w]) := by
  obtain ⟨rs, hholds, hids, hlast⟩ := h
  cases w with
  | putFeature r =>
      refine ⟨replaceOrAppend r rs, hholds.put r, hids.replaceOrAppend r, fun id => ?_⟩
      rw [lastWritten_append, Write.recordFor, recordAt?_replaceOrAppend, hlast]
  | removeFeature id' =>
      refine ⟨rs.filter (·.id != id'), hholds.remove id', hids.sublist (List.filter_sublist.map _), fun id => ?_⟩
      rw [lastWritten_append, Write.recordFor, recordAt?_removed, hlast]
  | putParam key value =>
      refine ⟨rs, hholds, hids, fun id => ?_⟩
      rw [lastWritten_append, Write.recordFor, hlast]
  | lockParam key locked =>
      refine ⟨rs, hholds, hids, fun id => ?_⟩
      rw [lastWritten_append, Write.recordFor, hlast]
  | lockFeature id' locked =>
      refine ⟨rs, hholds.lock id' locked, hids, fun id => ?_⟩
      rw [lastWritten_append, Write.recordFor, hlast]

theorem writes (h : t.HoldsLatest ws) (ws' : List Write) : (ws'.foldl Tables.write t).HoldsLatest (ws ++ ws') := by
  induction ws' generalizing t ws with
  | nil => rwa [List.append_nil]
  | cons w rest ih =>
      rw [List.append_cons]
      exact ih (h.write w)

/-- The listing has just the records that are held. -/
theorem listing (h : t.HoldsLatest ws) :
    ∃ records, TableStore.readRecords (listed t.features) = .ok records ∧ DistinctIds records
      ∧ ∀ id, recordAt? records id = lastWritten ws id := by
  obtain ⟨rs, hholds, hids, hlast⟩ := h
  obtain ⟨records, hread, hperm⟩ := hholds.perm (listed_perm t.features)
  refine ⟨records, readRecords_eq_ok_iff.2 hread, hids.perm hperm.symm, fun id => ?_⟩
  rw [← hids.recordAt?_perm hperm.symm, hlast]

end Tables.HoldsLatest

/-! ## The writes that stand -/

/-- The writes on which a store stands. -/
structure Ledger where
  standing : List Write
  /-- Those that stand if the open run is dropped. -/
  saved : List Write

namespace Ledger

open TableStore

/-- What an action does to the writes that stand. Closing a run takes back what was written since it was opened, unless
it is kept; any other action adds what it writes. -/
def next (s : TableStore) (l : Ledger) : Action → Ledger
  | .beginRun => if s.inRun then l else { l with saved := l.standing }
  | .endRun commit =>
      if !s.inRun || (commit && (ConfigStore.endRun commit s).1.isOk) then l else { l with standing := l.saved }
  | a => { l with standing := l.standing ++ a.made s }

/-- What actions do to the writes that stand, one after the other. -/
def after (s : TableStore) (l : Ledger) : List Action → Ledger
  | [] => l
  | a :: rest => after (a.run s) (l.next s a) rest

/-- The writes that stand lead from the tables at the start to those of the store. -/
structure Explains (start : Tables) (s : TableStore) (l : Ledger) : Prop where
  inStep : s.InStep
  tables : s.tables = l.standing.foldl Tables.write start
  saved : ∀ t, s.database.transaction = some t → t.saved = l.saved.foldl Tables.write start

namespace Explains

variable {start : Tables} {s s' : TableStore} {l : Ledger}

theorem makes {ws : List Write} (h : Explains start s l) (hmakes : s.Makes ws s') :
    Explains start s' { l with standing := l.standing ++ ws } where
  inStep := h.inStep.makes hmakes
  tables := by rw [hmakes.tables, h.tables, List.foldl_append]
  saved t' ht' := by
    have hsaved := hmakes.saved
    rw [ht', Option.map_some] at hsaved
    obtain ⟨t, ht, heq⟩ := Option.map_eq_some_iff.1 hsaved.symm
    rw [← heq]
    exact h.saved t ht

theorem of_idle (hidle : s.Idle) (htables : s.tables = l.standing.foldl Tables.write start) : Explains start s l where
  inStep := hidle.inStep
  tables := htables
  saved t ht := by
    rw [hidle.transaction] at ht
    cases ht

theorem beginRun (h : Explains start s l) : Explains start (openRun s).2 (l.next s .beginRun) := by
  rw [next]
  cases hrun : s.inRun with
  | true =>
      rw [openRun_of_inRun hrun]
      exact h
  | false =>
      obtain ⟨-, hwithin, htables⟩ := openRun_of_idle (h.inStep.idle hrun)
      obtain ⟨t, ht, hsaved⟩ := hwithin.saved
      refine ⟨h.inStep.opened, htables.trans h.tables, fun t' ht' => ?_⟩
      obtain rfl : t = t' := Option.some.inj (ht.symm.trans ht')
      exact hsaved.trans h.tables

theorem endRun (h : Explains start s l) (commit : Bool) :
    Explains start (closeRun commit s).2 (l.next s (.endRun commit)) := by
  rw [next]
  have hidle := h.inStep.closed commit
  cases hrun : s.inRun with
  | false =>
      rw [closeRun_of_not_inRun hrun]
      exact h
  | true =>
      obtain ⟨t, ht⟩ := h.inStep.exists_transaction hrun
      obtain ⟨-, -, hdropped, -, hkept⟩ := closeRun_of_open hrun ht
      have hsaved := h.saved t ht
      cases commit with
      | false => exact .of_idle hidle (hdropped.trans hsaved)
      | true =>
          show Explains start (closeRun true s).2
            (if (closeRun true s).1.isOk then l else { l with standing := l.saved })
          rcases hkept with ⟨hok, hstay⟩ | ⟨err, herror, hback⟩
          · rw [hok]
            exact .of_idle hidle (hstay.trans h.tables)
          · rw [herror]
            exact .of_idle hidle (hback.trans hsaved)

/-- **Every action does to the tables what it does to the writes that stand.** -/
theorem next (h : Explains start s l) (a : Action) : Explains start (a.run s) (l.next s a) := by
  cases a with
  | beginRun => exact h.beginRun
  | endRun commit => exact h.endRun commit
  | write e => exact h.makes (.run nofun nofun)
  | putParam key value => exact h.makes (.run nofun nofun)
  | putFeature r => exact h.makes (.run nofun nofun)
  | setLocked key locked => exact h.makes (.run nofun nofun)
  | newRules rules violation => exact h.makes (.run nofun nofun)

theorem after (h : Explains start s l) (actions : List Action) :
    Explains start (actions.foldl Action.run s) (l.after s actions) := by
  induction actions generalizing s l with
  | nil => exact h
  | cons a rest ih => exact ih (h.next a)

end Explains

end Ledger

/-! ## Reading back -/

open TableStore

/-- **Feature records survive storage.** The JSON text of any fields reads back as these fields. So, whatever happens to
    a store that starts without features, and whichever writes and commits fail, its features can be listed, there is
    at most one record for an id, and it is exactly the one last written for it by a write that stands, if it has not
    been removed since. -/
theorem records_survive_storage :
    (∀ fields : TextMap, Json.readFields (Json.writeFields fields) = .ok fields)
      ∧ ∀ (params : List ParamRow) (rules : Rules) (actions : List Action),
        let start : TableStore := .ofTables ⟨params, []⟩ rules
        let s := actions.foldl Action.run start
        let standing := (Ledger.after start ⟨[], []⟩ actions).standing
        ∃ records, (ConfigStore.listFeatures s).1 = .ok records ∧ DistinctIds records
          ∧ ∀ id, recordAt? records id = lastWritten standing id := by
  refine ⟨Json.readFields_writeFields, fun params rules actions => ?_⟩
  intro start s standing
  have hstart : Ledger.Explains ⟨params, []⟩ start ⟨[], []⟩ := .of_idle ⟨rfl, rfl⟩ rfl
  have htables : s.tables = standing.foldl Tables.write ⟨params, []⟩ := (hstart.after actions).tables
  have hlatest : s.tables.HoldsLatest standing := by
    rw [htables]
    exact (Tables.HoldsLatest.of_no_features params).writes standing
  exact hlatest.listing

example :
    let record : FeatureRecord := ⟨"f", "t", .ofList [("", "a\"b\\c"), ("x\ny", "\u0001\u007f\u2028")]⟩
    let actions : List Action :=
      [.putFeature ⟨"f", "u", .empty⟩, .write (.putRecord record), .putFeature ⟨"g", "t", .empty⟩,
        .write (.dropRecord "g"), .beginRun, .write (.dropRecord "f"), .endRun false]
    (ConfigStore.listFeatures (actions.foldl Action.run (.ofTables .empty .none))).1.toOption = some [record] := by
  decide +kernel

end GuardedPatch
