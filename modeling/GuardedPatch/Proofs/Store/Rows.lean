import GuardedPatch.Proofs.Json.RoundTrip
import GuardedPatch.Proofs.Keyed
import GuardedPatch.Proofs.Records
import GuardedPatch.Store.Table
import Mathlib.Data.Int.Order.Basic
import Mathlib.Data.List.Perm.Basic

set_option autoImplicit false

/-! # Rows

The tables of a database have primary keys, so that a write changes one row or appends one. Several writes to
different rows come to one pass over a table and an appendix (`foldl_putParamRow`, `foldl_putFeatureRow`). New feature
rows take the positions after all others, as long as there are such positions: the last one is given out over and over
again, and rows that share it are listed by id. Until then, the listing shows new rows after the old ones and in the
order in which they were written (`listed_append_newRows`). -/

namespace GuardedPatch

/-- Tables whose rows have distinct keys and ids. -/
structure Tables.Keyed (t : Tables) : Prop where
  params : (t.params.map (·.key)).Nodup
  features : (t.features.map (·.id)).Nodup

/-! ## Parameter rows -/

theorem putParamRow_eq (key value : String) (rows : List ParamRow) :
    putParamRow key value rows = putKeyed (·.key) key (fun r => { r with value }) ⟨key, value, false⟩ rows := by
  induction rows with
  | nil => rfl
  | cons r rest ih => rw [putParamRow, putKeyed, ih]

/-- The row of a key after a value was put in. -/
theorem find?_putParamRow (key value : String) (rows : List ParamRow) (k : String) :
    (putParamRow key value rows).find? (·.key == k)
      = if k = key then
          some ((rows.find? (·.key == key)).elim ⟨key, value, false⟩ fun r => { r with value })
        else rows.find? (·.key == k) := by
  rw [putParamRow_eq]
  refine find?_putKeyed ?_ ?_ k
  · exact fun _ hr => hr
  · rfl

/-- The row with the value that entries have for its key, if they have one. -/
def ParamRow.overlaid (es : List (String × String)) (r : ParamRow) : ParamRow :=
  match es.lookup r.key with
  | some value => { r with value }
  | none => r

@[simp]
theorem ParamRow.overlaid_nil (r : ParamRow) : r.overlaid [] = r := rfl

@[simp]
theorem ParamRow.key_overlaid (es : List (String × String)) (r : ParamRow) : (r.overlaid es).key = r.key := by
  rw [overlaid]
  split <;> rfl

/-- **Values for keys that have rows are put in by one pass.** -/
theorem foldl_putParamRow {es : List (String × String)} (hes : (es.map (·.1)).Nodup) {rows : List ParamRow}
    (hrows : (rows.map (·.key)).Nodup) (hpresent : ∀ e ∈ es, ∃ r ∈ rows, r.key = e.1) :
    es.foldl (fun rows e => putParamRow e.1 e.2 rows) rows = rows.map (·.overlaid es) := by
  induction es generalizing rows with
  | nil =>
      simp only [List.foldl_nil, ParamRow.overlaid_nil, List.map_id']
  | cons e rest ih =>
      rw [List.map_cons, List.nodup_cons] at hes
      rw [List.forall_mem_cons] at hpresent
      have hone : putParamRow e.1 e.2 rows = rows.map fun r => if r.key = e.1 then { r with value := e.2 } else r := by
        rw [putParamRow_eq]
        exact putKeyed_of_present hrows hpresent.1
      have hkeys : (rows.map fun r => if r.key = e.1 then { r with value := e.2 } else r).map (·.key)
          = rows.map (·.key) := map_updated (fun r => { r with value := e.2 }) (fun _ _ => rfl) rows
      have hpresent' : ∀ x ∈ rest, ∃ r ∈ rows.map fun r => if r.key = e.1 then { r with value := e.2 } else r,
          r.key = x.1 := by
        intro x hx
        obtain ⟨r, hr, hkey⟩ := hpresent.2 x hx
        have hmem : x.1 ∈ rows.map (·.key) := List.mem_map.2 ⟨r, hr, hkey⟩
        rw [← hkeys] at hmem
        exact List.mem_map.1 hmem
      -- what was put in stays, as no later entry has its key
      rw [List.foldl_cons, hone, ih hes.2 (hkeys ▸ hrows) hpresent', List.map_map]
      apply List.map_congr_left
      intro r _
      rw [Function.comp_apply, ParamRow.overlaid, ParamRow.overlaid, TextMap.lookup_cons]
      by_cases hr : r.key = e.1
      · have hnone : rest.lookup e.1 = none := TextMap.lookup_eq_none_of_not_mem hes.1
        simp only [hr, hnone, if_true]
      · rw [if_neg hr, if_neg hr]

/-- Parameters are found by the keys of their rows. -/
theorem TableStore.get?_params {s : TableStore} (h : (s.tables.params.map (·.key)).Nodup) (key : String) :
    s.params.get? key = (s.paramRow? key).map (·.value) := by
  have hkeys : ((s.tables.params.map fun r => (r.key, r.value)).map (·.1)).Nodup := by
    rw [List.map_map]
    exact h
  rw [params, TextMap.ofList, TextMap.get?_insertAll hkeys, paramRow?]
  generalize s.tables.params = rows
  induction rows with
  | nil => rfl
  | cons r rest ih =>
      rw [List.map_cons, TextMap.lookup_cons, List.find?_cons]
      by_cases hr : key = r.key
      · rw [if_pos hr, hr, beq_self_eq_true, Option.some_or, Option.map_some]
      · rw [if_neg hr, beq_false_of_ne (Ne.symm hr), ih]

/-- **Parameters with values laid over their rows** are the parameters with these values. -/
theorem TableStore.get?_params_overlaid {s after : TableStore} (h : (s.tables.params.map (·.key)).Nodup)
    {es : List (String × String)} (hpresent : ∀ e ∈ es, ∃ r ∈ s.tables.params, r.key = e.1)
    (hafter : after.tables.params = s.tables.params.map (·.overlaid es)) (key : String) :
    after.params.get? key = (es.lookup key).or (s.params.get? key) := by
  have hkeys : after.tables.params.map (·.key) = s.tables.params.map (·.key) := by
    rw [hafter, List.map_map]
    exact List.map_congr_left fun r _ => r.key_overlaid es
  have hfind : after.paramRow? key = (s.paramRow? key).map (·.overlaid es) := by
    rw [paramRow?, hafter, List.find?_map, paramRow?]
    simp only [Function.comp_def, ParamRow.key_overlaid]
  rw [get?_params (hkeys ▸ h), get?_params h, hfind]
  cases hrow : s.paramRow? key with
  | none =>
      have hnone : es.lookup key = none := by
        refine TextMap.lookup_eq_none_of_forall_ne fun e he heq => ?_
        obtain ⟨r, hr, hkey⟩ := hpresent e he
        exact List.find?_eq_none.1 hrow r hr (by rw [hkey, heq, beq_self_eq_true])
      rw [hnone]
      rfl
  | some r =>
      have hkey : r.key = key := by simpa using List.find?_some hrow
      rw [Option.map_some, Option.map_some, Option.map_some, ParamRow.overlaid, hkey]
      cases es.lookup key <;> rfl

/-! ## Feature rows -/

/-- A row with the type and the fields of a record. -/
def FeatureRow.holding (r : FeatureRow) (w : FeatureRecord) : FeatureRow :=
  { r with type := w.type, fields := Json.writeFields w.fields }

/-- The row with the record that is written for its id, if there is one. -/
def FeatureRow.overlaid (ws : List FeatureRecord) (r : FeatureRow) : FeatureRow :=
  match recordAt? ws r.id with
  | some w => r.holding w
  | none => r

@[simp]
theorem FeatureRow.overlaid_nil (r : FeatureRow) : r.overlaid [] = r := rfl

@[simp]
theorem FeatureRow.id_overlaid (ws : List FeatureRecord) (r : FeatureRow) : (r.overlaid ws).id = r.id := by
  rw [overlaid]
  split <;> rfl

@[simp]
theorem FeatureRow.position_overlaid (ws : List FeatureRecord) (r : FeatureRow) :
    (r.overlaid ws).position = r.position := by
  rw [overlaid]
  split <;> rfl

/-- The row of a record that is new, at a position. -/
def FeatureRecord.rowAt (w : FeatureRecord) (position : Int) : FeatureRow :=
  ⟨w.id, w.type, position, Json.writeFields w.fields, false⟩

@[simp]
theorem FeatureRecord.id_rowAt (w : FeatureRecord) (position : Int) : (w.rowAt position).id = w.id := rfl

/-- Rows for records that are new, from a position on. -/
def newRows (position : Int) : List FeatureRecord → List FeatureRow
  | [] => []
  | w :: rest => w.rowAt position :: newRows (min (position + 1) positionLimit) rest

theorem putFeatureRow_eq (w : FeatureRecord) (rows : List FeatureRow) :
    putFeatureRow w rows = putKeyed (·.id) w.id (·.holding w) (w.rowAt (nextPosition rows)) rows := by
  rw [putFeatureRow, ← FeatureRecord.rowAt]
  generalize w.rowAt (nextPosition rows) = new
  induction rows with
  | nil => rfl
  | cons r rest ih =>
      rw [replaceFeatureRow, putKeyed, ih]
      rfl

/-- The row of an id after a record was put in. -/
theorem find?_putFeatureRow (w : FeatureRecord) (rows : List FeatureRow) (id : String) :
    (putFeatureRow w rows).find? (·.id == id)
      = if id = w.id then
          some ((rows.find? (·.id == w.id)).elim (w.rowAt (nextPosition rows)) (·.holding w))
        else rows.find? (·.id == id) := by
  rw [putFeatureRow_eq]
  refine find?_putKeyed ?_ ?_ id
  · exact fun _ hr => hr
  · rfl

/-- Positions stay as they are, but for the one of a new row. -/
theorem positions_putFeatureRow (w : FeatureRecord) (rows : List FeatureRow) :
    (putFeatureRow w rows).map (·.position) = rows.map (·.position)
      ∨ (putFeatureRow w rows).map (·.position) = rows.map (·.position) ++ [nextPosition rows] := by
  rw [putFeatureRow_eq]
  exact map_putKeyed fun _ => rfl

/-- **Every write leaves keys and ids distinct.** -/
theorem Tables.Keyed.write {t : Tables} (h : t.Keyed) (w : Write) : (t.write w).Keyed := by
  cases w with
  | putParam key value =>
      refine ⟨?_, h.features⟩
      rw [Tables.write, putParamRow_eq]
      exact nodup_putKeyed (fun _ hr => hr) rfl h.params
  | putFeature record =>
      refine ⟨h.params, ?_⟩
      rw [Tables.write, putFeatureRow_eq]
      exact nodup_putKeyed (fun _ hr => hr) rfl h.features
  | removeFeature id => exact ⟨h.params, h.features.sublist (List.filter_sublist.map _)⟩
  | lockParam key locked =>
      have hkeys : ((t.write (.lockParam key locked)).params).map (·.key) = t.params.map (·.key) :=
        map_updated (fun r : ParamRow => { r with locked }) (fun _ _ => rfl) t.params
      exact ⟨hkeys ▸ h.params, h.features⟩
  | lockFeature id locked =>
      have hids : ((t.write (.lockFeature id locked)).features).map (·.id) = t.features.map (·.id) :=
        map_updated (fun r : FeatureRow => { r with locked }) (fun _ _ => rfl) t.features
      exact ⟨h.params, hids ▸ h.features⟩

theorem nextPosition_congr {rows rows' : List FeatureRow} (h : rows.map (·.position) = rows'.map (·.position)) :
    nextPosition rows = nextPosition rows' := by
  rw [nextPosition, nextPosition, h]

/-- A row at the next position is followed by the one after it. -/
theorem nextPosition_append {rows : List FeatureRow} {r : FeatureRow} (h : r.position = nextPosition rows) :
    nextPosition (rows ++ [r]) = min (nextPosition rows + 1) positionLimit := by
  rw [nextPosition] at h
  rw [nextPosition, nextPosition, List.map_append, List.map_singleton]
  cases hmax : (rows.map (·.position)).max? with
  | none =>
      rw [hmax] at h
      rw [List.max?_eq_none_iff.1 hmax, List.nil_append, List.max?_singleton, h]
  | some p =>
      rw [hmax] at h
      obtain ⟨hmem, hle⟩ := List.max?_eq_some_iff.1 hmax
      have hmax' : (rows.map (·.position) ++ [r.position]).max? = some (max p r.position) := by
        rw [List.max?_eq_some_iff]
        constructor
        · rcases le_total p r.position with hlt | hlt
          · rw [max_eq_right hlt]
            exact List.mem_append_right _ List.mem_cons_self
          · rw [max_eq_left hlt]
            exact List.mem_append_left _ hmem
        · intro q hq
          rcases List.mem_append.1 hq with hq | hq
          · exact le_trans (hle q hq) (le_max_left p r.position)
          · rw [List.mem_singleton.1 hq]
            exact le_max_right p r.position
      simp only [hmax']
      simp only at h
      omega

/-- **Records with different ids are put into their rows by one pass**, and new rows follow, at the positions after
    all others. -/
theorem foldl_putFeatureRow {ws : List FeatureRecord} (hws : DistinctIds ws) {rows : List FeatureRow}
    (hrows : (rows.map (·.id)).Nodup) :
    ws.foldl (fun rows w => putFeatureRow w rows) rows
      = rows.map (·.overlaid ws) ++ newRows (nextPosition rows) (ws.filter fun w => w.id ∉ rows.map (·.id)) := by
  induction ws generalizing rows with
  | nil =>
      simp only [List.foldl_nil, FeatureRow.overlaid_nil, List.map_id', List.filter_nil, newRows, List.append_nil]
  | cons w ws ih =>
      obtain ⟨hhead, htail⟩ := hws.of_cons
      have hw : recordAt? ws w.id = none := recordAt?_eq_none_iff.2 hhead
      rw [List.foldl_cons, putFeatureRow_eq, List.filter_cons]
      by_cases hin : w.id ∈ rows.map (·.id)
      · -- the row is there
        have hone : putKeyed (·.id) w.id (·.holding w) (w.rowAt (nextPosition rows)) rows
            = rows.map fun r => if r.id = w.id then r.holding w else r :=
          putKeyed_of_present hrows (List.mem_map.1 hin)
        have hids : (rows.map fun r => if r.id = w.id then r.holding w else r).map (·.id) = rows.map (·.id) :=
          map_updated (·.holding w) (fun _ _ => rfl) rows
        have hpositions : (rows.map fun r => if r.id = w.id then r.holding w else r).map (·.position)
            = rows.map (·.position) := map_updated (·.holding w) (fun _ _ => rfl) rows
        rw [hone, ih htail (hids ▸ hrows), hids, nextPosition_congr hpositions, List.map_map,
          if_neg (by simpa using hin)]
        congr 1
        apply List.map_congr_left
        intro r _
        rw [Function.comp_apply, FeatureRow.overlaid, FeatureRow.overlaid, recordAt?_cons]
        by_cases hr : r.id = w.id
        · have hnone : recordAt? ws (r.holding w).id = none := by
            rw [← hw, ← hr]
            rfl
          simp only [if_pos hr, if_pos hr.symm, hnone]
        · rw [if_neg hr, if_neg (Ne.symm hr)]
      · -- the row is new
        have habsent : ∀ r ∈ rows, r.id ≠ w.id := fun r hr heq => hin (List.mem_map.2 ⟨r, hr, heq⟩)
        have hids : (rows ++ [w.rowAt (nextPosition rows)]).map (·.id)
            = rows.map (·.id) ++ [w.id] := List.map_append
        have hnodup : (rows.map (·.id) ++ [w.id]).Nodup :=
          hrows.append (List.nodup_singleton _) (List.disjoint_singleton.2 hin)
        have hfilter : (ws.filter fun x => x.id ∉ rows.map (·.id) ++ [w.id])
            = ws.filter fun x => x.id ∉ rows.map (·.id) := by
          apply List.filter_congr
          intro x hx
          simp [hhead x hx]
        have hmap : (rows.map fun r => r.overlaid (w :: ws)) = rows.map fun r => r.overlaid ws := by
          apply List.map_congr_left
          intro r hr
          rw [FeatureRow.overlaid, FeatureRow.overlaid, recordAt?_cons, if_neg (Ne.symm (habsent r hr))]
        have hkept : (w.rowAt (nextPosition rows)).overlaid ws = w.rowAt (nextPosition rows) := by
          rw [FeatureRow.overlaid, FeatureRecord.id_rowAt, hw]
        rw [putKeyed_of_absent habsent, ih htail (hids ▸ hnodup), hids, hfilter, nextPosition_append rfl, hmap,
          if_pos (by simpa using hin), List.map_append, List.map_singleton, hkept, newRows, List.append_assoc,
          List.singleton_append]

/-! ## The listing -/

theorem insertListed_perm (r : FeatureRow) (rows : List FeatureRow) : (insertListed r rows).Perm (r :: rows) := by
  induction rows with
  | nil => exact .refl _
  | cons x rest ih =>
      rw [insertListed]
      split
      · exact (ih.cons x).trans (.swap r x rest)
      · exact .refl _

/-- A listing has the rows of the table. -/
theorem listed_perm (rows : List FeatureRow) : (listed rows).Perm rows := by
  induction rows with
  | nil => exact .refl _
  | cons r rest ih => exact (insertListed_perm r _).trans (ih.cons r)

/-- **Rows that keep their ids and positions keep their places in the listing.** -/
theorem listed_map {f : FeatureRow → FeatureRow} (hid : ∀ r, (f r).id = r.id)
    (hposition : ∀ r, (f r).position = r.position) (rows : List FeatureRow) :
    listed (rows.map f) = (listed rows).map f := by
  have hprecedes : ∀ a b, (f a).precedes (f b) = a.precedes b := by
    intro a b
    rw [FeatureRow.precedes, FeatureRow.precedes, hid, hid, hposition, hposition]
  have hinsert : ∀ r rest, insertListed (f r) (rest.map f) = (insertListed r rest).map f := by
    intro r rest
    induction rest with
    | nil => rfl
    | cons x rest ih =>
        rw [List.map_cons, insertListed, insertListed, hprecedes, ih]
        split <;> rfl
  induction rows with
  | nil => rfl
  | cons r rest ih =>
      show insertListed (f r) (listed (rest.map f)) = (insertListed r (listed rest)).map f
      rw [ih, hinsert]

theorem not_precedes_of_lt {r x : FeatureRow} (h : r.position < x.position) : x.precedes r = false := by
  have hlt : ¬ x.position < r.position := by omega
  have hne : ¬ x.position = r.position := by omega
  rw [FeatureRow.precedes, decide_eq_false hlt, beq_false_of_ne hne]
  rfl

theorem insertListed_append {r : FeatureRow} {after : List FeatureRow} (h : ∀ x ∈ after, r.position < x.position)
    (rows : List FeatureRow) : insertListed r (rows ++ after) = insertListed r rows ++ after := by
  induction rows with
  | nil =>
      cases after with
      | nil => rfl
      | cons x rest =>
          show (if x.precedes r then x :: insertListed r rest else r :: x :: rest) = r :: x :: rest
          rw [not_precedes_of_lt (h x List.mem_cons_self)]
          rfl
  | cons x rest ih =>
      rw [List.cons_append, insertListed, insertListed, ih]
      split <;> rfl

/-- Rows behind all others are listed behind them. -/
theorem listed_append {rows after : List FeatureRow} (h : ∀ r ∈ rows, ∀ x ∈ after, r.position < x.position) :
    listed (rows ++ after) = listed rows ++ listed after := by
  induction rows with
  | nil => rfl
  | cons r rest ih =>
      rw [List.forall_mem_cons] at h
      have hafter : ∀ x ∈ listed after, r.position < x.position := fun x hx =>
        h.1 x ((listed_perm after).mem_iff.1 hx)
      show insertListed r (listed (rest ++ after)) = insertListed r (listed rest) ++ listed after
      rw [ih h.2, insertListed_append hafter]

theorem le_of_mem_newRows {q : Int} (hq : q ≤ positionLimit) (ws : List FeatureRecord) :
    ∀ r ∈ newRows q ws, q ≤ r.position := by
  induction ws generalizing q with
  | nil => simp [newRows]
  | cons w ws ih =>
      rw [newRows, List.forall_mem_cons]
      refine ⟨le_refl q, fun r hr => ?_⟩
      have := ih (min_le_right (q + 1) positionLimit) r hr
      omega

/-- New rows are listed in their order if there are positions for all of them. -/
theorem listed_newRows {ws : List FeatureRecord} {q : Int} (h : q + ws.length ≤ positionLimit + 1) :
    listed (newRows q ws) = newRows q ws := by
  induction ws generalizing q with
  | nil => rfl
  | cons w ws ih =>
      rw [List.length_cons] at h
      cases ws with
      | nil => rfl
      | cons w' ws =>
          have hroom : q + 1 ≤ positionLimit := by
            rw [List.length_cons] at h
            omega
          have hbehind : ∀ x ∈ newRows (q + 1) (w' :: ws), (w.rowAt q).position < x.position := by
            intro x hx
            have := le_of_mem_newRows hroom _ x hx
            show q < x.position
            omega
          rw [newRows, min_eq_left hroom]
          show insertListed (w.rowAt q) (listed (newRows (q + 1) (w' :: ws))) = _
          rw [ih (by omega)]
          exact insertListed_append hbehind []

/-- There are positions for some new rows behind all others. -/
def HasRoom (rows : List FeatureRow) (count : Nat) : Prop :=
  count = 0 ∨ (count : Int) ≤ positionLimit ∧ ∀ r ∈ rows, r.position + count ≤ positionLimit

theorem HasRoom.map {rows : List FeatureRow} {count : Nat} (h : HasRoom rows count) {f : FeatureRow → FeatureRow}
    (hposition : ∀ r, (f r).position = r.position) : HasRoom (rows.map f) count := by
  refine h.imp_right fun ⟨hcount, hroom⟩ => ⟨hcount, ?_⟩
  rw [List.forall_mem_map]
  intro r hr
  rw [hposition]
  exact hroom r hr

/-- **New rows are listed behind the old ones and in their order**, as long as there is room. -/
theorem listed_append_newRows {rows : List FeatureRow} {ws : List FeatureRecord} (h : HasRoom rows ws.length) :
    listed (rows ++ newRows (nextPosition rows) ws) = listed rows ++ newRows (nextPosition rows) ws := by
  cases ws with
  | nil => rw [newRows, List.append_nil, List.append_nil]
  | cons w ws =>
      obtain ⟨hcount, hroom⟩ := h.resolve_left (by simp)
      -- the first new row has a position of its own, and so has each one after it
      have hnext : (∀ r ∈ rows, r.position < nextPosition rows) ∧ nextPosition rows ≤ positionLimit
          ∧ nextPosition rows + (w :: ws).length ≤ positionLimit + 1 := by
        rw [List.length_cons] at hcount hroom ⊢
        rw [nextPosition]
        cases hmax : (rows.map (·.position)).max? with
        | none =>
            have hnil : rows = [] := List.map_eq_nil_iff.1 (List.max?_eq_none_iff.1 hmax)
            rw [hnil]
            refine ⟨fun r hr => absurd hr List.not_mem_nil, ?_, ?_⟩
            · show 0 ≤ positionLimit
              omega
            · show 0 + ((ws.length + 1 : Nat) : Int) ≤ positionLimit + 1
              omega
        | some p =>
            obtain ⟨hmem, hle⟩ := List.max?_eq_some_iff.1 hmax
            obtain ⟨r, hr, hp⟩ := List.mem_map.1 hmem
            have hlast := hroom r hr
            rw [hp] at hlast
            have hstep : min (p + 1) positionLimit = p + 1 := min_eq_left (by omega)
            simp only [hstep]
            refine ⟨fun x hx => ?_, ?_, ?_⟩
            · have := hle x.position (List.mem_map_of_mem hx)
              omega
            · omega
            · omega
      have hbehind : ∀ r ∈ rows, ∀ x ∈ newRows (nextPosition rows) (w :: ws), r.position < x.position :=
        fun r hr x hx => lt_of_lt_of_le (hnext.1 r hr) (le_of_mem_newRows hnext.2.1 _ x hx)
      rw [listed_append hbehind, listed_newRows hnext.2.2]

/-! ## Records in rows -/

theorem readRecord_holding (r : FeatureRow) (w : FeatureRecord) :
    TableStore.readRecord (r.holding w) = .ok ⟨r.id, w.type, w.fields⟩ := by
  rw [TableStore.readRecord, FeatureRow.holding, Json.readFields_writeFields]

theorem readRecord_rowAt (w : FeatureRecord) (position : Int) : TableStore.readRecord (w.rowAt position) = .ok w := by
  rw [TableStore.readRecord, FeatureRecord.rowAt, Json.readFields_writeFields]

theorem id_of_readRecord {r : FeatureRow} {w : FeatureRecord} (h : TableStore.readRecord r = .ok w) : w.id = r.id := by
  rw [TableStore.readRecord] at h
  split at h
  · cases h
    rfl
  · cases h

/-- These are the records in rows, one by one. -/
def Holds (rows : List FeatureRow) (rs : List FeatureRecord) : Prop :=
  List.Forall₂ (fun r w => TableStore.readRecord r = .ok w) rows rs

/-- Rows can be read when each of them can. -/
theorem readRecords_eq_ok_iff {rows : List FeatureRow} {rs : List FeatureRecord} :
    TableStore.readRecords rows = .ok rs ↔ Holds rows rs := by
  induction rows generalizing rs with
  | nil => cases rs <;> simp [TableStore.readRecords, Holds]
  | cons r rest ih =>
      rw [Holds, List.forall₂_cons_left_iff, TableStore.readRecords]
      cases hr : TableStore.readRecord r with
      | error e => simp [bind, Except.bind]
      | ok record =>
          cases hrest : TableStore.readRecords rest with
          | error e =>
              have hno : ∀ rs', ¬ Holds rest rs' := by
                intro rs' hrs'
                rw [← ih, hrest] at hrs'
                cases hrs'
              simp only [bind, Except.bind, reduceCtorEq, false_iff, not_exists, not_and]
              exact fun w rs' _ hrs' _ => hno rs' hrs'
          | ok records =>
              simp only [bind, Except.bind, pure, Except.pure, Except.ok.injEq]
              constructor
              · intro h
                exact ⟨record, records, rfl, ih.1 hrest, h.symm⟩
              · rintro ⟨w, rs', rfl, hrs', rfl⟩
                rw [← Holds, ← ih, hrest] at hrs'
                rw [Except.ok.inj hrs']

namespace Holds

variable {rows : List FeatureRow} {rs : List FeatureRecord}

theorem ids (h : Holds rows rs) : rs.map (·.id) = rows.map (·.id) := by
  induction h with
  | nil => rfl
  | cons hread _ ih => rw [List.map_cons, List.map_cons, ih, id_of_readRecord hread]

/-- A record is held by one of the rows. -/
theorem row_of_mem (h : Holds rows rs) {r : FeatureRecord} (hr : r ∈ rs) :
    ∃ row ∈ rows, TableStore.readRecord row = .ok r := by
  induction h with
  | nil => cases hr
  | @cons row _ _ _ hread _ ih =>
      rcases List.mem_cons.1 hr with rfl | hr
      · exact ⟨row, List.mem_cons_self, hread⟩
      · obtain ⟨row', hrow', hread'⟩ := ih hr
        exact ⟨row', List.mem_cons_of_mem row hrow', hread'⟩

/-- Rows in another order hold the same records in another order. -/
theorem perm {rows' : List FeatureRow} (h : Holds rows rs) (hp : rows'.Perm rows) :
    ∃ rs', Holds rows' rs' ∧ rs'.Perm rs :=
  List.perm_comp_forall₂ hp h

theorem append {rows' : List FeatureRow} {rs' : List FeatureRecord} (h : Holds rows rs) (h' : Holds rows' rs') :
    Holds (rows ++ rows') (rs ++ rs') :=
  List.rel_append h h'

/-- Rows that get the records written for them hold these, and the others what they held. -/
theorem overlaid (h : Holds rows rs) (ws : List FeatureRecord) :
    Holds (rows.map (·.overlaid ws)) (rs.map fun r => (recordAt? ws r.id).getD r) := by
  rw [Holds, List.forall₂_map_left_iff, List.forall₂_map_right_iff]
  refine h.imp fun r w hread => ?_
  rw [id_of_readRecord hread, FeatureRow.overlaid]
  cases hw : recordAt? ws r.id with
  | none => exact hread
  | some w' => simp only [Option.getD_some, readRecord_holding, ← id_of_recordAt? hw]

/-- A record that is put into its row takes the place that it takes in the list. -/
theorem put (h : Holds rows rs) (w : FeatureRecord) : Holds (putFeatureRow w rows) (replaceOrAppend w rs) := by
  have hids : ∀ (r : FeatureRow) (x : FeatureRecord), TableStore.readRecord r = .ok x → r.id = x.id :=
    fun _ _ hread => (id_of_readRecord hread).symm
  have hupdate : ∀ (r : FeatureRow) (x : FeatureRecord), TableStore.readRecord r = .ok x → r.id = w.id →
      TableStore.readRecord (r.holding w) = .ok w := by
    intro r x _ hid
    rw [readRecord_holding, hid]
  rw [putFeatureRow_eq, replaceOrAppend_eq]
  exact forall₂_putKeyed hids hupdate (readRecord_rowAt w _) h

/-- So does one whose row is removed. -/
theorem remove (h : Holds rows rs) (id : String) : Holds (rows.filter (·.id != id)) (rs.filter (·.id != id)) := by
  have hids : ∀ (r : FeatureRow) (x : FeatureRecord), TableStore.readRecord r = .ok x →
      ((r.id != id) = true ↔ (x.id != id) = true) := by
    intro r x hread
    rw [id_of_readRecord hread]
  exact List.rel_filter hids h

/-- A lock is not part of a record. -/
theorem lock (h : Holds rows rs) (id : String) (locked : Bool) :
    Holds (rows.map fun r => if r.id = id then { r with locked } else r) rs := by
  rw [Holds, List.forall₂_map_left_iff]
  refine h.imp fun r w hread => ?_
  split
  · exact hread
  · exact hread

theorem newRows (position : Int) (ws : List FeatureRecord) : Holds (GuardedPatch.newRows position ws) ws := by
  induction ws generalizing position with
  | nil => exact .nil
  | cons w ws ih => exact .cons (readRecord_rowAt w position) (ih _)

end Holds

end GuardedPatch
