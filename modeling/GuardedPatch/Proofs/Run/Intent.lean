import GuardedPatch.Proofs.Records
import GuardedPatch.Proofs.TextMap
import GuardedPatch.Run.Step

set_option autoImplicit false

/-! # What a document intends

What a document comes to on given parameters and records, said without reports, steps or stores: which parameter
changes are due, the record that each feature change wants, what is there afterwards, and the result that tells of
it. These definitions are what validating and applying are measured against. The steps of a validated document are
the ones that they spell out (`FeatureChange.step_eq_stepIn`). -/

namespace GuardedPatch

/-! ## Parameters -/

/-- A parameter change is due when its parameter has the expected value. -/
def ParamChange.dueIn (c : ParamChange) (params : TextMap) : Bool :=
  params.get? c.key == some c.expected

/-- The value of a parameter afterwards. -/
def Document.valueAfter (d : Document) (params : TextMap) (key : String) : Option String :=
  match d.params.find? fun c => c.key == key && c.dueIn params with
  | some c => some c.update
  | none => params.get? key

/-! ## Records -/

/-- The record that a feature change wants in the place of the current one: that one with the desired fields laid
    over its own, or else a record with exactly the desired fields. -/
def FeatureChange.wanted (c : FeatureChange) (current : Option FeatureRecord) : FeatureRecord :=
  match c.mode, current with
  | .find, some r => { r with fields := r.fields.insertAll c.desired.entries }
  | _, _ => ⟨c.id, c.type?.getD "", c.desired⟩

/-- A feature change alters records when they do not hold the wanted one yet. -/
def FeatureChange.altersIn (c : FeatureChange) (records : List FeatureRecord) : Bool :=
  recordAt? records c.id != some (c.wanted (recordAt? records c.id))

/-- The records that are created for new ids. -/
def Document.created (d : Document) (records : List FeatureRecord) : List FeatureRecord :=
  (d.features.filter fun c => c.mode == .create && (recordAt? records c.id).isNone).map (·.wanted none)

/-- The records afterwards: each one in its place, and those that are created for new ids after them. -/
def Document.recordsAfter (d : Document) (records : List FeatureRecord) : List FeatureRecord :=
  (records.map fun r =>
    match d.features.find? (·.id == r.id) with
    | some c => c.wanted (some r)
    | none => r)
  ++ d.created records

/-! ## Results -/

/-- What becomes of a feature: nothing if the wanted record is there; a find lists the fields that get another
    value, a create all its fields. -/
def FeatureChange.outcomeIn (c : FeatureChange) (records : List FeatureRecord) : FeatureOutcome :=
  if c.altersIn records then
    match c.mode with
    | .create => ⟨c.id, .created, c.desired.keys⟩
    | .find =>
      let stored (name : String) : Option String := (recordAt? records c.id).bind (·.fields.get? name)
      ⟨c.id, .updated, (c.desired.entries.filter fun e => stored e.1 ≠ some e.2).map (·.1)⟩
  else ⟨c.id, .unchanged, []⟩

/-- The parameters that get a new value, with the value they had. -/
def Document.appliedIn (d : Document) (params : TextMap) : List AppliedChange :=
  d.params.filterMap fun c =>
    match params.get? c.key with
    | some old => if old = c.expected then some ⟨c.key, old, c.update⟩ else none
    | none => none

/-- The parameters that are left alone, with the value they have. -/
def Document.skippedIn (d : Document) (params : TextMap) : List SkippedChange :=
  d.params.filterMap fun c =>
    match params.get? c.key with
    | some actual =>
      if actual = c.expected then none else some ⟨c.key, .expectationMismatch, c.expected, some actual⟩
    | none => some ⟨c.key, .notPresent, c.expected, none⟩

/-- The applied parameters are those that are due. -/
theorem Document.appliedIn_eq (d : Document) (params : TextMap) :
    d.appliedIn params = (d.params.filter (·.dueIn params)).map fun c => ⟨c.key, c.expected, c.update⟩ := by
  rw [appliedIn, ← List.filterMap_eq_map', List.filterMap_filter]
  congr 1
  funext c
  rw [ParamChange.dueIn]
  cases hvalue : params.get? c.key with
  | none => simp
  | some old => by_cases hold : old = c.expected <;> simp [hold]

/-- The skipped parameters are the other ones. -/
theorem Document.skippedIn_eq (d : Document) (params : TextMap) :
    d.skippedIn params = (d.params.filter fun c => !c.dueIn params).map fun c =>
      ⟨c.key, if (params.get? c.key).isSome then .expectationMismatch else .notPresent, c.expected,
        params.get? c.key⟩ := by
  rw [skippedIn, ← List.filterMap_eq_map', List.filterMap_filter]
  congr 1
  funext c
  rw [ParamChange.dueIn]
  cases hvalue : params.get? c.key with
  | none => simp
  | some actual => by_cases hactual : actual = c.expected <;> simp [hactual]

/-- The whole result. -/
def Document.resultIn (d : Document) (params : TextMap) (records : List FeatureRecord) : ApplyResult :=
  ⟨d.appliedIn params, d.skippedIn params, d.features.map (·.outcomeIn records), none⟩

/-! ## Steps -/

/-- The step that a feature change comes to. -/
def FeatureChange.stepIn (c : FeatureChange) (records : List FeatureRecord) : Step :=
  .putFeature (c.wanted (recordAt? records c.id)) (recordAt? records c.id) (c.outcomeIn records)

/-- The steps that a document comes to. -/
def Document.stepsIn (d : Document) (params : TextMap) (records : List FeatureRecord) : List Step :=
  (d.params.filter (·.dueIn params)).map .setParam ++ d.features.map (·.stepIn records)

theorem FeatureChange.wanted_of_create {c : FeatureChange} (h : c.mode = .create) (current : Option FeatureRecord) :
    c.wanted current = ⟨c.id, c.type?.getD "", c.desired⟩ := by
  simp only [wanted, h]

theorem FeatureChange.wanted_of_find {c : FeatureChange} (h : c.mode = .find) (r : FeatureRecord) :
    c.wanted (some r) = { r with fields := r.fields.insertAll c.desired.entries } := by
  simp only [wanted, h]

theorem FeatureChange.id_wanted (c : FeatureChange) (records : List FeatureRecord) :
    (c.wanted (recordAt? records c.id)).id = c.id := by
  unfold wanted
  split
  · next r _ hcurrent =>
      show r.id = c.id
      exact id_of_recordAt? hcurrent
  · rfl

theorem FeatureChange.outcomeIn_unchanged_iff (c : FeatureChange) (records : List FeatureRecord) :
    (c.outcomeIn records).action = .unchanged ↔ recordAt? records c.id = some (c.wanted (recordAt? records c.id)) := by
  rw [outcomeIn]
  split
  · next halters =>
      have hne : recordAt? records c.id ≠ some (c.wanted (recordAt? records c.id)) := by
        simpa [altersIn] using halters
      cases c.mode <;> simp [hne]
  · next halters =>
      have heq : recordAt? records c.id = some (c.wanted (recordAt? records c.id)) := by
        simpa [altersIn] using halters
      simp [← heq]

/-- A change that finds its record finds the one with its id. -/
theorem FeatureChange.recordAt?_of_target? {c : FeatureChange} {records : List FeatureRecord}
    (hrecords : DistinctIds records) {existing : FeatureRecord} (h : c.target? records = some (.update existing)) :
    c.mode = .find ∧ recordAt? records c.id = some existing := by
  rw [target?] at h
  split at h
  · cases h
  · next hmode =>
      rw [hrecords.find?_selects, Option.map_eq_some_iff] at h
      obtain ⟨r, hr, heq⟩ := h
      cases heq
      exact ⟨hmode, (Option.filter_eq_some_iff.1 hr).1⟩

theorem FeatureChange.mode_of_target?_create {c : FeatureChange} {records : List FeatureRecord}
    {replaces : Option FeatureRecord} (h : c.target? records = some (.create replaces)) :
    c.mode = .create ∧ replaces = recordAt? records c.id := by
  rw [target?] at h
  split at h
  · next hmode =>
      cases h
      exact ⟨hmode, rfl⟩
  · rw [Option.map_eq_some_iff] at h
    obtain ⟨r, -, heq⟩ := h
    cases heq

/-- **The step of a change that lands somewhere is the one that it intends.** -/
theorem FeatureChange.step_eq_stepIn {c : FeatureChange} {records : List FeatureRecord}
    (hrecords : DistinctIds records) {target : Target} (h : c.target? records = some target) :
    c.step target = c.stepIn records := by
  cases target with
  | create replaces =>
      obtain ⟨hmode, rfl⟩ := mode_of_target?_create h
      have hwanted := wanted_of_create hmode (recordAt? records c.id)
      rw [step, stepIn, outcomeIn, altersIn, hwanted, hmode]
      by_cases hsame : recordAt? records c.id = some ⟨c.id, c.type?.getD "", c.desired⟩
      · simp [hsame]
      · simp [hsame]
  | update existing =>
      obtain ⟨hmode, hcurrent⟩ := recordAt?_of_target? hrecords h
      have hwanted : c.wanted (recordAt? records c.id) = (existing.mergedWith c.desired).1 := by
        rw [hcurrent, wanted_of_find hmode, FeatureRecord.mergedWith_fst]
      have halters : c.altersIn records = !(existing.mergedWith c.desired).2.isEmpty := by
        rw [altersIn, hwanted, hcurrent, Bool.eq_iff_iff, Bool.not_eq_true', ← Bool.not_eq_true,
          FeatureRecord.mergedWith_snd_isEmpty, bne_iff_ne, ne_eq, Option.some.injEq, eq_comm]
      rw [step, stepIn, outcomeIn, halters, hwanted, hcurrent, hmode]
      cases hempty : (existing.mergedWith c.desired).2.isEmpty with
      | true =>
          have hnil := List.isEmpty_iff.1 hempty
          simp [hnil]
      | false =>
          simp only [hempty, Bool.not_false, if_true, Bool.false_eq_true, if_false, Option.bind_some]
          rw [existing.mergedWith_snd c.desired]

end GuardedPatch
