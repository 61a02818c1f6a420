import GuardedPatch.CommandLine.StoreRequest
import GuardedPatch.Log.Event
import GuardedPatch.Proofs.Keyed
import GuardedPatch.Proofs.TextMap
import GuardedPatch.Run.Step

set_option autoImplicit false

/-! # The same but for secrets

Two maps are the same but for secrets if they have the same names, and the same values at all names that are not those
of secret fields. From such maps the same is shown (`TextMap.SameButSecrets.shown_eq`), and laying one over another keeps
them so.

A change is compared with a record, and how that comes out can be seen from what the change is said to do. So two
pairs of a change and a record only come to the same if each secret of the change is in its record on both sides or on
neither (`AgreeAlike`); then the two steps are the same but for secrets (`FeatureChange.SameButSecrets.step`). -/

namespace GuardedPatch

namespace TextMap

/-! ## Fields -/

/-- The same names, and the same values but for those of secret fields. -/
structure SameButSecrets (m m' : TextMap) : Prop where
  names : ∀ name, (m.get? name).isSome = (m'.get? name).isSome
  values : ∀ name, isSecretField name = false → m.get? name = m'.get? name

/-- A field's value as it may be shown. -/
def shownValue (name value : String) : String :=
  if isSecretField name then redacted else value

/-- The entries as they may be shown, with the fixed text in place of secrets. -/
def shown (m : TextMap) : List (String × String) :=
  m.entries.map fun e => (e.1, shownValue e.1 e.2)

namespace SameButSecrets

variable {m m' desired desired' : TextMap}

theorem refl (m : TextMap) : m.SameButSecrets m := ⟨fun _ => rfl, fun _ _ => rfl⟩

theorem symm (h : m.SameButSecrets m') : m'.SameButSecrets m :=
  ⟨fun name => (h.names name).symm, fun name hname => (h.values name hname).symm⟩

theorem shown_eq (h : m.SameButSecrets m') : m.shown = m'.shown := by
  have hsorted (n : TextMap) : n.shown.Pairwise fun a b => a.1 < b.1 := List.pairwise_map.2 n.sorted
  refine entries_eq_of_lookup (hsorted m) (hsorted m') fun name => ?_
  rw [shown, shown, lookup_map shownValue, lookup_map shownValue]
  cases hsecret : isSecretField name with
  | false =>
      have hvalue : m.entries.lookup name = m'.entries.lookup name := h.values name hsecret
      rw [hvalue]
  | true =>
      have hname : (m.entries.lookup name).isSome = (m'.entries.lookup name).isSome := h.names name
      have hconst : shownValue name = fun _ => redacted := funext fun _ => if_pos hsecret
      rw [hconst]
      cases hm : m.entries.lookup name <;> cases hm' : m'.entries.lookup name
      · rfl
      · simp [hm, hm'] at hname
      · simp [hm, hm'] at hname
      · rfl

theorem of_shown_eq (h : m.shown = m'.shown) : m.SameButSecrets m' := by
  have hlookup (name : String) : (m.get? name).map (shownValue name) = (m'.get? name).map (shownValue name) := by
    rw [get?, get?, ← lookup_map, ← lookup_map]
    exact congrArg (·.lookup name) h
  refine ⟨fun name => ?_, fun name hname => ?_⟩
  · rw [← Option.isSome_map, hlookup, Option.isSome_map]
  · have hself : shownValue name = id := funext fun _ => if_neg (by rw [hname]; exact Bool.false_ne_true)
    have hvalue := hlookup name
    rwa [hself, Option.map_id, id, id] at hvalue

theorem keys_eq (h : m.SameButSecrets m') : m.keys = m'.keys := by
  have hkeys (n : TextMap) : n.keys = n.shown.map (·.1) := by
    rw [shown, List.map_map]
    rfl
  rw [hkeys, hkeys, h.shown_eq]

/-- Laying one map over another keeps secrets apart. -/
theorem overlaid (h : m.SameButSecrets m') (hdesired : desired.SameButSecrets desired') :
    (m.insertAll desired.entries).SameButSecrets (m'.insertAll desired'.entries) where
  names name := by
    rw [get?_overlaid, get?_overlaid, Option.isSome_or, Option.isSome_or, h.names, hdesired.names]
  values name hname := by
    rw [get?_overlaid, get?_overlaid, h.values name hname, hdesired.values name hname]

end SameButSecrets

/-- **Maps are the same but for secrets exactly if they are shown alike.** -/
theorem sameButSecrets_iff {m m' : TextMap} : m.SameButSecrets m' ↔ m.shown = m'.shown :=
  ⟨SameButSecrets.shown_eq, .of_shown_eq⟩

instance (m m' : TextMap) : Decidable (m.SameButSecrets m') :=
  decidable_of_iff _ sameButSecrets_iff.symm

end TextMap

/-! ## Records and changes -/

/-- The same record but for its secrets. -/
structure FeatureRecord.SameButSecrets (r r' : FeatureRecord) : Prop where
  id : r.id = r'.id
  type : r.type = r'.type
  fields : r.fields.SameButSecrets r'.fields

/-- The same change but for the secrets that it asks for. -/
structure FeatureChange.SameButSecrets (c c' : FeatureChange) : Prop where
  id : c.id = c'.id
  type? : c.type? = c'.type?
  mode : c.mode = c'.mode
  desired : c.desired.SameButSecrets c'.desired

/-- The same document but for the secrets that it asks for. -/
structure Document.SameButSecrets (d d' : Document) : Prop where
  project : d.project = d'.project
  params : d.params = d'.params
  features : List.Forall₂ FeatureChange.SameButSecrets d.features d'.features

theorem FeatureRecord.SameButSecrets.refl (r : FeatureRecord) : r.SameButSecrets r := ⟨rfl, rfl, .refl _⟩

/-- **Records that are the same but for secrets are listed alike.** -/
theorem FeatureRecord.SameButSecrets.masked {r r' : FeatureRecord} (h : r.SameButSecrets r') :
    r.masked = r'.masked := by
  have hmasked (r : FeatureRecord) : r.masked = ⟨r.id, r.type, .ofList r.fields.shown⟩ := rfl
  rw [hmasked, hmasked, h.id, h.type, h.fields.shown_eq]

/-- **The log shows the same of both documents.** -/
theorem Document.SameButSecrets.changeEvents {d d' : Document} (h : d.SameButSecrets d') :
    Log.changeEvents d = Log.changeEvents d' := by
  have hfeature (c : FeatureChange) :
      (c.desired.entries.map fun e => Log.Event.featureField c.id e.1
        (if isSecretField e.1 then (Sensitive.mk e.2).shown else e.2))
        = c.desired.shown.map fun e => .featureField c.id e.1 e.2 := by
    rw [TextMap.shown, List.map_map]
    rfl
  rw [Log.changeEvents, Log.changeEvents, h.params]
  simp only [hfeature]
  congr 1
  have hfeatures := h.features
  generalize d.features = cs at hfeatures
  generalize d'.features = cs' at hfeatures
  induction hfeatures with
  | nil => rfl
  | cons hc _ ih => rw [List.flatMap_cons, List.flatMap_cons, hc.id, hc.desired.shown_eq, ih]

/-! ## Comparing a change with a record -/

/-- A secret that a change asks for is in its record in the first pair exactly if it is in the second one. -/
def AgreeAlike (c c' : FeatureChange) (r r' : FeatureRecord) : Prop :=
  ∀ name, isSecretField name = true → (c.desired.get? name).isSome = true →
    (r.fields.get? name = c.desired.get? name ↔ r'.fields.get? name = c'.desired.get? name)

/-- It is enough to look at the names that the change lists. -/
theorem agreeAlike_iff {c c' : FeatureChange} {r r' : FeatureRecord} :
    AgreeAlike c c' r r' ↔ ∀ name ∈ c.desired.keys, isSecretField name = true →
      (r.fields.get? name = c.desired.get? name ↔ r'.fields.get? name = c'.desired.get? name) := by
  have hlisted (name : String) : (c.desired.get? name).isSome = true ↔ name ∈ c.desired.keys := by
    rw [TextMap.keys, TextMap.get?, List.lookup_isSome_iff]
    simp
  exact ⟨fun h name hname hsecret => h name hsecret ((hlisted name).2 hname),
    fun h name hsecret hname => h name ((hlisted name).1 hname) hsecret⟩

instance (c c' : FeatureChange) (r r' : FeatureRecord) : Decidable (AgreeAlike c c' r r') :=
  decidable_of_iff _ agreeAlike_iff.symm

namespace AgreeAlike

variable {c c' : FeatureChange} {r r' : FeatureRecord}

theorem symm (h : AgreeAlike c c' r r') (hc : c.SameButSecrets c') : AgreeAlike c' c r' r :=
  fun name hsecret hname => (h name hsecret (by rw [hc.desired.names, hname])).symm

/-- So it is for all names that the change lists. -/
theorem get?_iff (h : AgreeAlike c c' r r') (hc : c.SameButSecrets c') (hr : r.SameButSecrets r') {name : String}
    (hname : (c.desired.get? name).isSome = true) :
    r.fields.get? name = c.desired.get? name ↔ r'.fields.get? name = c'.desired.get? name := by
  cases hsecret : isSecretField name with
  | true => exact h name hsecret hname
  | false => rw [hr.fields.values name hsecret, hc.desired.values name hsecret]

theorem fields_eq (h : AgreeAlike c c' r r') (hc : c.SameButSecrets c') (hr : r.SameButSecrets r')
    (hsame : r.fields = c.desired) : r'.fields = c'.desired := by
  apply TextMap.ext_get?
  intro name
  cases hname : c.desired.get? name with
  | some value => exact (h.get?_iff hc hr (by rw [hname, Option.isSome_some])).1 (by rw [hsame])
  | none =>
      -- what the change does not list is not in the record either
      have hdesired := hc.desired.names name
      have hfields := hr.fields.names name
      rw [hsame, hname, Option.isSome_none, eq_comm, Option.isSome_eq_false_iff, Option.isNone_iff_eq_none] at hfields
      rw [hname, Option.isSome_none, eq_comm, Option.isSome_eq_false_iff, Option.isNone_iff_eq_none] at hdesired
      rw [hfields, hdesired]

/-- A record has exactly the fields that a change asks for on both sides or on neither. -/
theorem fields_eq_iff (h : AgreeAlike c c' r r') (hc : c.SameButSecrets c') (hr : r.SameButSecrets r') :
    r.fields = c.desired ↔ r'.fields = c'.desired :=
  ⟨h.fields_eq hc hr, (h.symm hc).fields_eq ⟨hc.id.symm, hc.type?.symm, hc.mode.symm, hc.desired.symm⟩
    ⟨hr.id.symm, hr.type.symm, hr.fields.symm⟩⟩

/-- The same fields get another value. -/
theorem mergedWith_snd (h : AgreeAlike c c' r r') (hc : c.SameButSecrets c') (hr : r.SameButSecrets r') :
    (r.mergedWith c.desired).2 = (r'.mergedWith c'.desired).2 := by
  rw [FeatureRecord.mergedWith_snd_eq, FeatureRecord.mergedWith_snd_eq, ← hc.desired.keys_eq]
  refine List.filter_congr fun name hname => ?_
  obtain ⟨e, he, rfl⟩ := List.mem_map.1 hname
  have hlisted : (c.desired.get? e.1).isSome = true := by rw [c.desired.get?_of_mem he, Option.isSome_some]
  rw [decide_eq_decide, not_iff_not]
  exact h.get?_iff hc hr hlisted

end AgreeAlike

/-! ## Targets and steps -/

/-- Two changes land on records that are the same but for secrets and agree alike with what the changes ask for. -/
inductive Target.AgreeAlike (c c' : FeatureChange) : Target → Target → Prop
  | create {replaces replaces' : Option FeatureRecord} :
    Option.Rel (fun r r' => r.SameButSecrets r' ∧ GuardedPatch.AgreeAlike c c' r r') replaces replaces' →
      AgreeAlike c c' (.create replaces) (.create replaces')
  | update {existing existing' : FeatureRecord} :
    existing.SameButSecrets existing' → GuardedPatch.AgreeAlike c c' existing existing' →
      AgreeAlike c c' (.update existing) (.update existing')

/-- The same step but for the secrets of the records that it puts in or takes the place of. -/
inductive Step.SameButSecrets : Step → Step → Prop
  | setParam (c : ParamChange) : SameButSecrets (.setParam c) (.setParam c)
  | putFeature {record record' : FeatureRecord} {previous previous' : Option FeatureRecord} (outcome : FeatureOutcome) :
    record.SameButSecrets record' → Option.Rel FeatureRecord.SameButSecrets previous previous' →
      SameButSecrets (.putFeature record previous outcome) (.putFeature record' previous' outcome)

theorem Step.SameButSecrets.addTo {step step' : Step} (h : step.SameButSecrets step') (result : ApplyResult) :
    step.addTo result = step'.addTo result := by
  cases h <;> rfl

namespace FeatureChange.SameButSecrets

variable {c c' : FeatureChange}

/-- Changes land alike among records that correspond to each other. -/
theorem target? (hc : c.SameButSecrets c') {records records' : List FeatureRecord}
    (hrecords : List.Forall₂ (fun r r' => r.SameButSecrets r' ∧ (r.id = c.id → AgreeAlike c c' r r')) records records') :
    Option.Rel (Target.AgreeAlike c c') (c.target? records) (c'.target? records') := by
  rw [FeatureChange.target?, FeatureChange.target?, ← hc.mode]
  cases c.mode with
  | create =>
      refine .some (.create (rel_find? hrecords (fun r r' h => ?_) fun r r' h hfound => ?_))
      · rw [h.1.id, hc.id]
      · exact ⟨h.1, h.2 (beq_iff_eq.1 hfound)⟩
  | find =>
      have hfind : Option.Rel (fun r r' => r.SameButSecrets r' ∧ AgreeAlike c c' r r') (records.find? c.selects)
          (records'.find? c'.selects) := by
        refine rel_find? hrecords (fun r r' h => ?_) fun r r' h hfound => ⟨h.1, h.2 ?_⟩
        · rw [FeatureChange.selects, FeatureChange.selects, h.1.id, hc.id, hc.type?, h.1.type]
        · rw [FeatureChange.selects, Bool.and_eq_true, beq_iff_eq] at hfound
          exact hfound.1
      generalize records.find? c.selects = found at hfind
      generalize records'.find? c'.selects = found' at hfind
      cases hfind with
      | none => exact .none
      | some h => exact .some (.update h.1 h.2)

/-- **The steps are the same but for secrets**, down to what they are said to do. -/
theorem step (hc : c.SameButSecrets c') {target target' : Target} (h : target.AgreeAlike c c' target') :
    (c.step target).SameButSecrets (c'.step target') := by
  cases h with
  | @create replaces replaces' hrel =>
      have hrecord : FeatureRecord.SameButSecrets ⟨c.id, c.type?.getD "", c.desired⟩
          ⟨c'.id, c'.type?.getD "", c'.desired⟩ := ⟨hc.id, congrArg (·.getD "") hc.type?, hc.desired⟩
      -- the record that is wanted is there on both sides or on neither
      have hthere : replaces = some ⟨c.id, c.type?.getD "", c.desired⟩
          ↔ replaces' = some ⟨c'.id, c'.type?.getD "", c'.desired⟩ := by
        cases hrel with
        | none => simp
        | @some r r' h =>
            obtain ⟨hr, hagree⟩ := h
            have hfields := hagree.fields_eq_iff hc hr
            obtain ⟨id, type, fields⟩ := r
            obtain ⟨id', type', fields'⟩ := r'
            obtain ⟨rfl, rfl, -⟩ := hr
            simp only [Option.some.injEq, FeatureRecord.mk.injEq, hc.id, hc.type?, hfields]
      have hprevious : Option.Rel FeatureRecord.SameButSecrets replaces replaces' := by
        cases hrel with
        | none => exact .none
        | some h => exact .some h.1
      rw [FeatureChange.step, FeatureChange.step]
      by_cases hsame : replaces = some ⟨c.id, c.type?.getD "", c.desired⟩
      · rw [if_pos hsame, if_pos (hthere.1 hsame), ← hc.id]
        exact .putFeature _ (hc.id ▸ hrecord) hprevious
      · rw [if_neg hsame, if_neg (mt hthere.2 hsame), ← hc.desired.keys_eq, ← hc.id]
        exact .putFeature _ (hc.id ▸ hrecord) hprevious
  | @update existing existing' hexisting hagree =>
      have hchanged := hagree.mergedWith_snd hc hexisting
      have hmerged : (existing.mergedWith c.desired).1.SameButSecrets (existing'.mergedWith c'.desired).1 := by
        rw [FeatureRecord.mergedWith_fst, FeatureRecord.mergedWith_fst]
        exact ⟨hexisting.id, hexisting.type, hexisting.fields.overlaid hc.desired⟩
      rw [FeatureChange.step, FeatureChange.step]
      simp only [← hchanged, ← hc.id]
      exact .putFeature _ hmerged (.some hexisting)

end FeatureChange.SameButSecrets

end GuardedPatch
