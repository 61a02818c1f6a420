import GuardedPatch.Proofs.Run.Failures
import GuardedPatch.Proofs.Run.Validation

set_option autoImplicit false

/-! # Verdicts

What there is to be told about a store is said here without saying how it is found out: an entry for each change of a
document (`Report.Tells`), or the first thing that stands in the way (`Document.Obstructed`). Parameters come before
features, and a listing that fails comes before a record that is missing.

Validating tells just that, whatever cannot be read (`validate_exact`). It looks for the first record that a change
selects. That no other one has its id is owed to the store, whose ids are distinct (`FeatureCheck.tells_iff`). -/

namespace GuardedPatch

/-! ## Entries -/

/-- The entry of a parameter change tells how the value of the parameter, if there is one, compares to the expected
    one. -/
structure ParamCheck.Tells (value : Option String) (c : ParamChange) (check : ParamCheck) : Prop where
  key : check.key = c.key
  eligible : check.verdict = .eligible ↔ value = some c.expected
  notPresent : check.verdict = .notPresent ↔ value = none
  mismatch : ∀ actual, check.verdict = .mismatch actual ↔ value = some actual ∧ actual ≠ c.expected

/-- The entry of a feature change tells the record with its id: if there is any, for one that creates, and which one it
    is, for one that finds. -/
structure FeatureCheck.Tells (records : List FeatureRecord) (c : FeatureChange) (check : FeatureCheck) : Prop where
  id : check.id = c.id
  create : c.mode = .create → ∃ replaces, check.target = .create replaces
    ∧ ∀ r, replaces = some r ↔ r ∈ records ∧ r.id = c.id
  find : c.mode = .find → ∃ existing, check.target = .update existing
    ∧ (∀ type, c.type? = some type → existing.type = type) ∧ ∀ r, r = existing ↔ r ∈ records ∧ r.id = c.id

/-- A report has the entries of the changes of a document, in document order. -/
structure Report.Tells (params : TextMap) (records : List FeatureRecord) (d : Document) (r : Report) : Prop where
  params : List.Forall₂ (fun c check => check.Tells (params.get? c.key) c) d.params r.params
  features : List.Forall₂ (fun c check => check.Tells records c) d.features r.features

theorem ParamCheck.tells_iff {value : Option String} {c : ParamChange} {check : ParamCheck} :
    check.Tells value c ↔ check = ⟨c.key, c.verdict value⟩ := by
  obtain ⟨key, verdict⟩ := check
  constructor
  · rintro ⟨hkey, heligible, hnotPresent, hmismatch⟩
    obtain rfl : key = c.key := hkey
    congr
    cases value with
    | none => exact hnotPresent.2 rfl
    | some actual =>
        rw [ParamChange.verdict]
        split_ifs with hvalue
        · exact heligible.2 (congrArg some hvalue)
        · exact (hmismatch actual).2 ⟨rfl, hvalue⟩
  · rintro h
    cases h
    cases value with
    | none => constructor <;> simp [ParamChange.verdict]
    | some actual => by_cases hvalue : actual = c.expected <;> constructor <;> simp [ParamChange.verdict, hvalue]

theorem DistinctIds.recordAt?_eq_some_iff {records : List FeatureRecord} (h : DistinctIds records) {id : String}
    {r : FeatureRecord} : recordAt? records id = some r ↔ r ∈ records ∧ r.id = id := by
  constructor
  · exact fun hr => ⟨mem_of_recordAt? hr, id_of_recordAt? hr⟩
  · rintro ⟨hr, rfl⟩
    exact h.recordAt?_of_mem hr

/-- **The entry of a feature change tells where the change lands**, as ids are distinct. -/
theorem FeatureCheck.tells_iff {records : List FeatureRecord} (hrecords : DistinctIds records) {c : FeatureChange}
    {check : FeatureCheck} : check.Tells records c ↔ check.id = c.id ∧ c.target? records = some check.target := by
  constructor
  · rintro ⟨hid, hcreate, hfind⟩
    refine ⟨hid, ?_⟩
    rw [FeatureChange.target?]
    split
    · next hmode =>
        obtain ⟨replaces, htarget, hreplaces⟩ := hcreate hmode
        have hsame : recordAt? records c.id = replaces :=
          Option.ext fun r => hrecords.recordAt?_eq_some_iff.trans (hreplaces r).symm
        rw [htarget, ← hsame]
        rfl
    · next hmode =>
        obtain ⟨existing, htarget, htype, hexisting⟩ := hfind hmode
        have hfound : recordAt? records c.id = some existing :=
          hrecords.recordAt?_eq_some_iff.2 ((hexisting existing).1 rfl)
        have hselected : c.type?.all (existing.type == ·) = true := by simpa [Option.all_eq_true] using htype
        rw [htarget, hrecords.find?_selects, hfound, Option.filter, if_pos hselected, Option.map_some]
  · rintro ⟨hid, htarget⟩
    refine ⟨hid, fun hmode => ?_, fun hmode => ?_⟩
    · cases hcheck : check.target with
      | create replaces =>
          obtain ⟨-, rfl⟩ := FeatureChange.mode_of_target?_create (hcheck ▸ htarget)
          exact ⟨_, rfl, fun r => hrecords.recordAt?_eq_some_iff⟩
      | update existing =>
          rw [(FeatureChange.recordAt?_of_target? hrecords (hcheck ▸ htarget)).1] at hmode
          cases hmode
    · simp only [FeatureChange.target?, hmode, Option.map_eq_some_iff] at htarget
      obtain ⟨existing, hfind, htarget⟩ := htarget
      obtain ⟨hexisting, htype⟩ := FeatureChange.selects_iff.1 (List.find?_some hfind)
      refine ⟨existing, htarget.symm, htype, fun r => ⟨?_, fun hr => ?_⟩⟩
      · rintro rfl
        exact ⟨List.mem_of_find?_eq_some hfind, hexisting⟩
      · -- whichever record has the id is the one that is found by it
        rw [← hrecords.recordAt?_eq_some_iff] at hr
        have hmem := hrecords.recordAt?_of_mem (List.mem_of_find?_eq_some hfind)
        rw [hexisting, hr] at hmem
        exact Option.some.inj hmem

theorem forall₂_eq_map_iff {α β : Type} {f : α → β} {xs : List α} {ys : List β} :
    List.Forall₂ (fun x y => y = f x) xs ys ↔ ys = xs.map f := by
  rw [eq_comm, ← List.forall₂_eq_eq_eq, List.forall₂_map_left_iff]
  simp only [eq_comm]

theorem forall₂_tells_iff {records : List FeatureRecord} (hrecords : DistinctIds records) {cs : List FeatureChange}
    {checks : List FeatureCheck} :
    List.Forall₂ (fun c check => check.Tells records c) cs checks ↔ checkTargets records cs = .ok checks := by
  simp only [FeatureCheck.tells_iff hrecords]
  induction cs generalizing checks with
  | nil => simp [checkTargets, eq_comm]
  | cons c rest ih =>
      rw [List.forall₂_cons_left_iff, checkTargets]
      cases htarget : c.target? records with
      | none => simp
      | some target =>
          simp only [map_eq_ok_iff, ← ih, Option.some.injEq]
          constructor
          · rintro ⟨⟨_, _⟩, checks', ⟨rfl, rfl⟩, hrest, rfl⟩
            exact ⟨checks', hrest, rfl⟩
          · rintro ⟨checks', hrest, rfl⟩
            exact ⟨⟨c.id, target⟩, checks', ⟨rfl, rfl⟩, hrest, rfl⟩

/-- **There is one report that tells what there is**, and checking the targets makes it. -/
theorem Report.tells_iff {params : TextMap} {records : List FeatureRecord} (hrecords : DistinctIds records)
    {d : Document} {r : Report} :
    r.Tells params records d ↔ r.params = d.params.map (fun c => ⟨c.key, c.verdict (params.get? c.key)⟩)
      ∧ checkTargets records d.features = .ok r.features := by
  rw [← forall₂_tells_iff hrecords, ← forall₂_eq_map_iff]
  simp only [← ParamCheck.tells_iff]
  exact ⟨fun h => ⟨h.params, h.features⟩, fun h => ⟨h.1, h.2⟩⟩

/-! ## What stands in the way -/

/-- An element of a list is the first one of its kind. -/
def IsFirst {α : Type} (p : α → Prop) (xs : List α) (x : α) : Prop :=
  ∃ before after, xs = before ++ x :: after ∧ (∀ y ∈ before, ¬ p y) ∧ p x

theorem isFirst_nil {α : Type} {p : α → Prop} {x : α} : ¬ IsFirst p [] x := by
  rintro ⟨before, after, hsplit, -⟩
  simp at hsplit

theorem isFirst_cons_iff {α : Type} {p : α → Prop} {x y : α} {rest : List α} :
    IsFirst p (y :: rest) x ↔ (p y ∧ x = y) ∨ (¬ p y ∧ IsFirst p rest x) := by
  constructor
  · rintro ⟨before, after, hsplit, hbefore, hx⟩
    cases before with
    | nil =>
        obtain ⟨rfl, -⟩ := List.cons.inj hsplit
        exact .inl ⟨hx, rfl⟩
    | cons z before =>
        obtain ⟨rfl, rfl⟩ := List.cons.inj hsplit
        rw [List.forall_mem_cons] at hbefore
        exact .inr ⟨hbefore.1, before, after, rfl, hbefore.2, hx⟩
  · rintro (⟨hx, rfl⟩ | ⟨hy, before, after, rfl, hbefore, hx⟩)
    · exact ⟨[], rest, rfl, nofun, hx⟩
    · exact ⟨y :: before, after, rfl, List.forall_mem_cons.2 ⟨hy, hbefore⟩, hx⟩

section QuietStore

variable {σ : Type} [ConfigStore σ] {s : σ} {params : TextMap} {records : List FeatureRecord} {d : Document}

/-- A parameter can be read. -/
def ParamChange.Readable (s : σ) (c : ParamChange) : Prop :=
  ∃ value, (ConfigStore.get c.key s).1 = .ok value

/-- What keeps a document from being validated, and the error that tells it. -/
inductive Document.Obstructed (d : Document) (s : σ) (records : List FeatureRecord) : PatchError → Prop
  /-- A parameter cannot be read, and it is the first one. -/
  | unreadable {c : ParamChange} {err : StoreError} (hfirst : IsFirst (fun c => ¬ c.Readable s) d.params c)
    (hget : (ConfigStore.get c.key s).1 = .error err) : Obstructed d s records (.persistence err.message)
  /-- The features cannot be listed, and some change needs them. -/
  | unlisted {err : StoreError} (hparams : ∀ c ∈ d.params, c.Readable s) (hchanges : d.features ≠ [])
    (hlist : (ConfigStore.listFeatures s).1 = .error err) : Obstructed d s records (.persistence err.message)
  /-- A change misses its record, and it is the first one. -/
  | missing {c : FeatureChange} (hparams : ∀ c ∈ d.params, c.Readable s)
    (hlist : (ConfigStore.listFeatures s).1 = .ok records) (hfirst : IsFirst (·.Misses records) d.features c) :
    Obstructed d s records (.featureNotFound c.id c.type?)

namespace Reads

/-- Reading parameters goes from one to the next until a get fails. -/
theorem answer_readParams_cons (hreads : Reads s params records) (c : ParamChange) (rest : List ParamChange) :
    (GuardedPatch.readParams (c :: rest) s).answer
      = match (ConfigStore.get c.key s).1 with
        | .ok _ => (GuardedPatch.readParams rest s).answer.map (⟨c.key, c.verdict (params.get? c.key)⟩ :: ·)
        | .error err => .error (.ofStore err) := by
  have hget := hreads.get_store c.key
  have hvalue := hreads.get_answer c.key
  rw [GuardedPatch.readParams]
  generalize ConfigStore.get c.key s = out at hget hvalue
  obtain ⟨answer, s'⟩ := out
  obtain rfl : s' = s := hget
  cases answer with
  | error err => rfl
  | ok value =>
      rw [← hvalue value rfl]
      rfl

theorem readParams_ok_iff (hreads : Reads s params records) {cs : List ParamChange} {checks : List ParamCheck} :
    (GuardedPatch.readParams cs s).answer = .ok checks ↔
      (∀ c ∈ cs, c.Readable s) ∧ checks = cs.map fun c => ⟨c.key, c.verdict (params.get? c.key)⟩ := by
  induction cs generalizing checks with
  | nil => simp [GuardedPatch.readParams, Traced.pure, eq_comm]
  | cons c rest ih =>
      rw [hreads.answer_readParams_cons, List.forall_mem_cons, List.map_cons, ParamChange.Readable]
      cases (ConfigStore.get c.key s).1 with
      | error err => simp
      | ok value =>
          simp only [map_eq_ok_iff, ih, Except.ok.injEq, exists_eq', true_and]
          constructor
          · rintro ⟨_, ⟨hrest, rfl⟩, rfl⟩
            exact ⟨hrest, rfl⟩
          · rintro ⟨hrest, rfl⟩
            exact ⟨_, ⟨hrest, rfl⟩, rfl⟩

/-- **Reading parameters fails at the first one that cannot be read.** -/
theorem readParams_error_iff (hreads : Reads s params records) {cs : List ParamChange} {e : PatchError} :
    (GuardedPatch.readParams cs s).answer = .error e ↔
      ∃ c err, IsFirst (fun c => ¬ c.Readable s) cs c ∧ (ConfigStore.get c.key s).1 = .error err
        ∧ e = .ofStore err := by
  induction cs with
  | nil => simp [GuardedPatch.readParams, Traced.pure, isFirst_nil]
  | cons c rest ih =>
      simp only [isFirst_cons_iff]
      rw [hreads.answer_readParams_cons]
      cases hget : (ConfigStore.get c.key s).1 with
      | error err =>
          have hunreadable : ¬ c.Readable s := by
            rintro ⟨value, hvalue⟩
            rw [hget] at hvalue
            cases hvalue
          simp [hunreadable, hget, eq_comm]
      | ok value =>
          have hreadable : c.Readable s := ⟨value, hget⟩
          simp [hreadable, map_eq_error_iff, ih]

/-- **Looking for features fails with the listing**, or at the first change that misses its record. -/
theorem readFeatures_error_iff (hreads : Reads s params records) {cs : List FeatureChange} {e : PatchError} :
    (readFeatures cs s).answer = .error e ↔
      (cs ≠ [] ∧ ∃ err, (ConfigStore.listFeatures s).1 = .error err ∧ e = .ofStore err)
        ∨ (ConfigStore.listFeatures s).1 = .ok records
          ∧ ∃ c, IsFirst (·.Misses records) cs c ∧ e = .featureNotFound c.id c.type? := by
  by_cases hempty : cs = []
  · simp [hempty, readFeatures, Traced.pure, isFirst_nil]
  · have hlist := hreads.list_answer
    rw [(readFeatures_of_ne_nil hempty s).1]
    cases hanswer : (ConfigStore.listFeatures s).1 with
    | error err => simp [hempty, eq_comm]
    | ok rs =>
        obtain rfl : rs = records := hlist rs hanswer
        simp only [checkTargets_eq_error_iff, IsFirst, reduceCtorEq, false_and, exists_false, and_false, false_or,
          true_and]
        constructor
        · rintro ⟨before, c, after, hsplit, hbefore, hmisses, he⟩
          exact ⟨c, ⟨before, after, hsplit, hbefore, hmisses⟩, he⟩
        · rintro ⟨c, ⟨before, after, hsplit, hbefore, hmisses⟩, he⟩
          exact ⟨before, c, after, hsplit, hbefore, hmisses, he⟩

/-- **Validating fails at the first thing that stands in its way.** -/
theorem validate_error_iff (hreads : Reads s params records) {e : PatchError} :
    (validate d s).answer = .error e ↔ d.Obstructed s records e := by
  have hstore : (GuardedPatch.readParams d.params s).store = s :=
    readParams_invariant hreads.get_invariant d.params rfl
  have hstages : (validate d s).answer = .error e ↔ (GuardedPatch.readParams d.params s).answer = .error e
      ∨ (∀ c ∈ d.params, c.Readable s) ∧ (readFeatures d.features s).answer = .error e := by
    rw [validate]
    cases hparams : (GuardedPatch.readParams d.params s).answer with
    | error e' =>
        obtain ⟨c, err, ⟨before, after, hsplit, -, hunreadable⟩, -⟩ := hreads.readParams_error_iff.1 hparams
        have hnot : ¬ ∀ c ∈ d.params, c.Readable s := fun hall => hunreadable (hall c (by simp [hsplit]))
        rw [(andThen_of_error hparams).1]
        simp [hnot]
    | ok checks =>
        have hall := (hreads.readParams_ok_iff.1 hparams).1
        rw [(andThen_of_ok hparams).1, hstore, Traced.map, map_eq_error_iff]
        simp only [reduceCtorEq, false_or, and_iff_right hall]
  rw [hstages, hreads.readParams_error_iff, hreads.readFeatures_error_iff]
  constructor
  · rintro (⟨c, err, hfirst, hget, rfl⟩ | ⟨hall, ⟨hne, err, hlist, rfl⟩ | ⟨hlist, c, hfirst, rfl⟩⟩)
    · exact .unreadable hfirst hget
    · exact .unlisted hall hne hlist
    · exact .missing hall hlist hfirst
  · rintro (⟨hfirst, hget⟩ | ⟨hall, hne, hlist⟩ | ⟨hall, hlist, hfirst⟩)
    · exact .inl ⟨_, _, hfirst, hget, rfl⟩
    · exact .inr ⟨hall, .inl ⟨hne, _, hlist, rfl⟩⟩
    · exact .inr ⟨hall, .inr ⟨hlist, _, hfirst, rfl⟩⟩

/-- A document in whose way nothing stands gets the report that tells what there is. -/
theorem validate_ok_iff (hreads : Reads s params records) (hrecords : DistinctIds records) {r : Report} :
    (validate d s).answer = .ok r ↔ (∀ e, ¬ d.Obstructed s records e) ∧ r.Tells params records d := by
  rw [Report.tells_iff hrecords]
  constructor
  · intro hreport
    refine ⟨fun e hobstructed => ?_, hreads.report hreport⟩
    rw [hreads.validate_error_iff.2 hobstructed] at hreport
    cases hreport
  · rintro ⟨hfree, hparams, hfeatures⟩
    cases hanswer : (validate d s).answer with
    | error e => exact absurd (hreads.validate_error_iff.1 hanswer) (hfree e)
    | ok r' =>
        obtain ⟨hparams', hfeatures'⟩ := hreads.report hanswer
        rw [hfeatures] at hfeatures'
        obtain ⟨checks, features⟩ := r
        obtain ⟨checks', features'⟩ := r'
        obtain rfl : checks' = checks := hparams'.trans hparams.symm
        obtain rfl : features = features' := Except.ok.inj hfeatures'
        rfl

end Reads

end QuietStore

/-! ## Any report -/

theorem Gets.not_listFeatures {keys : List String} {all : Bool} {issued : List Issued} (h : Gets keys all issued) :
    ∀ i ∈ issued, i.call ≠ .listFeatures := by
  induction h with
  | none => simp
  | failed key rest => simp
  | next _ ih => exact List.forall_mem_cons.2 ⟨nofun, ih⟩

/-- The features are not listed for a document that changes none. -/
theorem not_listFeatures_of_validate {σ : Type} [ConfigStore σ] {d : Document} (hd : d.features = []) (s : σ) :
    ∀ i ∈ (validate d (Recorded.start s)).store.calls, i.call ≠ .listFeatures := by
  obtain ⟨reads, hcalls, hreads⟩ := calls_validate d (Recorded.start s)
  replace hcalls : (validate d (Recorded.start s)).store.calls = reads := hcalls
  rw [hcalls]
  cases hreads with
  | unread hgets => exact hgets.not_listFeatures
  | unlisted hgets _ => exact hgets.not_listFeatures
  | listed ok _ hchanges => exact absurd hd hchanges

/-- **Validating is exact, whatever cannot be read.** A document gets an error if anything stands in its way, and it is
    the error of the first thing that does: a parameter that cannot be read, then the listing if there are feature
    changes, and then one of these that misses its record, each in document order. If nothing does, the document gets
    the one report that tells for each change in turn what there is in the store. The store stays as it is, and a
    document without feature changes does not ask for the features. -/
theorem validate_exact {σ : Type} [ConfigStore σ] {s : σ} {params : TextMap} {records : List FeatureRecord}
    (hreads : Reads s params records) (hrecords : DistinctIds records) (d : Document) :
    (validate d s).store = s
      ∧ (∀ e, (validate d s).answer = .error e ↔ d.Obstructed s records e)
      ∧ (∀ r, (validate d s).answer = .ok r ↔ (∀ e, ¬ d.Obstructed s records e) ∧ r.Tells params records d)
      ∧ (d.features = [] → ∀ i ∈ (validate d (Recorded.start s)).store.calls, i.call ≠ .listFeatures) :=
  ⟨hreads.validate_store d, fun _ => hreads.validate_error_iff, fun _ => hreads.validate_ok_iff hrecords,
    fun hd => not_listFeatures_of_validate hd s⟩

/-- Of two parameters the second one cannot be read, the features cannot be listed, and the record to be found has
    another type. The parameter is told; without it the listing is; and without feature changes there is a report. -/
theorem validate_exact_faults :
    let s : Faulty MemoryStore := ⟨⟨.ofList [("a", "1")], [⟨"f", "t", .empty⟩], []⟩, [], [.listFeatures], ["b"]⟩
    let find : FeatureChange := ⟨"f", some "u", .find, .empty⟩
    (validate ⟨"p", [⟨"a", "1", "2"⟩, ⟨"b", "1", "2"⟩], [find]⟩ s).answer
        = .error (.ofStore (.backend "get failed"))
      ∧ (validate ⟨"p", [⟨"a", "1", "2"⟩], [find]⟩ s).answer
        = .error (.ofStore (.backend "list_features failed"))
      ∧ (validate ⟨"p", [⟨"a", "1", "2"⟩], []⟩ s).answer = .ok ⟨[⟨"a", .eligible⟩], []⟩ := by
  intro s find
  have hreads : Reads s (.ofList [("a", "1")]) [⟨"f", "t", .empty⟩] := Faulty.reads s.inner.reads
  have hexact := validate_exact hreads (by decide)
  have ha : ParamChange.Readable s ⟨"a", "1", "2"⟩ := ⟨some "1", rfl⟩
  have hb : ¬ ParamChange.Readable s ⟨"b", "1", "2"⟩ := by
    rintro ⟨value, hvalue⟩
    cases hvalue
  have hfirst : IsFirst (fun c : ParamChange => ¬ c.Readable s) [⟨"a", "1", "2"⟩, ⟨"b", "1", "2"⟩] ⟨"b", "1", "2"⟩ :=
    ⟨[⟨"a", "1", "2"⟩], [], rfl, by simpa using ha, hb⟩
  have hget : (ConfigStore.get "b" s).1 = .error (.backend "get failed") := rfl
  have hlist : (ConfigStore.listFeatures s).1 = .error (.backend "list_features failed") := rfl
  refine ⟨?_, ?_, ?_⟩
  · exact ((hexact _).2.1 _).2 (.unreadable hfirst hget)
  · exact ((hexact _).2.1 _).2 (.unlisted (by simpa using ha) (List.cons_ne_nil _ _) hlist)
  · refine ((hexact _).2.2.1 _).2 ⟨?_, .cons (ParamCheck.tells_iff.2 rfl) .nil, .nil⟩
    rintro e (⟨hnone, -⟩ | ⟨-, hchanges, -⟩ | ⟨-, -, hnone⟩)
    · simp [isFirst_cons_iff, isFirst_nil, ha] at hnone
    · exact hchanges rfl
    · exact isFirst_nil hnone

end GuardedPatch
