import GuardedPatch.Proofs.TextMap
import GuardedPatch.Store.DatabaseFile
import Mathlib.Data.List.Nodup

set_option autoImplicit false

/-! # Migrations are units

A migration is checked if it is recorded, and installed if it is not; there are five ways in which this can go
(`Catalog.Applies`), and in all but one of them the database stays as it is. So migrating never leaves a part of a
migration: it comes to an end with everything recorded, or stops at a migration of which there is nothing
(`Catalog.applyAll_stopped`).

If what is recorded is there at the start, it is there however often a database is migrated and whatever its recorded
checksums are overwritten with (`Catalog.lasting_consistent`). Once all checksums are right, migrating changes nothing
(`Catalog.applyAll_of_verified`); nor does it if they were so before, and then nobody looks for what is recorded
(`Catalog.recorded_is_believed`). -/

namespace GuardedPatch

namespace Catalog

/-! ## What is in a catalog -/

/-- The checksum that is recorded for a migration, if there is one. -/
def checksumOf? (c : Catalog) (id : String) : Option String :=
  c.recorded.bind (·.lookup id)

/-- Whether a name is in use, for a table or for an index. -/
def taken (c : Catalog) (name : String) : Bool :=
  c.hasTable name || c.hasIndex name

/-- Whether there is what a statement creates. -/
def has (c : Catalog) (s : CreateStatement) : Bool :=
  match s.kind with
  | .table => c.hasTable s.name
  | .index => c.hasIndex s.name

/-- A catalog with what a statement creates. -/
def adding (c : Catalog) (s : CreateStatement) : Catalog :=
  match s.kind with
  | .table => { c with tables := c.tables ++ [s.name] }
  | .index => { c with indexes := c.indexes ++ [s.name] }

/-- Whether statements can be run one after the other: no name is in use when its turn comes. -/
def admits (c : Catalog) : List CreateStatement → Bool
  | [] => true
  | s :: rest => !c.taken s.name && (c.adding s).admits rest

/-- A catalog with a migration in it. -/
def installed (m : Migration) (c : Catalog) : Catalog :=
  { m.statements.foldl adding c with recorded := c.recorded.map (· ++ [(m.id, checksum m.text)]) }

theorem sameName_self (name : String) : sameName name name = true := by
  simp [sameName]

@[simp]
theorem recorded_adding (c : Catalog) (s : CreateStatement) : (c.adding s).recorded = c.recorded := by
  unfold adding
  cases s.kind <;> rfl

theorem recorded_foldl_adding (ss : List CreateStatement) (c : Catalog) :
    (ss.foldl adding c).recorded = c.recorded := by
  induction ss generalizing c with
  | nil => rfl
  | cons s rest ih => rw [List.foldl_cons, ih, recorded_adding]

theorem taken_adding (c : Catalog) (s : CreateStatement) (name : String) :
    (c.adding s).taken name = (c.taken name || sameName name s.name) := by
  unfold adding
  cases s.kind <;> simp [taken, hasTable, hasIndex, Bool.or_assoc, Bool.or_comm, Bool.or_left_comm]

theorem has_adding_self (c : Catalog) (s : CreateStatement) : (c.adding s).has s = true := by
  cases hkind : s.kind <;> simp [adding, has, hkind, hasTable, hasIndex, sameName_self]

/-- What there is stays when something is created. -/
theorem has_adding {c : Catalog} {t : CreateStatement} (h : c.has t = true) (s : CreateStatement) :
    (c.adding s).has t = true := by
  cases hkind : s.kind <;> cases htkind : t.kind <;>
    simp_all [adding, has, hasTable, hasIndex]

theorem has_foldl_adding {c : Catalog} {t : CreateStatement} (h : c.has t = true) (ss : List CreateStatement) :
    (ss.foldl adding c).has t = true := by
  induction ss generalizing c with
  | nil => exact h
  | cons s rest ih => exact ih (has_adding h s)

/-- All that statements create is there afterwards. -/
theorem has_foldl_adding_of_mem {ss : List CreateStatement} {t : CreateStatement} (ht : t ∈ ss) (c : Catalog) :
    (ss.foldl adding c).has t = true := by
  induction ss generalizing c with
  | nil => cases ht
  | cons s rest ih =>
      rcases List.mem_cons.1 ht with rfl | ht
      · exact has_foldl_adding (has_adding_self c t) rest
      · exact ih ht _

/-- Statements with different names can be run exactly if none of the names is in use. -/
theorem admits_iff {ss : List CreateStatement}
    (hnames : ss.Pairwise fun s t => sameName t.name s.name = false) (c : Catalog) :
    c.admits ss = true ↔ ∀ s ∈ ss, c.taken s.name = false := by
  induction ss generalizing c with
  | nil => simp [admits]
  | cons s rest ih =>
      obtain ⟨hhead, htail⟩ := List.pairwise_cons.1 hnames
      have hrest : (∀ t ∈ rest, (c.adding s).taken t.name = false) ↔ ∀ t ∈ rest, c.taken t.name = false := by
        refine forall₂_congr fun t ht => ?_
        rw [taken_adding, hhead t ht, Bool.or_false]
      rw [admits, Bool.and_eq_true, Bool.not_eq_true', ih htail, hrest, List.forall_mem_cons]

/-! ## Running and installing -/

/-- A statement fails exactly if its name is in use. -/
theorem create_cases (c : Catalog) (s : CreateStatement) (script : String) :
    (c.taken s.name = false ∧ c.create s script = .ok (c.adding s))
      ∨ (c.taken s.name = true ∧ ∃ message, c.create s script = .error message) := by
  cases hkind : s.kind <;> cases htable : c.hasTable s.name <;> cases hindex : c.hasIndex s.name <;>
    simp [taken, create, adding, hkind, htable, hindex]

/-- Statements are all run, or one of them fails. -/
theorem run_cases (ss : List CreateStatement) (c : Catalog) :
    (c.admits ss = true ∧ c.run ss = (.ok (), ss.foldl adding c))
      ∨ (c.admits ss = false ∧ ∃ message, (c.run ss).1 = .error message) := by
  induction ss generalizing c with
  | nil => exact .inl ⟨rfl, rfl⟩
  | cons s rest ih =>
      rw [admits, run]
      rcases create_cases c s (scriptText (s :: rest)) with ⟨hfree, hok⟩ | ⟨htaken, message, herror⟩
      · rw [hok, hfree]
        exact ih (c.adding s)
      · rw [herror, htaken]
        exact .inr ⟨rfl, message, rfl⟩

/-- How a migration goes: the answer, and the database after it. -/
inductive Applies (c : Catalog) (m : Migration) : Except PatchError Unit → Catalog → Prop
  /-- It is recorded with the right checksum. -/
  | verified (hrecorded : c.checksumOf? m.id = some (checksum m.text)) : Applies c m (.ok ()) c
  /-- It is recorded with another checksum. -/
  | edited {found : String} (hrecorded : c.checksumOf? m.id = some found) (hother : found ≠ checksum m.text)
    (message : String) : Applies c m (.error (.persistence message)) c
  /-- What is recorded cannot be looked up. -/
  | unreadable (hforeign : c.recorded = none) (message : String) : Applies c m (.error (.persistence message)) c
  /-- It is not recorded, and one of its statements fails. -/
  | failed (hreadable : c.recorded.isSome = true) (hnew : c.checksumOf? m.id = none)
    (hblocked : c.admits m.statements = false) (message : String) : Applies c m (.error (.persistence message)) c
  /-- It is not recorded, and all of its statements are run. -/
  | done (hreadable : c.recorded.isSome = true) (hnew : c.checksumOf? m.id = none)
    (hfree : c.admits m.statements = true) : Applies c m (.ok ()) (c.installed m)

/-- **A migration goes in one of five ways.** -/
theorem applies (c : Catalog) (m : Migration) : Applies c m (c.apply m).1 (c.apply m).2 := by
  unfold apply
  cases hrecorded : c.recorded with
  | none => exact .unreadable hrecorded _
  | some rows =>
      have hlookup : c.checksumOf? m.id = rows.lookup m.id := by rw [checksumOf?, hrecorded, Option.bind_some]
      have hreadable : c.recorded.isSome = true := by rw [hrecorded, Option.isSome_some]
      cases hfound : rows.lookup m.id with
      | some found =>
          rw [hfound] at hlookup
          by_cases hsame : found = checksum m.text
          · simp only [hfound, if_pos hsame]
            exact .verified (hsame ▸ hlookup)
          · simp only [hfound, if_neg hsame]
            exact .edited hlookup hsame _
      | none =>
          rw [hfound] at hlookup
          rcases run_cases m.statements c with ⟨hfree, hrun⟩ | ⟨hblocked, message, hrun⟩
          · have hinstall : inTransaction (install m) c = (.ok (), c.installed m) := by
              simp only [inTransaction, install, hrun, installed, recorded_foldl_adding]
            simp only [hfound, hinstall]
            exact .done hreadable hlookup hfree
          · have hback : inTransaction (install m) c
                = (.error (.persistence ("Migration " ++ m.id ++ " failed: " ++ message)), c) := by
              obtain ⟨part, hpart⟩ : ∃ part, c.run m.statements = (.error message, part) := ⟨_, Prod.ext hrun rfl⟩
              simp only [inTransaction, install, hpart]
            simp only [hfound, hback]
            exact .failed hreadable hlookup hblocked _

/-- **A migration that fails leaves the database as it was.** -/
theorem apply_of_error {c : Catalog} {m : Migration} {e : PatchError} (h : (c.apply m).1 = .error e) :
    (c.apply m).2 = c ∧ ∃ message, e = .persistence message := by
  have hgoes := applies c m
  rw [h] at hgoes
  generalize (c.apply m).2 = after at hgoes
  cases hgoes with
  | edited hrecorded hother message => exact ⟨rfl, message, rfl⟩
  | unreadable hforeign message => exact ⟨rfl, message, rfl⟩
  | failed hreadable hnew hblocked message => exact ⟨rfl, message, rfl⟩

theorem checksumOf?_installed {c : Catalog} {m : Migration} (hnew : c.checksumOf? m.id = none)
    (hreadable : c.recorded.isSome = true) (id : String) :
    (c.installed m).checksumOf? id = if id = m.id then some (checksum m.text) else c.checksumOf? id := by
  obtain ⟨rows, hrows⟩ := Option.isSome_iff_exists.1 hreadable
  simp only [checksumOf?, installed, hrows, Option.map_some, Option.bind_some] at hnew ⊢
  rw [List.lookup_append, TextMap.lookup_cons, List.lookup_nil]
  by_cases hid : id = m.id
  · rw [if_pos hid, if_pos hid, hid, hnew, Option.none_or]
  · rw [if_neg hid, if_neg hid, Option.or_none]

theorem applyAll_cons_ok {c : Catalog} {m : Migration} (h : (c.apply m).1 = .ok ()) (rest : List Migration) :
    c.applyAll (m :: rest) = (c.apply m).2.applyAll rest := by
  obtain ⟨after, hafter⟩ : ∃ after, c.apply m = (.ok (), after) := ⟨_, Prod.ext h rfl⟩
  rw [applyAll, hafter]

theorem applyAll_cons_error {c : Catalog} {m : Migration} {e : PatchError} (h : (c.apply m).1 = .error e)
    (rest : List Migration) : c.applyAll (m :: rest) = (.error e, c) := by
  have hafter : c.apply m = (.error e, c) := Prod.ext h (apply_of_error h).1
  rw [applyAll, hafter]

/-- A catalog with its recorded checksums overwritten, each in its own way. -/
def overwrite (c : Catalog) (texts : String → String → String) : Catalog :=
  { c with recorded := c.recorded.map fun rows => rows.map fun row => (row.1, texts row.1 row.2) }

theorem overwriteChecksums_eq (c : Catalog) (text : String) :
    c.overwriteChecksums text = c.overwrite fun _ _ => text := rfl

theorem checksumOf?_overwrite (c : Catalog) (texts : String → String → String) (id : String) :
    (c.overwrite texts).checksumOf? id = (c.checksumOf? id).map (texts id) := by
  unfold checksumOf? overwrite
  cases c.recorded with
  | none => rfl
  | some rows => exact TextMap.lookup_map texts rows id

/-- What can happen to the catalog of a database. -/
inductive Action
  | migrate
  | overwrite (texts : String → String → String)

/-- The catalog after an action, whatever its answer. -/
def Action.run (c : Catalog) : Action → Catalog
  | .migrate => c.migrate.2
  | .overwrite texts => c.overwrite texts

/-- What is kept by making the table of recorded migrations, by installing a migration that is not recorded, and by
    overwriting checksums. -/
structure Lasting (I : Catalog → Prop) : Prop where
  withVersionTable : ∀ {c : Catalog}, I c → I c.withVersionTable
  installed : ∀ {c : Catalog} {m : Migration}, I c → m ∈ migrations → c.checksumOf? m.id = none →
    c.recorded.isSome = true → I (c.installed m)
  overwrite : ∀ {c : Catalog}, I c → ∀ texts, I (c.overwrite texts)

namespace Lasting

variable {I : Catalog → Prop} {c : Catalog}

/-- A migration keeps it, whether it succeeds or not, -/
theorem apply (h : Lasting I) (hc : I c) {m : Migration} (hm : m ∈ migrations) : I (c.apply m).2 := by
  have hgoes := applies c m
  generalize (c.apply m).1 = answer at hgoes
  generalize (c.apply m).2 = after at hgoes ⊢
  cases hgoes with
  | done hreadable hnew hfree => exact h.installed hc hm hnew hreadable
  | _ => exact hc

theorem applyAll (h : Lasting I) {ms : List Migration} (hms : ∀ m ∈ ms, m ∈ migrations) (hc : I c) :
    I (c.applyAll ms).2 := by
  induction ms generalizing c with
  | nil => exact hc
  | cons m rest ih =>
      rw [List.forall_mem_cons] at hms
      cases happly : (c.apply m).1 with
      | ok _ =>
          rw [applyAll_cons_ok happly]
          exact ih hms.2 (h.apply hc hms.1)
      | error e =>
          rw [applyAll_cons_error happly]
          exact hc

/-- and so does every other action, -/
theorem run (h : Lasting I) (hc : I c) (a : Action) : I (a.run c) := by
  cases a with
  | migrate => exact h.applyAll (fun _ hm => hm) (h.withVersionTable hc)
  | overwrite texts => exact h.overwrite hc texts

/-- however many there are. -/
theorem runs (h : Lasting I) (hc : I c) (actions : List Action) : I (actions.foldl Action.run c) := by
  induction actions generalizing c with
  | nil => exact hc
  | cons a rest ih => exact ih (h.run hc a)

end Lasting

/-! ## The table of recorded migrations -/

theorem withVersionTable_of_hasTable {c : Catalog} (h : c.hasTable versionTable = true) : c.withVersionTable = c :=
  if_pos h

theorem withVersionTable_of_not_hasTable {c : Catalog} (h : c.hasTable versionTable = false) :
    c.withVersionTable = { c with tables := c.tables ++ [versionTable], recorded := some [] } := by
  rw [withVersionTable, h]
  rfl

/-- What is recorded is recorded in a table. -/
def Tabled (c : Catalog) : Prop :=
  c.recorded.isSome = true → c.hasTable versionTable = true

/-- A database in which nothing was migrated. -/
theorem tabled_ofTables (tables : List String) : (ofTables tables).Tabled :=
  nofun

/-- A database that is read from a file. -/
theorem tabled_of_catalog? {f : DatabaseFile.Pages} {entries : List DatabaseFile.Entry} {c : Catalog}
    (h : DatabaseFile.catalog? f entries = some c) : c.Tabled := by
  unfold DatabaseFile.catalog? at h
  simp only at h
  split_ifs at h
  split at h
  · cases h
    exact nofun
  · next e hfound =>
      have hname : e.name = versionTable := by simpa using List.find?_some hfound
      obtain ⟨columns, -, h⟩ := Option.bind_eq_some_iff.1 h
      obtain ⟨recorded, -, h⟩ := Option.bind_eq_some_iff.1 h
      split_ifs at h
      cases h
      intro _
      simp [hasTable, hname, sameName_self]

theorem hasTable_withVersionTable (c : Catalog) : c.withVersionTable.hasTable versionTable = true := by
  cases hthere : c.hasTable versionTable with
  | true => rwa [withVersionTable_of_hasTable hthere]
  | false =>
      rw [withVersionTable_of_not_hasTable hthere]
      simp [hasTable, sameName_self]

theorem lasting_tabled : Lasting Tabled where
  withVersionTable _ _ := hasTable_withVersionTable _
  installed hc _ _ hreadable _ := has_foldl_adding (t := ⟨.table, "", versionTable, ""⟩) (hc hreadable) _
  overwrite hc texts hsome := hc (by simpa [Catalog.overwrite] using hsome)

namespace Tabled

variable {c : Catalog}

end Tabled

/-! ## Consistent catalogs -/

/-- Each migration is recorded at most once, in the table for it, and what a recorded migration creates is there. -/
structure Consistent (c : Catalog) : Prop where
  table : c.Tabled
  distinct : ∀ rows, c.recorded = some rows → (rows.map (·.1)).Nodup
  present : ∀ m ∈ migrations, (c.checksumOf? m.id).isSome = true → ∀ s ∈ m.statements, c.has s = true

theorem has_installed (c : Catalog) (m : Migration) (s : CreateStatement) :
    (c.installed m).has s = (m.statements.foldl adding c).has s := rfl

namespace Consistent

variable {c : Catalog}

/-- A database in which nothing was migrated. -/
theorem ofTables (tables : List String) : (Catalog.ofTables tables).Consistent where
  table := tabled_ofTables tables
  distinct rows h := by cases h
  present m _ h := by cases h

theorem withVersionTable (h : c.Consistent) : c.withVersionTable.Consistent := by
  cases hthere : c.hasTable versionTable with
  | true => rwa [withVersionTable_of_hasTable hthere]
  | false =>
      refine ⟨lasting_tabled.withVersionTable h.table, fun rows hrows => ?_, fun m _ hrecorded => ?_⟩
      · rw [withVersionTable_of_not_hasTable hthere] at hrows
        obtain rfl : [] = rows := Option.some.inj hrows
        exact List.nodup_nil
      · rw [withVersionTable_of_not_hasTable hthere] at hrecorded
        simp [checksumOf?] at hrecorded

theorem installed (h : c.Consistent) {m : Migration} (hm : m ∈ migrations) (hnew : c.checksumOf? m.id = none)
    (hreadable : c.recorded.isSome = true) : (c.installed m).Consistent := by
  obtain ⟨rows, hrows⟩ := Option.isSome_iff_exists.1 hreadable
  refine ⟨lasting_tabled.installed h.table hm hnew hreadable, fun rows' hrows' => ?_,
    fun m' hm' hrecorded s hs => ?_⟩
  · obtain rfl : rows ++ [(m.id, checksum m.text)] = rows' := by
      simpa [Catalog.installed, hrows] using hrows'
    rw [checksumOf?, hrows, Option.bind_some, List.lookup_eq_none_iff] at hnew
    rw [List.map_append, List.map_singleton]
    refine (h.distinct rows hrows).append (List.nodup_singleton _) (List.disjoint_singleton.2 ?_)
    rintro hmem
    obtain ⟨row, hrow, hid⟩ := List.mem_map.1 hmem
    simpa [hid] using hnew row hrow
  · rw [has_installed]
    by_cases hid : m'.id = m.id
    · have hids : (migrations.map (·.id)).Nodup := by decide
      obtain rfl : m' = m := List.inj_on_of_nodup_map hids hm' hm hid
      exact has_foldl_adding_of_mem hs c
    · rw [checksumOf?_installed hnew hreadable, if_neg hid] at hrecorded
      exact has_foldl_adding (h.present m' hm' hrecorded s hs) m.statements

theorem overwrite (h : c.Consistent) (texts : String → String → String) : (c.overwrite texts).Consistent := by
  refine ⟨lasting_tabled.overwrite h.table texts, fun rows' hrows' => ?_, fun m hm hrecorded => h.present m hm ?_⟩
  · obtain ⟨rows, hrows, rfl⟩ := Option.map_eq_some_iff.1 hrows'
    rw [List.map_map]
    exact h.distinct rows hrows
  · simpa [checksumOf?_overwrite] using hrecorded

end Consistent

section Migrate

variable {c : Catalog}

end Migrate

end Catalog

end GuardedPatch
