import GuardedPatch.CommandLine.Run
import GuardedPatch.Files.World
import GuardedPatch.Proofs.Run.Secrets
import Mathlib.Logic.Relation

set_option autoImplicit false

/-! # Secrets stay out of the stores of a world

Two ways lead into the store of a command line: a patch, whose document was checked when it was loaded, and the
owner's request to put in a feature, which checks the fields itself. Both let references in only, so that a store that
was new at some time has no secrets in it, whatever command lines were run since, and however they ended
(`secrets_stay_externalized`).

A command line is a program over a host. That a program keeps a store as it should be is put together from what its
parts keep (`Keeps`), the parts being the calls of the host. -/

namespace GuardedPatch

open CommandLine Files

/-! ## Stores at places -/

/-- The image of a store, if that is what there is. -/
def Node.image? : Node → Option StoreImage
  | .store image => some image
  | .file bytes => DatabaseFile.image? bytes
  | .directory => none

/-- The store at a place, if there is one. -/
def Tree.storeAt? (t : Tree) (place : List String) : Option StoreImage :=
  (t.node? place).bind Node.image?

/-- Every feature row can be read, and the secrets of its record are references. -/
def StoreImage.Externalized (image : StoreImage) : Prop :=
  ∀ row ∈ image.tables.features, ∃ r, TableStore.readRecord row = .ok r ∧ r.Externalized

/-- So it is for all rows of a store, and for those that it would bring back. -/
def TableStore.Externalized (s : TableStore) : Prop :=
  ∀ a, s.database.Yields a → ∃ r, a = .ok r ∧ r.Externalized

/-- The store at a place is externalized, if there is one. -/
def World.ExternalizedAt (place : List String) (w : World) : Prop :=
  ∀ image, w.tree.storeAt? place = some image → image.Externalized

namespace StoreImage.Externalized

variable {image : StoreImage}

theorem empty : StoreImage.empty.Externalized := by
  intro row hrow
  cases hrow

theorem toStore (h : image.Externalized) : image.toStore.Externalized := by
  rintro a (ha | ⟨t, ht, -⟩)
  · obtain ⟨row, hrow, rfl⟩ := List.mem_map.1 ha
    exact h row hrow
  · cases ht

theorem withStore (image : StoreImage) {s : TableStore} (h : s.Externalized) : (image.withStore s).Externalized := by
  intro row hrow
  exact h _ (Database.yields_of_durable (List.mem_map_of_mem hrow))

theorem migrate (h : image.Externalized) : image.migrate.2.Externalized := h

end StoreImage.Externalized

/-! ## Requests to a store -/

namespace TableStore.Externalized

variable {s : TableStore}

theorem execute (h : s.Externalized) {w : Write} (hw : ∀ r, w = .putFeature r → r.Externalized) :
    (s.execute w).2.Externalized := by
  intro a ha
  rcases Database.yields_execute ha with hold | ⟨r, hput, rfl⟩
  · exact h a hold
  · exact ⟨r, rfl, hw r hput⟩

theorem setLocked (h : s.Externalized) (key : String) (locked : Bool) : (s.setLocked key locked).2.Externalized := by
  obtain ⟨message, -, hstopped⟩ | ⟨-, hboth⟩ := TableStore.setLocked_cases key locked s
  · rw [hstopped]
    exact h
  · rw [hboth]
    exact (h.execute (by simp)).execute (by simp)

/-- **What the owner asks for puts in references only.** -/
theorem request (h : s.Externalized) (request : StoreRequest) : (request.run s).2.Externalized := by
  -- a call that only reads answers with the store as it is
  have hread : ∀ {α : Type} {a : Except StoreError α} {s' : TableStore} {call : StoreCall TableStore α},
      (call s).2 = s → call s = (a, s') → s'.Externalized := by
    rintro α a s' call hsame heq
    rw [heq] at hsame
    subst hsame
    exact h
  cases request with
  | get key =>
      rw [StoreRequest.run]
      split <;> next heq => exact hread rfl heq
  | list json =>
      rw [StoreRequest.run]
      split <;> next heq => exact hread rfl heq
  | features json =>
      rw [StoreRequest.run]
      split <;> next heq => exact hread rfl heq
  | set key value => exact h.execute (by simp)
  | putFeature id type fields =>
      rw [StoreRequest.run]
      cases hunsafe : firstUnsafe? fields with
      | some field => exact h
      | none =>
          refine h.execute ?_
          rintro r ⟨⟩
          exact TextMap.Externalized.ofList (Document.forall_safe_of_find?_eq_none hunsafe)
  | setLocked key locked =>
      have hafter : (s.setLocked key locked).2.Externalized := h.setLocked key locked
      rw [StoreRequest.run]
      split <;> next heq => rwa [heq] at hafter

end TableStore.Externalized

/-! ## Trees -/

namespace Tree

variable {t t' : Tree} {place q : List String} {image : StoreImage}

theorem lookup_filter_ne (h : q ≠ place) (t : Tree) : (t.filter (·.1 != place)).lookup q = t.lookup q := by
  induction t with
  | nil => rfl
  | cons e rest ih =>
      obtain ⟨k, node⟩ := e
      by_cases hk : k = place
      · have hqk : (q == k) = false := beq_false_of_ne (hk ▸ h)
        rw [List.lookup_cons, hqk, ← ih]
        simp [hk]
      · simp [hk, List.lookup_cons, ih]

/-- A store that is somewhere after something was put at a place was put there, or it was somewhere before. -/
theorem store_of_put {node : Node} (h : (t.put place node).storeAt? q = some image) :
    (q = place ∧ node.image? = some image) ∨ t.storeAt? q = some image := by
  unfold storeAt? node? put at *
  split_ifs at h ⊢ with hroot
  · exact .inr h
  · by_cases hq : q = place
    · subst hq
      rw [List.lookup_cons_self] at h
      exact .inl ⟨rfl, h⟩
    · rw [List.lookup_cons, beq_false_of_ne hq, lookup_filter_ne hq] at h
      exact .inr h

theorem store_of_makeDirectory {steps : List String} (hmade : t.makeDirectory steps = .ok t')
    (h : t'.storeAt? q = some image) : t.storeAt? q = some image := by
  unfold makeDirectory at hmade
  cases hplace : t.follow [] steps with
  | error e => simp [hplace, bind, Except.bind] at hmade
  | ok place =>
      simp only [hplace, bind, Except.bind] at hmade
      split at hmade
      · cases hmade
      · cases hmade
        rcases store_of_put h with ⟨-, hnode⟩ | hold
        · cases hnode
        · exact hold

/-- Making directories makes no stores. -/
theorem store_of_makeDirectories {steps : List String} (hmade : t.makeDirectories steps = .ok t')
    (h : t'.storeAt? q = some image) : t.storeAt? q = some image := by
  induction steps generalizing t t' with
  | nil =>
      cases hmade
      exact h
  | cons p above ih =>
      unfold makeDirectories at hmade
      simp only at hmade
      split at hmade
      · -- the directories above come first
        cases habove : t.makeDirectories above with
        | error e => simp [habove, bind, Except.bind] at hmade
        | ok u =>
            simp only [habove, bind, Except.bind] at hmade
            refine ih habove ?_
            split at hmade
            · next u' hu' =>
                cases hmade
                exact store_of_makeDirectory hu' h
            · split_ifs at hmade
              cases hmade
              exact h
      · split at hmade
        · next u' hu' =>
            cases hmade
            exact store_of_makeDirectory hu' h
        · split_ifs at hmade
          cases hmade
          exact h

theorem openStore_cases {path : String} (h : t.openStore path = .ok (image, t')) :
    (t.storeAt? (settled path) = some image ∨ image = .empty)
      ∧ (t' = t ∨ t' = t.put (settled path) (.store .empty)) := by
  unfold openStore at h
  simp only at h
  split at h
  · next hnode =>
      cases h
      refine ⟨.inl ?_, .inl rfl⟩
      rw [storeAt?, hnode]
      rfl
  · next bytes hnode =>
      split_ifs at h
      · cases h
        exact ⟨.inr rfl, .inl rfl⟩
      · split at h
        · next image' himage =>
            cases h
            refine ⟨.inl ?_, .inl rfl⟩
            rw [storeAt?, hnode]
            exact himage
        · cases h
  · cases h
  · split_ifs at h
    cases h
    exact ⟨.inr rfl, .inr rfl⟩

end Tree

/-! ## Programs -/

/-- Whatever the world, a program answers with something that has a property, and leaves the store at a place
externalized if it was. -/
def Keeps (place : List String) {α : Type} (x : StateM World α) (Q : α → Prop) : Prop :=
  ∀ w, w.ExternalizedAt place → Q (x.run w).1 ∧ (x.run w).2.ExternalizedAt place

namespace Keeps

variable {place : List String} {α β : Type}

theorem pure {Q : α → Prop} {a : α} (h : Q a) : Keeps place (Pure.pure a) Q :=
  fun _ hw => ⟨h, hw⟩

theorem bind {x : StateM World α} {Q : α → Prop} (hx : Keeps place x Q) {next : α → StateM World β} {R : β → Prop}
    (hnext : ∀ a, Q a → Keeps place (next a) R) : Keeps place (x >>= next) R := by
  intro w hw
  obtain ⟨ha, hw'⟩ := hx w hw
  exact hnext _ ha _ hw'

/-- A program that changes nothing. -/
theorem of_quiet {x : StateM World α} (h : ∀ w, (x.run w).2 = w) : Keeps place x fun _ => True := by
  intro w hw
  rw [h w]
  exact ⟨trivial, hw⟩

/-! ### The host -/

theorem makeDirectories (path : String) :
    Keeps place (Host.makeDirectories path : StateM World (Except Fault Unit)) fun _ => True := by
  intro w hw
  refine ⟨trivial, ?_⟩
  cases hmade : w.tree.makeDirectories (steps path).reverse with
  | error fault =>
      have hrun : ((Host.makeDirectories path : StateM World (Except Fault Unit)).run w).2 = w := by
        simp only [Host.makeDirectories, StateT.run_bind, StateT.run_get, pure_bind, hmade]
        rfl
      rwa [hrun]
  | ok tree =>
      have hrun : ((Host.makeDirectories path : StateM World (Except Fault Unit)).run w).2 = { w with tree } := by
        simp only [Host.makeDirectories, StateT.run_bind, StateT.run_get, pure_bind, hmade]
        rfl
      rw [hrun]
      intro image himage
      exact hw image (Tree.store_of_makeDirectories hmade himage)

theorem openStore (path : String) :
    Keeps place (Host.openStore path : StateM World (Except String StoreImage))
      fun opened => ∀ image, opened = .ok image → settled path = place → image.Externalized := by
  intro w hw
  cases hopen : w.tree.openStore path with
  | error message =>
      have hrun : (Host.openStore path : StateM World (Except String StoreImage)).run w = (.error message, w) := by
        simp only [Host.openStore, StateT.run_bind, StateT.run_get, pure_bind, hopen]
        rfl
      rw [hrun]
      refine ⟨?_, hw⟩
      rintro image ⟨⟩
  | ok opened =>
      obtain ⟨image, tree⟩ := opened
      have hrun : (Host.openStore path : StateM World (Except String StoreImage)).run w
          = (.ok image, { w with tree }) := by
        simp only [Host.openStore, StateT.run_bind, StateT.run_get, pure_bind, hopen]
        rfl
      obtain ⟨himage, htree⟩ := Tree.openStore_cases hopen
      rw [hrun]
      refine ⟨?_, ?_⟩
      · rintro image' ⟨⟩ hplace
        rcases himage with hthere | rfl
        · exact hw image (hplace ▸ hthere)
        · exact .empty
      · intro image' himage'
        rcases htree with rfl | rfl
        · exact hw image' himage'
        · rcases Tree.store_of_put himage' with ⟨-, hnode⟩ | hold
          · cases hnode
            exact .empty
          · exact hw image' hold

theorem saveStore {path : String} {image : StoreImage} (h : settled path = place → image.Externalized) :
    Keeps place (Host.saveStore path image : StateM World Unit) fun _ => True := by
  intro w hw
  refine ⟨trivial, ?_⟩
  intro image' himage'
  rcases Tree.store_of_put himage' with ⟨hplace, hnode⟩ | hold
  · cases hnode
    exact h hplace.symm
  · exact hw image' hold

/-! ### Commands -/

theorem readPatch (path : String) :
    Keeps place (CommandLine.readPatch path : StateM World (Except PatchError String)) fun _ => True := by
  unfold CommandLine.readPatch
  dsimp only
  split_ifs
  · exact bind (of_quiet fun _ => rfl) fun _ _ => pure trivial
  · exact bind (of_quiet fun _ => rfl) fun _ _ => pure trivial

theorem openImage (path : String) :
    Keeps place (CommandLine.openImage path : StateM World (Except PatchError StoreImage))
      fun opened => ∀ image, opened = .ok image → settled path = place → image.Externalized := by
  have hopened : Keeps place
      (do return (← Host.openStore path).mapError fun message => .persistence ("sqlite: " ++ message)
        : StateM World (Except PatchError StoreImage))
      fun opened => ∀ image, opened = .ok image → settled path = place → image.Externalized := by
    refine bind (openStore path) ?_
    intro opened hopened
    refine pure ?_
    intro image himage
    cases opened with
    | error message => cases himage
    | ok image' =>
        cases himage
        exact hopened image rfl
  unfold CommandLine.openImage
  dsimp only
  split_ifs
  · refine pure ?_
    rintro image ⟨⟩ _
    exact .empty
  · exact bind (Q := fun made => made = .ok ()) (pure rfl) fun made hmade => hmade ▸ hopened
  · refine bind (makeDirectories _) ?_
    intro made _
    cases made with
    | error fault =>
        refine pure ?_
        rintro image ⟨⟩
    | ok _ => exact hopened

/-- **Whatever is done with a store, it stays externalized if that keeps it so.** -/
theorem withStore (path : String) {activity : StoreActivity}
    (hactivity : ∀ s : TableStore, s.Externalized → (activity s).store.Externalized) :
    Keeps place (CommandLine.withStore path activity) fun _ => True := by
  unfold CommandLine.withStore
  refine bind (openImage path) ?_
  intro opened hopened
  cases opened with
  | error e => exact pure trivial
  | ok image =>
      have himage := fun hplace => (hopened image rfl hplace).migrate
      dsimp only
      generalize image.migrate = migrated at himage
      obtain ⟨answer, migrated⟩ := migrated
      cases answer with
      | error e =>
          dsimp only
          split_ifs
          · exact bind (saveStore himage) fun _ _ => pure trivial
          · exact pure trivial
      | ok _ =>
          have hafter : settled path = place → (migrated.withStore (activity migrated.toStore).store).Externalized :=
            fun hplace => .withStore migrated (hactivity _ (himage hplace).toStore)
          dsimp only
          split_ifs
          · exact bind (saveStore hafter) fun _ _ => pure trivial
          · exact pure trivial

/-- A run keeps the store of the settings externalized, if its command keeps all stores so. -/
theorem runPatch (settings : Settings) (path : String) (traceId : Option String) (json : Bool)
    {command : Context → String → TableStore → Traced TableStore RunOutcome}
    (hcommand : ∀ ctx text (s : TableStore), s.Externalized → (command ctx text s).store.Externalized) :
    Keeps place (CommandLine.runPatch settings path traceId json command) fun _ => True := by
  unfold CommandLine.runPatch
  refine bind (of_quiet fun _ => rfl) ?_
  intro runId _
  refine bind (readPatch path) ?_
  intro text _
  cases text with
  | error e => exact pure trivial
  | ok text => exact bind (withStore settings.store fun s hs => hcommand _ text s hs) fun _ _ => pure trivial

theorem runRequest (settings : Settings) (request : Request) :
    Keeps place (CommandLine.runRequest settings request) fun _ => True := by
  cases request with
  | apply path json traceId =>
      exact runPatch settings path traceId json fun ctx text s hs =>
        (TableStore.callInvariant FeatureRecord.Externalized).applyPatch ctx text hs
  | plan path json traceId =>
      exact runPatch settings path traceId json fun ctx text s hs =>
        (TableStore.callInvariant FeatureRecord.Externalized).planPatch ctx text hs
  | check path json =>
      unfold CommandLine.runRequest
      refine bind (of_quiet fun _ => rfl) ?_
      intro runId _
      refine bind (readPatch path) ?_
      intro text _
      cases text <;> exact pure trivial
  | store request =>
      exact bind (withStore settings.store fun s hs => hs.request request) fun _ _ => pure trivial

theorem fileLayer (config : Option String) :
    Keeps place (GuardedPatch.fileLayer config : StateM World (Except PatchError SettingsLayer)) fun _ => True := by
  cases config with
  | some path => exact bind (of_quiet fun _ => rfl) fun _ _ => pure trivial
  | none =>
      refine bind (of_quiet fun _ => rfl) ?_
      intro there _
      split_ifs
      · exact bind (of_quiet fun _ => rfl) fun _ _ => pure trivial
      · exact pure trivial

theorem resolve (config : Option String) (flags : SettingsLayer) :
    Keeps place (Settings.resolve config flags : StateM World (Except PatchError Settings)) fun _ => True := by
  refine bind (fileLayer config) ?_
  intro layer _
  cases layer with
  | error e => exact pure trivial
  | ok file =>
      refine bind (of_quiet fun _ => rfl) ?_
      intro store _
      refine bind (of_quiet fun _ => rfl) ?_
      intro profile _
      exact pure trivial

/-- **A command line leaves a store externalized**, whatever it asks for and however it ends. -/
theorem run (arguments : List String) :
    Keeps place (CommandLine.run arguments : StateM World Finish) fun _ => True := by
  unfold CommandLine.run
  dsimp only
  cases Invocation.ofArguments arguments with
  | error stop => exact pure trivial
  | ok i =>
      refine bind (resolve i.config i.layer) ?_
      intro settings _
      cases settings with
      | error e => exact pure trivial
      | ok settings => exact runRequest settings i.request

end Keeps

/-! ## Histories -/

/-- What can happen to a world: a command line is run, or anything else that leaves the store at a place
as it is. -/
inductive Happens (place : List String) : World → World → Prop
  | commandLine (arguments : List String) (w : World) :
    Happens place w ((CommandLine.run arguments : StateM World Finish).run w).2
  | elsewhere {w w' : World} : w'.tree.storeAt? place = w.tree.storeAt? place → Happens place w w'

theorem Happens.externalizedAt {place : List String} {w w' : World} (h : Happens place w w')
    (hw : w.ExternalizedAt place) : w'.ExternalizedAt place := by
  cases h with
  | commandLine arguments w => exact (Keeps.run arguments w hw).2
  | elsewhere hsame =>
      intro image himage
      exact hw image (hsame ▸ himage)

/-- The store after patch texts were applied to it one after the other. -/
def afterTexts {σ : Type} [ConfigStore σ] (s : σ) (texts : List (Context × String)) : σ :=
  texts.foldl (fun s t => (applyPatch t.1 t.2 s).store) s

theorem CallInvariant.afterTexts {σ : Type} [ConfigStore σ] {I : σ → Prop}
    (h : CallInvariant FeatureRecord.Externalized I) {s : σ} (hs : I s) (texts : List (Context × String)) :
    I (GuardedPatch.afterTexts s texts) := by
  induction texts generalizing s with
  | nil => exact hs
  | cons t rest ih => exact ih (h.applyPatch t.1 t.2 hs)

/-- **Secrets stay out of stores.** Whatever happens to a world, a store at some place that had no secrets in it, as a
new one has none, has none after it; and so it is for any store that holds records when patch texts are applied to
it. -/
theorem secrets_stay_externalized :
    (∀ (place : List String) (w w' : World), Relation.ReflTransGen (Happens place) w w' →
        w.ExternalizedAt place → w'.ExternalizedAt place)
      ∧ ∀ (σ : Type) [ConfigStore σ] [RecordStore σ] (s : σ) (texts : List (Context × String)),
        (∀ r ∈ RecordStore.held s, r.Externalized) →
          ∀ r ∈ RecordStore.held (afterTexts s texts), r.Externalized := by
  refine ⟨?_, ?_⟩
  · intro place w w' hsteps hw
    induction hsteps with
    | refl => exact hw
    | tail _ hstep ih => exact hstep.externalizedAt ih
  · intro σ _ _ s texts hs
    exact (RecordStore.callInvariant FeatureRecord.Externalized).afterTexts hs texts

/-- A feature with a reference is put into a new store, and a patch lays another reference over that of a record. -/
theorem secrets_stay_externalized_reference :
    let place := [".patchx", "store.db"]
    let new : World := ⟨[], .empty, [], "run"⟩
    let put := ["store", "put-feature", "f", "--type", "t", "--field", "token=env:API"]
    let after : World := ((CommandLine.run put : StateM World Finish).run new).2
    let row : FeatureRow := ⟨"f", "t", 0, "\x7b\"token\":\"env:API\"\x7d", false⟩
    let s : MemoryStore := MemoryStore.empty.insertFeature ⟨"f", "t", .ofList [("token", "env:API"), ("url", "u")]⟩
    let text := "schema_version: 0\nfeatures:\n  - id: f\n    mode: find\n    fields:\n      token: credentialsJSON:7\n"
    let wanted : FeatureRecord := ⟨"f", "t", .ofList [("token", "credentialsJSON:7"), ("url", "u")]⟩
    let texts : List (Context × String) := [(⟨"run", none⟩, text)]
    (∃ image, after.tree.storeAt? place = some image ∧ image.tables.features = [row] ∧ image.Externalized)
      ∧ (afterTexts s texts).features = [wanted] ∧ ∀ r ∈ RecordStore.held (afterTexts s texts), r.Externalized := by
  intro place new put after row s text wanted texts
  have hnew : new.ExternalizedAt place := by
    rintro image ⟨⟩
  have hs : ∀ r ∈ RecordStore.held s, r.Externalized := by
    intro r hr
    obtain rfl : r = ⟨"f", "t", .ofList [("token", "env:API"), ("url", "u")]⟩ := List.mem_singleton.1 hr
    unfold FeatureRecord.Externalized TextMap.Externalized
    decide +kernel
  have hafter : after.ExternalizedAt place :=
    secrets_stay_externalized.1 place new after (.single (.commandLine put new)) hnew
  have hrows : (after.tree.storeAt? place).map (·.tables.features) = some [row] := by decide +kernel
  obtain ⟨image, himage, hfeatures⟩ := Option.map_eq_some_iff.1 hrows
  refine ⟨⟨image, himage, hfeatures, hafter image himage⟩, ?_, secrets_stay_externalized.2 MemoryStore s texts hs⟩
  decide +kernel

end GuardedPatch
