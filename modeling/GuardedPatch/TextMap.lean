set_option autoImplicit false

/-! # Maps from texts to texts

Feature fields and stored parameters are maps whose order shows: listings, change lists and digests go by key, and
keys are compared by their code points, which is also the order of their UTF-8 bytes. A map is kept as the one
list of its entries that is strictly sorted by key, so that two maps are equal exactly when they hold the same
entries. -/

namespace GuardedPatch

/-- A finite map from texts to texts, held as its entries in strictly increasing order of the keys. -/
structure TextMap where
  /-- Entries in key order. -/
  entries : List (String × String)
  /-- Every key is smaller than the keys after it. -/
  sorted : entries.Pairwise fun a b => a.1 < b.1
deriving DecidableEq

namespace TextMap

/-- Puts an entry at its place in a sorted list, instead of the entry with the same key if there is one. -/
def insertEntry (key value : String) : List (String × String) → List (String × String)
  | [] => [(key, value)]
  | e :: rest =>
    if key < e.1 then (key, value) :: e :: rest
    else if key = e.1 then (key, value) :: rest
    else e :: insertEntry key value rest

theorem mem_insertEntry {key value : String} {es : List (String × String)} {x : String × String}
    (h : x ∈ insertEntry key value es) : x = (key, value) ∨ x ∈ es := by
  induction es with
  | nil => simpa [insertEntry] using h
  | cons e rest ih =>
    simp only [insertEntry] at h
    split at h
    · simpa using h
    · split at h
      · rcases List.mem_cons.1 h with h | h
        · exact .inl h
        · exact .inr (List.mem_cons_of_mem _ h)
      · rcases List.mem_cons.1 h with h | h
        · exact .inr (h ▸ List.mem_cons_self)
        · exact (ih h).imp_right (List.mem_cons_of_mem _)

theorem pairwise_insertEntry (key value : String) {es : List (String × String)}
    (h : es.Pairwise fun a b => a.1 < b.1) : (insertEntry key value es).Pairwise fun a b => a.1 < b.1 := by
  induction es with
  | nil => simp [insertEntry]
  | cons e rest ih =>
    obtain ⟨hhead, htail⟩ := List.pairwise_cons.1 h
    simp only [insertEntry]
    split
    case isTrue hlt =>
      refine List.pairwise_cons.2 ⟨fun x hx => ?_, h⟩
      rcases List.mem_cons.1 hx with hx | hx
      · exact hx ▸ hlt
      · exact String.lt_trans hlt (hhead x hx)
    case isFalse hlt =>
      split
      case isTrue heq => exact List.pairwise_cons.2 ⟨fun x hx => heq ▸ hhead x hx, htail⟩
      case isFalse hne =>
        refine List.pairwise_cons.2 ⟨fun x hx => ?_, ih htail⟩
        rcases mem_insertEntry hx with rfl | hx
        · exact Std.lt_of_le_of_ne hlt (Ne.symm hne)
        · exact hhead x hx

/-- The map without entries. -/
def empty : TextMap := ⟨[], .nil⟩

instance : Inhabited TextMap := ⟨empty⟩

/-- The map that holds `value` at `key` and agrees with `m` elsewhere. -/
def insert (m : TextMap) (key value : String) : TextMap :=
  ⟨insertEntry key value m.entries, pairwise_insertEntry key value m.sorted⟩

/-- The value stored at a key. -/
def get? (m : TextMap) (key : String) : Option String :=
  m.entries.lookup key

/-- The keys in order. -/
def keys (m : TextMap) : List String :=
  m.entries.map (·.1)

/-- Inserts the entries of a list one after the other, so that the last value given for a key stays. -/
def insertAll (m : TextMap) (es : List (String × String)) : TextMap :=
  es.foldl (fun m e => m.insert e.1 e.2) m

/-- The map of a list of entries, in which the last value given for a key counts. -/
def ofList (es : List (String × String)) : TextMap :=
  empty.insertAll es

end TextMap

end GuardedPatch
