import GuardedPatch.Proofs.Text.Bytes
import GuardedPatch.Proofs.TextMap

set_option autoImplicit false

/-! # Merging fields into a record

Desired fields are laid over a record one after the other, and each is compared with what is there by then. Since no
field is listed twice, that is what the record had at first: the names that are listed as changed are those whose
value was absent or another one before the merge (`FeatureRecord.mem_mergedWith_snd`), and they come in the order of
their bytes (`FeatureRecord.mergedWith_snd_ascending`).

Laying maps over each other is associative (`TextMap.insertAll_assoc`). So two merges in a row are one merge
with both maps at once, in which the later one wins. -/

namespace GuardedPatch

namespace FeatureRecord

variable (r : FeatureRecord) (desired : TextMap)

/-- The fields of a merged record are those that are desired, and all others that there were. -/
theorem get?_mergedWith (k : String) :
    (r.mergedWith desired).1.fields.get? k = (desired.get? k).or (r.fields.get? k) := by
  rw [mergedWith_fst]
  exact TextMap.get?_overlaid r.fields desired k

/-- A name is listed as changed exactly if a value is desired for it that it does not have. -/
theorem mem_mergedWith_snd {name : String} :
    name ∈ (r.mergedWith desired).2 ↔
      ∃ value, desired.get? name = some value ∧ r.fields.get? name ≠ some value := by
  simp [mergedWith_snd, TextMap.mem_entries_iff]

/-- The names that are listed come in the order of their bytes, each one once. -/
theorem mergedWith_snd_ascending :
    (r.mergedWith desired).2.Pairwise fun a b => Text.bytes a < Text.bytes b := by
  rw [mergedWith_snd, List.pairwise_map]
  apply (desired.sorted.filter _).imp
  intro e f hlt
  exact Text.bytes_lt_iff.2 hlt

/-- Fields that have been merged into a record change nothing any more. -/
theorem mergedWith_mergedWith_self :
    (r.mergedWith desired).1.mergedWith desired = ((r.mergedWith desired).1, []) := by
  have hsame : ((r.mergedWith desired).1.mergedWith desired).1 = (r.mergedWith desired).1 := by
    rw [mergedWith_fst, mergedWith_fst, TextMap.insertAll_insertAll]
  have hnone := ((r.mergedWith desired).1.mergedWith_snd_isEmpty desired).2 hsame
  exact Prod.ext hsame (List.isEmpty_iff.1 hnone)

/-- Two merges in a row are a merge with both maps, the second one laid over the first. -/
theorem mergedWith_mergedWith (next : TextMap) :
    ((r.mergedWith desired).1.mergedWith next).1 = (r.mergedWith (desired.insertAll next.entries)).1 := by
  rw [mergedWith_fst, mergedWith_fst, mergedWith_fst, TextMap.insertAll_assoc]

end FeatureRecord

/-- **Merging is a right-biased overlay with an exact list of changes.** For every record and all desired fields:
    - the merged record keeps its id and type, holds every field that is desired with the value that is desired, keeps
      every other field, and has no field besides;
    - the names that are listed are those for which a value is desired that the record did not have, in strictly
      increasing order of their bytes;
    - no name is listed exactly if the record stays as it is;
    - merging the same fields once more changes nothing and lists nothing;
    - merging other fields next gives what one merge gives with the union of both, in which the later ones win. -/
theorem merging_overlays (r : FeatureRecord) (desired : TextMap) :
    let merged := (r.mergedWith desired).1
    let changed := (r.mergedWith desired).2
    merged.id = r.id ∧ merged.type = r.type
      ∧ (∀ name, merged.fields.get? name = (desired.get? name).or (r.fields.get? name))
      ∧ (∀ name, name ∈ changed ↔ ∃ value, desired.get? name = some value ∧ r.fields.get? name ≠ some value)
      ∧ changed.Pairwise (fun a b => Text.bytes a < Text.bytes b)
      ∧ (changed = [] ↔ merged = r)
      ∧ merged.mergedWith desired = (merged, [])
      ∧ ∀ next, ∃ union, (∀ name, union.get? name = (next.get? name).or (desired.get? name))
        ∧ (merged.mergedWith next).1 = (r.mergedWith union).1 := by
  intro merged changed
  have hempty : changed = [] ↔ merged = r := by
    rw [← List.isEmpty_iff]
    exact r.mergedWith_snd_isEmpty desired
  refine ⟨rfl, rfl, r.get?_mergedWith desired, fun name => r.mem_mergedWith_snd desired,
    r.mergedWith_snd_ascending desired, hempty, r.mergedWith_mergedWith_self desired, ?_⟩
  intro next
  exact ⟨desired.insertAll next.entries, desired.get?_overlaid next, r.mergedWith_mergedWith desired next⟩

/-- Of three desired fields one has its value already, one has another value, and one is new. -/
example :
    let r : FeatureRecord := ⟨"f", "t", .ofList [("a", "1"), ("b", "1"), ("z", "1")]⟩
    r.mergedWith (.ofList [("c", "2"), ("b", "2"), ("a", "1")])
      = (⟨"f", "t", .ofList [("a", "1"), ("b", "2"), ("c", "2"), ("z", "1")]⟩, ["b", "c"]) := by
  decide +kernel

end GuardedPatch
