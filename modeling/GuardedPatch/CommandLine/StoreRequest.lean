import GuardedPatch.CommandLine.Request
import GuardedPatch.Store.Table

set_option autoImplicit false

/-! # Requests to a store

These requests are the owner's: they look at no lock and no expectation. Only references get into secret fields, and
what is listed shows no value of one. -/

namespace GuardedPatch

open Json (Value)

/-- The record with the fixed text in place of its secrets. -/
def FeatureRecord.masked (r : FeatureRecord) : FeatureRecord :=
  { r with
    fields := .ofList (r.fields.entries.map fun e =>
      (e.1, if isSecretField e.1 then (Sensitive.mk e.2).shown else e.2)) }

/-- A record as a JSON object. -/
def FeatureRecord.toJson (r : FeatureRecord) : Value :=
  .obj [("id", .str r.id), ("feature_type", .str r.type), ("fields", Value.ofTextMap r.fields)]

/-- The lines for a record. -/
def FeatureRecord.summary (r : FeatureRecord) : List String :=
  (r.id ++ " (" ++ r.type ++ ")") :: r.fields.entries.map fun e => "  " ++ e.1 ++ " = " ++ e.2

namespace CommandLine

/-- The first of some fields that is not fit to be stored. -/
def firstUnsafe? (fields : List (String × String)) : Option (String × String) :=
  fields.find? fun f => !Document.isSafeField f.1 f.2

/-- Does what is asked of a store; answers with the lines to print. -/
def StoreRequest.run (request : StoreRequest) (s : TableStore) : Except PatchError (List String) × TableStore :=
  match request with
  | .get key =>
    match ConfigStore.get key s with
    | (.ok (some value), s) => (.ok [value], s)
    | (.ok none, s) => (.error (.persistence ("no parameter named '" ++ key ++ "'")), s)
    | (.error e, s) => (.error (.ofStore e), s)
  | .set key value =>
    let (a, s) := s.putParam key value
    (a.map fun _ => ["✓ " ++ key ++ " = " ++ value], s)
  | .list json =>
    match ConfigStore.listParams s with
    | (.ok params, s) =>
      (.ok (if json then [(Value.obj (params.map fun p => (p.1, .str p.2))).compact]
        else params.map fun p => p.1 ++ " = " ++ p.2), s)
    | (.error e, s) => (.error (.ofStore e), s)
  | .features json =>
    match ConfigStore.listFeatures s with
    | (.ok records, s) =>
      let shown := records.map FeatureRecord.masked
      (.ok (if json then [(Value.arr (shown.map FeatureRecord.toJson)).indented]
        else shown.flatMap FeatureRecord.summary), s)
    | (.error e, s) => (.error (.ofStore e), s)
  | .putFeature id type fields =>
    match firstUnsafe? fields with
    | some (name, _) => (.error (.load (.inlineSecret id name)), s)
    | none =>
      let (a, s) := s.putFeature ⟨id, type, .ofList fields⟩
      (a.map fun _ => ["✓ feature " ++ id ++ " stored"], s)
  | .setLocked key locked =>
    match s.setLocked key locked with
    | (.ok true, s) => (.ok ["✓ " ++ key ++ (if locked then " locked" else " unlocked")], s)
    | (.ok false, s) => (.error (.persistence ("no parameter or feature named '" ++ key ++ "'")), s)
    | (.error e, s) => (.error e, s)

end CommandLine

end GuardedPatch
