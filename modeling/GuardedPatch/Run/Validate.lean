import GuardedPatch.Run.Traced
import GuardedPatch.Store.Basic

set_option autoImplicit false

/-! # Validation

Validation reads a store and reports on every change of a document. That a parameter is missing or has another value
is a finding; that a feature to be found is missing stops the run. Parameters are read one by one in document order,
and the features are listed at most once, only if the document changes any. -/

namespace GuardedPatch

variable {σ : Type} [ConfigStore σ]

/-- Reads the parameters of changes and reports on each. -/
def readParams : List ParamChange → σ → Traced σ (List ParamCheck)
  | [], s => .pure [] s
  | c :: rest, s =>
    match ConfigStore.get c.key s with
    | (.error e, s) => .fail (.ofStore e) s
    | (.ok actual, s) =>
      let check : ParamCheck := ⟨c.key, c.verdict actual⟩
      ((readParams rest s).map (check :: ·)).after [.expectationChecked c.key check.verdict]

/-- Reports on feature changes against these records; the first change without a record to land on is an error. -/
def checkTargets (records : List FeatureRecord) : List FeatureChange → Except PatchError (List FeatureCheck)
  | [] => .ok []
  | c :: rest =>
    match c.target? records with
    | none => .error (.featureNotFound c.id c.type?)
    | some target => (checkTargets records rest).map (⟨c.id, target⟩ :: ·)

/-- Lists the features for feature changes and reports on each. -/
def readFeatures (cs : List FeatureChange) (s : σ) : Traced σ (List FeatureCheck) :=
  if cs.isEmpty then .pure [] s
  else
    match ConfigStore.listFeatures s with
    | (.error e, s) => .fail (.ofStore e) s
    | (.ok records, s) => ⟨checkTargets records cs, s, []⟩

/-- Reports on every change of a document. -/
def validate (d : Document) (s : σ) : Traced σ Report :=
  (readParams d.params s).andThen fun params s => (readFeatures d.features s).map (⟨params, ·⟩)

end GuardedPatch
