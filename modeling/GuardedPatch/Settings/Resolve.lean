import GuardedPatch.Files.Host
import GuardedPatch.Settings.Profile
import GuardedPatch.Settings.Toml

set_option autoImplicit false

/-! # Settings

Settings come in layers, each over the one before: what is built in, the settings file, the environment, and the
command line. A settings file that was asked for has to be there; the usual one is read if it is. A variable that is
set to nothing counts as not set. -/

namespace GuardedPatch

/-- What commands are run with. -/
structure Settings where
  /-- The path of the store. -/
  store : String
  profile : Profile
deriving DecidableEq, Repr

/-- The settings that are built in. -/
def Settings.builtIn : Settings := ⟨".patchx/store.db", .production⟩

/-- The settings of one layer; what is not given is left as it is. -/
structure SettingsLayer where
  store : Option String
  profile : Option Profile
deriving DecidableEq, Repr

/-- The settings with a layer over them. -/
def Settings.under (s : Settings) (l : SettingsLayer) : Settings :=
  ⟨l.store.getD s.store, l.profile.getD s.profile⟩

/-- The layer of assignments: a store, and a profile by its full name, each at most once. -/
def SettingsLayer.ofAssignments : List (String × String) → Option SettingsLayer
  | [] => some ⟨none, none⟩
  | (name, value) :: rest => do
    let layer ← ofAssignments rest
    match name with
    | "store" => return { layer with store := some value }
    | "log_profile" => return { layer with profile := some (← Profile.ofWord? value) }
    | _ => none

/-- The layer of a settings file. -/
def SettingsLayer.ofText? (text : String) : Option SettingsLayer := do
  ofAssignments (← Toml.assignments? text)

/-- Where the settings file usually is. -/
def usualSettingsFile : String := ".patchx/patchx.toml"

/-- The layer of a settings file that was read from a path. -/
def SettingsLayer.ofFile (path : String) : Except Files.Fault String → Except PatchError SettingsLayer
  | .error fault => .error (.config ("cannot read " ++ path ++ ": " ++ fault.message))
  | .ok text =>
    match SettingsLayer.ofText? text with
    | some layer => .ok layer
    | none => .error (.config ("invalid " ++ path ++ ": TOML parse error"))

/-- The layer of the values of the two environment variables. -/
def SettingsLayer.ofEnvironment (store profile : Option String) : Except PatchError SettingsLayer := do
  let given (value : Option String) : Option String := value.filter (· != "")
  match given profile with
  | none => return ⟨given store, none⟩
  | some word =>
    match Profile.read word with
    | .ok p => return ⟨given store, some p⟩
    | .error message => .error (.config ("PATCHX_LOG: " ++ message))

variable {m : Type → Type} [Monad m] [Host m]

/-- The layer of the settings file: the one that was asked for, or else the usual one. -/
def fileLayer (config : Option String) : m (Except PatchError SettingsLayer) := do
  match config with
  | some path => return SettingsLayer.ofFile path (← Host.readText path)
  | none =>
    if ← Host.isThere usualSettingsFile then
      return SettingsLayer.ofFile usualSettingsFile (← Host.readText usualSettingsFile)
    else return .ok ⟨none, none⟩

/-- The settings that count, under the layer of the command line. -/
def Settings.resolve (config : Option String) (flags : SettingsLayer) : m (Except PatchError Settings) := do
  match ← fileLayer config with
  | .error e => return .error e
  | .ok file =>
    let store ← Host.environment "PATCHX_STORE"
    let profile ← Host.environment "PATCHX_LOG"
    return do
      let environment ← SettingsLayer.ofEnvironment store profile
      return ((Settings.builtIn.under file).under environment).under flags

end GuardedPatch
