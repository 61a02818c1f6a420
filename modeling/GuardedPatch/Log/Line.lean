import GuardedPatch.Log.Event
import GuardedPatch.Settings.Profile

set_option autoImplicit false

/-! # Log lines

In production every event but the finest is a line of JSON; in development every event is a line to be read. -/

namespace GuardedPatch.Log

open Json (Value)

/-- A record as a JSON object. -/
def Record.toJson (r : Record) : Value :=
  .obj [("level", .str r.level.name), ("fields", Value.ofTextMap r.fields)]

/-- A record as a line to be read. -/
def Record.readable (r : Record) : String :=
  String.intercalate " " (r.level.name :: r.fields.entries.map fun e => e.1 ++ "=" ++ Text.quoted e.2)

/-- The lines that events of a run make in the log. -/
def lines (profile : Profile) (ctx : Context) (events : List Event) : List String :=
  let records := events.map (·.record ctx)
  match profile with
  | .development => records.map Record.readable
  | .production => (records.filter (·.level != .debug)).map (·.toJson.compact)
  | .test => []

end GuardedPatch.Log
