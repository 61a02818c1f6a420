import GuardedPatch.CommandLine.Run
import GuardedPatch.Files.World
import GuardedPatch.Log.Line

set_option autoImplicit false

/-! # The program

Commands run on the files, the environment and the streams of the machine. A store is kept as the text of its image.
What was asked for is printed on the standard output; events and failures go to the standard error. -/

namespace GuardedPatch

open Files (Fault)

/-- The fault that an error of the machine tells of. Its number may come with its sign turned. -/
def faultOfError : IO.Error → Fault
  | .noFileOrDirectory .. => .absent
  | .alreadyExists .. => .present
  | .inappropriateType _ code _ => if code = 20 ∨ code + 20 = 0 then .notDirectory else .isDirectory
  | e => .other e.toString

/-- Does something that can fail. -/
def attempt {α : Type} (action : IO α) : IO (Except Fault α) := do
  try return .ok (← action)
  catch e => return .error (faultOfError e)

/-- The text in bytes that were read. -/
def textOf (bytes : Except Fault ByteArray) : Except Fault String := do
  readBytes (← bytes)

/-- All bytes that are left in a stream, after those read before. -/
partial def readAll (stream : IO.FS.Stream) (before : ByteArray) : IO ByteArray := do
  let bytes ← stream.read 65536
  if bytes.isEmpty then return before else readAll stream (before ++ bytes)

/-- The image in a file that was read. -/
def imageOf (path : String) : Except Fault ByteArray → Except String StoreImage
  | .ok bytes =>
    match (readBytes bytes).toOption.bind StoreImage.ofText? with
    | some image => .ok image
    | none => .error "file is not a database"
  | .error _ => .error ("unable to open database file: " ++ path)

/-- Bytes as the text of an id: hexadecimal digits in groups. -/
def idText (bytes : List UInt8) : String :=
  let digits := bytes.flatMap fun b => [Json.hexDigit (b.toNat / 16), Json.hexDigit (b.toNat % 16)]
  let group (start size : Nat) : String := String.ofList ((digits.drop start).take size)
  String.intercalate "-" [group 0 8, group 8 4, group 12 4, group 16 4, group 20 12]

instance : Host IO where
  readText path := do return textOf (← attempt (IO.FS.readBinFile path))
  readInput := do return textOf (← attempt (do readAll (← IO.getStdin) .empty))
  isThere path := do return (← attempt (IO.FS.Handle.mk path .read)).toBool
  makeDirectories path := attempt (IO.FS.createDirAll path)
  openStore path := do
    match ← attempt (IO.FS.readBinFile path) with
    | .error .absent =>
      match ← attempt (IO.FS.writeFile path StoreImage.empty.text) with
      | .ok _ => return .ok .empty
      | .error fault => return imageOf path (.error fault)
    | found => return imageOf path found
  saveStore path image := IO.FS.writeFile path image.text
  environment name := IO.getEnv name
  newRunId := do return idText (← IO.getRandomBytes 16).toList

/-- How the program is used. -/
def usage : String :=
  "usage: [--config PATH] [--store PATH] [--log PROFILE] COMMAND\n\n"
    ++ "  apply PATH [--json] [--trace-id ID]\n  plan PATH [--json] [--trace-id ID]\n  validate PATH [--json]\n"
    ++ "  store get KEY\n  store set KEY VALUE\n  store list [--json]\n  store features [--json]\n"
    ++ "  store put-feature ID --type TYPE [--field NAME=VALUE]...\n  store lock KEY [--unlock]\n\n"
    ++ "PATH can be - for the standard input.\n"

end GuardedPatch

open GuardedPatch in
/-- Runs a command line. -/
def main (arguments : List String) : IO UInt32 := do
  let finish ← CommandLine.run (m := IO) arguments
  for line in Log.lines finish.profile finish.context finish.events do
    IO.eprintln line
  match finish.ending with
  | .stopped .help => IO.print usage
  | .stopped .misuse => IO.eprint usage
  | ending =>
    IO.print ending.output
    for line in ending.complaint? do
      IO.eprintln line
  return UInt32.ofNat finish.ending.exitCode
