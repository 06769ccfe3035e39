import ApiBlueprint.CommandLine
import ApiBlueprint.Server.Frame

/-! The command itself. Only here is anything read or written. -/
namespace ApiBlueprint.Main

/-- No program is started from here, so every parser fails to start. -/
def programs : Programs := fun _ _ _ => .notStarted "Function not implemented (os error 38)"

def reason : IO.Error → String
  | .noFileOrDirectory _ _ _ => "No such file or directory (os error 2)"
  | .permissionDenied _ _ _ => "Permission denied (os error 13)"
  | .inappropriateType _ 20 _ => "Not a directory (os error 20)"
  | .inappropriateType _ 21 _ => "Is a directory (os error 21)"
  | e => toString e

def fileBytes (path : String) : IO (Except String (List UInt8)) := do
  try
    return .ok (← IO.FS.readBinFile path).toList
  catch e =>
    return .error (reason e)

/-- The length given by the header lines before the next blank line; nothing at the end of the
stream. -/
partial def readHeader (stdin : IO.FS.Stream) (length : Option Nat) : IO (Option Nat) := do
  let line ← stdin.getLine
  if line.isEmpty then return none
  if (Text.trim line.toList).isEmpty then return length
  readHeader stdin ((Frame.contentLength? line).or length)

partial def readBytes (stdin : IO.FS.Stream) (count : Nat) (bytes : ByteArray) : IO ByteArray := do
  if count ≤ bytes.size then return bytes
  let more ← stdin.read (count - bytes.size).toUSize
  if more.isEmpty then return bytes
  readBytes stdin count (bytes ++ more)

partial def serve (stdin stdout : IO.FS.Stream) (s : Session) : IO Unit := do
  match ← readHeader stdin none with
  | none => return
  | some length =>
    let bytes ← readBytes stdin length .empty
    match Frame.handle programs s bytes.toList with
    | none => return
    | some (s, frames) =>
      for frame in frames do
        stdout.putStr frame
      stdout.flush
      serve stdin stdout s

end ApiBlueprint.Main

open ApiBlueprint in
def main (args : List String) : IO UInt32 := do
  let invocation := CommandLine.read args
  match invocation with
  | some .serve =>
    Main.serve (← IO.getStdin) (← IO.getStdout) {}
    return 0
  | some (.check options) =>
    let bytes ← Main.fileBytes options.file
    finish (Check.run Main.programs options bytes)
  | other => finish (CommandLine.run Main.programs (fun _ => .error "") other)
where
  finish (outcome : Outcome) : IO UInt32 := do
    (← IO.getStdout).putStr outcome.stdout
    (← IO.getStderr).putStr outcome.stderr
    return outcome.exit.toUInt32
