import ThreeAddress.Session

set_option autoImplicit false

open ThreeAddress

/-- All bytes of a stream. -/
partial def readAll (stream : IO.FS.Stream) (seen : ByteArray) : IO ByteArray := do
  let bytes ← stream.read 65536
  if bytes.isEmpty then return seen else readAll stream (seen ++ bytes)

def reasonOf : IO.Error → String
  | .permissionDenied .. => "Permission denied (os error 13)"
  | .inappropriateType .. => Lookup.notDirectory
  | .invalidArgument .. => Lookup.nameTooLong
  | error => error.toString

def openAt (path : String) : IO (Except String Input) := do
  match ← (IO.FS.Handle.mk path .read).toBaseIO with
  | .error error => return .error (reasonOf error)
  | .ok handle =>
    match ← handle.readBinToEnd.toBaseIO with
    | .error error => return .ok (.unreadable (reasonOf error))
    | .ok content => return .ok (.bytes content.toList)

/-- What a path leads to. A device or pipe is opened only if it is `wanted`. -/
def lookAt (path : String) (wanted : Bool) : IO Lookup := do
  let here ← IO.currentDir
  match ← (here / path).metadata.toBaseIO with
  | .error (.noFileOrDirectory ..) => return .missing
  | .error error => return .refused (reasonOf error)
  | .ok found =>
    match found.type with
    | .dir => return .directory
    | .file => return .file (← openAt path)
    | _ => return .other (← if wanted then openAt path else pure (.ok (.bytes [])))

def pathsOf : Option Request → List String
  | some (.command (.check file _)) => [file]
  | some (.command (.run file input _ _)) => file :: input.toList
  | _ => []

def readsStdin : Option Request → Bool
  | some (.command (.run _ none _ _)) => true
  | _ => false

def surroundings (args : List String) : IO Surroundings := do
  let request := Command.parse? args
  let here := (← IO.currentDir).toString
  let settings ← (FileTree.ancestors here).mapM fun place => do
    let path := FileTree.join place Settings.fileName
    return (path, ← lookAt path false)
  let found ← (pathsOf request).mapM fun path => return (path, ← lookAt path true)
  let own := (Settings.fileName, ← lookAt Settings.fileName false)
  let stdin ← if readsStdin request then readAll (← IO.getStdin) .empty else pure .empty
  return {
    settings
    look := fun path => ((found ++ [own]).lookup path).getD .missing
    filter := ← IO.getEnv "RUST_LOG"
    stdin := stdin.toList }

def main (args : List String) : IO UInt32 := do
  let report := Session.perform (← surroundings args) args
  if let some (path, content) := report.created then
    IO.FS.writeBinFile path ⟨content.toArray⟩
  let stdout ← IO.getStdout
  stdout.write ⟨report.stdout.toArray⟩
  stdout.flush
  (← IO.getStderr).putStr report.stderr
  return report.code.toUInt32
