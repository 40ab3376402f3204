import ThreeAddress.Color
import ThreeAddress.Command
import ThreeAddress.Files
import ThreeAddress.Log
import ThreeAddress.Serial.Record
import ThreeAddress.Settings

set_option autoImplicit false

namespace ThreeAddress

inductive SessionError where
  /-- A program or input file cannot be opened. -/
  | unopened (path reason : String)
  /-- The output cannot be passed on. -/
  | unwritten (reason : String)
  /-- A settings file cannot be read. -/
  | settingsUnread (path reason : String)
  /-- A settings file does not say what settings are. -/
  | settingsInvalid (path : String)
  | build (error : BuildError)
  | runtime (error : RuntimeError)
  deriving DecidableEq, Repr

namespace SessionError

def exitCode : SessionError → Nat
  | .unopened _ _ => 11
  | .unwritten _ => 12
  | .settingsUnread _ _ | .settingsInvalid _ => 13
  | .build error => error.kind.exitCode
  | .runtime error => error.kind.exitCode

def message : SessionError → String
  | .unopened path reason => "cannot read '" ++ path ++ "': " ++ reason
  | .unwritten reason => "writing output: " ++ reason
  | .settingsUnread path reason => "cannot read '" ++ path ++ "': " ++ reason
  | .settingsInvalid path => "invalid toml in '" ++ path ++ "': this is no settings file"
  | .build error => error.message
  | .runtime error => error.message

end SessionError

/-- What a session finds around it. -/
structure Surroundings where
  /-- What the places lead to where a settings file may be, nearest first. -/
  settings : List (String × Lookup) := []
  /-- What the paths lead to that the arguments name. -/
  look : String → Lookup := fun _ => .missing
  /-- A log filter that goes before the settings. -/
  filter : Option String := none
  stdin : Bytes := []

/-- What a session does. -/
structure Report where
  code : Nat
  stdout : Bytes := []
  stderr : String := ""
  /-- A file that is written. -/
  created : Option (String × Bytes) := none
  /-- The machine at the end of the run, if a run was begun. -/
  machine : Option Machine := none

namespace Session

def version : String := "ippi 0.3.0"

def usage : String :=
  "Usage: ippi check [--list] <FILE>\n"
    ++ "       ippi run [--input <INPUT>] [--max-steps <MAX_STEPS>] [--verbose] <FILE>\n"
    ++ "       ippi init\n"

/-- The status for arguments that ask for nothing that is known. -/
def usageStatus : Nat := 2

def internalStatus : Nat := 99

/-- Lines, each with its line feed. -/
def linesText (lines : List String) : String :=
  String.join (lines.map (· ++ "\n"))

def errorLine (message : String) : String :=
  Color.red "error:" ++ " " ++ message ++ "\n"

def readSettings (path : String) (found : Lookup) : Except SessionError Settings :=
  match found.text with
  | .error reason => .error (.settingsUnread path reason)
  | .ok text =>
    match Settings.parse? text with
    | none => .error (.settingsInvalid path)
    | some settings => .ok settings

/-- Reads the nearest settings file. What is no regular file is passed over; a regular file that cannot
be opened or read is not. -/
def findSettings : List (String × Lookup) → Except SessionError (Option (String × Settings))
  | [] => .ok none
  | (path, .file opened) :: _ =>
    (readSettings path (.file opened)).map fun settings => some (path, settings)
  | _ :: rest => findSettings rest

def loadProgram (path : String) (found : Lookup) : Except SessionError Program :=
  match found.text with
  | .error reason => .error (.unopened path reason)
  | .ok text =>
    match Program.parse text with
    | .error error => .error (.build error)
    | .ok program => .ok program

def loadEvents (path : String) (program : Program) : List Event :=
  [Event.ofProgram program, .loaded path program.size]

/-- The result of a run as that of a session: output that is not passed on goes before it. -/
def settle (sink : Sink) (result : Machine.RunResult) : Except SessionError ExitStatus :=
  match sink.flushRefusal, result with
  | some reason, _ => .error (.unwritten reason)
  | none, .ok status => .ok status
  | none, .error error => .error (.runtime error)

def runProgram (program : Program) (limit : Option Nat) (start : Machine) :
    Except SessionError ExitStatus × Machine :=
  let (result, last) := start.runOn program limit
  (settle last.output result, last)

/-- The log of events, with what is said about the filter in front. -/
def log (directive : String) (events : Log.Filter → List Event) : String :=
  let filter := Log.Filter.parse directive
  linesText (Log.Filter.complaints directive ++ Log.lines filter (events filter))

def failed (told : String) (error : SessionError) : Report :=
  { code := error.exitCode, stderr := told ++ errorLine error.message }

def summary (path : String) (program : Program) : String :=
  Color.green "✓" ++ " " ++ Color.bold path ++ " "
    ++ Color.gray (program.size.repr ++ " instructions, " ++ program.labels.length.repr ++ " labels")

/-- Checks a program, and lists it if asked to. -/
def check (around : Surroundings) (directive file : String) (list : Bool) : Report :=
  match loadProgram file (around.look file) with
  | .error error => failed (log directive fun _ => []) error
  | .ok program =>
    let lines := (if list then program.listing else []) ++ [summary file program]
    { code := 0
      stdout := Utf8.ofString (linesText lines)
      stderr := log directive fun _ => loadEvents file program }

/-- The lines that a run reads, or why they cannot be opened. -/
def openInput (around : Surroundings) : Option String → Except SessionError Input
  | none => .ok (.bytes around.stdin)
  | some path =>
    match (around.look path).input with
    | .error reason => .error (.unopened path reason)
    | .ok input => .ok input

def run (around : Surroundings) (directive file : String) (inputFile : Option String)
    (limit : Option Nat) : Report :=
  match loadProgram file (around.look file) with
  | .error error => failed (log directive fun _ => []) error
  | .ok program =>
    match openInput around inputFile with
    | .error error => failed (log directive fun _ => loadEvents file program) error
    | .ok input =>
      let start : Machine := { input }
      let (result, last) := runProgram program limit start
      let told := log directive fun filter =>
        loadEvents file program ++ if filter.isSilent then [] else Event.ofRun program limit start
      let done : Report := { code := 0, stdout := last.output.written, stderr := told, machine := some last }
      match result with
      | .ok status => { done with code := status.code }
      | .error error =>
        { done with code := error.exitCode, stderr := told ++ errorLine error.message }

/-- Writes a settings file, unless there is one. -/
def init (around : Surroundings) (directive : String) : Report :=
  let told := log directive fun _ => []
  if (around.look Settings.fileName).isThere then
    { code := internalStatus
      stderr := told ++ errorLine (Settings.fileName ++ " already exists, not overwriting") }
  else
    { code := 0
      stdout := Utf8.ofString (Color.green "created" ++ " " ++ Settings.fileName ++ "\n")
      stderr := told
      created := some (Settings.fileName, Utf8.ofString Settings.template) }

/-- The log filter of a command. One that is given from outside goes first, if all of it can be read. -/
def directiveOf (around : Surroundings) (settings : Settings) (command : Command) : String :=
  let verbose :=
    match command with
    | .run _ _ _ verbose => verbose
    | _ => false
  match around.filter with
  | some given =>
    if (Log.Filter.complaints given).isEmpty then given else settings.directive verbose
  | none => settings.directive verbose

def execute (around : Surroundings) (command : Command) : Report :=
  match findSettings around.settings with
  | .error error => failed "" error
  | .ok found =>
    let settings := (found.map Prod.snd).getD {}
    let directive := directiveOf around settings command
    match command with
    | .check file list => check around directive file list
    | .run file input maxSteps _ => run around directive file input (settings.limit maxSteps)
    | .init => init around directive

/-- A whole session, from the arguments on. -/
def perform (around : Surroundings) (args : List String) : Report :=
  match Command.parse? args with
  | none => { code := usageStatus, stderr := usage }
  | some .version => { code := 0, stdout := Utf8.ofString (version ++ "\n") }
  | some .help => { code := 0, stdout := Utf8.ofString usage }
  | some (.command command) => execute around command

end Session

end ThreeAddress
