set_option autoImplicit false

namespace ThreeAddress

inductive Command where
  | check (file : String) (list : Bool)
  | run (file : String) (input : Option String) (maxSteps : Option Nat) (verbose : Bool)
  | init
  deriving DecidableEq, Repr

/-- What is asked for: something about the program itself, or a command. -/
inductive Request where
  | version
  | help
  | command (command : Command)
  deriving DecidableEq, Repr

namespace Command

/-- The arguments of a command as far as they were read. -/
structure Given where
  files : List String := []
  flags : List String := []
  input : Option String := none
  maxSteps : Option Nat := none
  deriving DecidableEq, Repr

structure Grammar where
  files : Nat
  flags : List String
  options : List String
  /-- Letters that stand for flags. -/
  letters : List (Char × String)
  deriving DecidableEq, Repr

/-- The arguments of `check`. -/
def checkGrammar : Grammar := ⟨1, ["list"], [], []⟩

/-- The arguments of `run`. -/
def runGrammar : Grammar := ⟨1, ["verbose"], ["input", "max-steps"], [('v', "verbose")]⟩

/-- The arguments of `init`. -/
def initGrammar : Grammar := ⟨0, [], [], []⟩

/-- What the next argument may be: anything, the value of an option, or only a file. -/
inductive Mode where
  | any
  | valueOf (option : String)
  | onlyFile
  deriving DecidableEq, Repr

/-- How far the arguments are read; a wish for help ends the reading. -/
inductive Reading where
  | help
  | going (mode : Mode) (given : Given)
  deriving DecidableEq, Repr

/-- A number of steps in decimal, with or without a plus sign, that fits 64 bits. -/
def steps? (text : String) : Option Nat :=
  let digits :=
    match text.toList with
    | '+' :: rest => rest
    | cs => cs
  if digits ≠ [] ∧ digits.all Char.isDigit then
    let value := Nat.ofDigitChars 10 digits 0
    if value < UInt64.size then some value else none
  else none

/-- A path, which is not empty. -/
def path? (text : String) : Option String :=
  if text = "" then none else some text

def addFile (grammar : Grammar) (given : Given) (file : String) : Option Given :=
  if given.files.length < grammar.files then
    (path? file).map fun file => { given with files := given.files ++ [file] }
  else none

def addFlag (grammar : Grammar) (given : Given) (flag : String) : Option Given :=
  if flag ∈ grammar.flags ∧ flag ∉ given.flags then
    some { given with flags := flag :: given.flags }
  else none

/-- Adds an option that was not given yet, with its value. -/
def addOption (given : Given) (option value : String) : Option Given :=
  match option, given.input, given.maxSteps with
  | "input", none, _ => (path? value).map fun path => { given with input := some path }
  | "max-steps", _, none => (steps? value).map fun steps => { given with maxSteps := some steps }
  | _, _, _ => none

/-- Adds the flags of letters; the letter `h` asks for help. -/
def addLetters (grammar : Grammar) : Given → List Char → Option Reading
  | given, [] => some (.going .any given)
  | given, c :: rest =>
    if c = 'h' then some .help
    else
      match (grammar.letters.lookup c).bind (addFlag grammar given) with
      | some given => addLetters grammar given rest
      | none => none

/-- Adds what stands behind two dashes: an option with or without its value, a flag, or `help`. -/
def addLong (grammar : Grammar) (given : Given) (text : List Char) : Option Reading :=
  let (name, tail) := text.span (· != '=')
  let name := String.ofList name
  if name ∈ grammar.options then
    match tail with
    | [] => some (.going (.valueOf name) given)
    | _ :: value => (addOption given name (String.ofList value)).map (.going .any)
  else if tail ≠ [] then none
  else if name = "help" then some .help
  else (addFlag grammar given name).map (.going .any)

/-- Whether an argument can be the value of the option before it. -/
def isValue (arg : String) : Bool :=
  arg == "-" || arg.toList.head? != some '-'

def readStep (grammar : Grammar) (given : Given) (arg : String) : Mode → Option Reading
  | .onlyFile => (addFile grammar given arg).map (.going .onlyFile)
  | .valueOf option =>
    if isValue arg then (addOption given option arg).map (.going .any) else none
  | .any =>
    match arg.toList with
    | ['-', '-'] => some (.going .onlyFile given)
    | '-' :: '-' :: text => addLong grammar given text
    | '-' :: c :: letters => addLetters grammar given (c :: letters)
    | _ => (addFile grammar given arg).map (.going .any)

def read (grammar : Grammar) : Reading → List String → Option Reading
  | reading, [] => some reading
  | .help, _ => some .help
  | .going mode given, arg :: rest =>
    match readStep grammar given arg mode with
    | some reading => read grammar reading rest
    | none => none

def ofGiven? (name : String) (given : Given) : Option Command :=
  match name, given.files with
  | "check", [file] => some (.check file (given.flags.contains "list"))
  | "run", [file] => some (.run file given.input given.maxSteps (given.flags.contains "verbose"))
  | "init", [] => some .init
  | _, _ => none

def grammar? : String → Option Grammar
  | "check" => some checkGrammar
  | "run" => some runGrammar
  | "init" => some initGrammar
  | _ => none

/-- Whether there is help on what the arguments name: the program, a command, or help itself. -/
def isHelpTopic : List String → Bool
  | [] => true
  | [name] => name == "help" || (grammar? name).isSome
  | _ => false

/-- Reads the arguments of the program; `none` if they ask for nothing that it knows. -/
def parse? : List String → Option Request
  | [] => none
  | arg :: rest =>
    match arg.toList with
    | '-' :: 'V' :: _ => some .version
    | '-' :: 'h' :: _ => some .help
    | _ =>
      if arg = "--version" then some .version
      else if arg = "--help" then some .help
      else if arg = "help" then if isHelpTopic rest then some .help else none
      else
        match grammar? arg with
        | none => none
        | some grammar =>
          match read grammar (.going .any {}) rest with
          | some .help => some .help
          | some (.going (.valueOf _) _) | none => none
          | some (.going _ given) => (ofGiven? arg given).map .command

end Command

end ThreeAddress
