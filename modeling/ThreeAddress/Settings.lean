import ThreeAddress.Toml.Document

set_option autoImplicit false

namespace ThreeAddress

structure Settings where
  maxSteps : Option Nat := none
  level : Option String := none
  deriving DecidableEq, Repr

namespace Settings

def fileName : String := "ippi.toml"

/-- Reads the one field of a section: `none` if the section cannot be read. -/
def section? {α : Type} (root : Toml.Entries) (name field : String) (read : Toml.Item → Option α) :
    Option (Option α) :=
  match root.lookup name with
  | none => some none
  | some .dateTime => some none
  | some (.table _ entries) =>
    match entries.lookup field with
    | none => some none
    | some item => (read item).map some
  | some (.array (item :: _)) => (read item).map some
  | some _ => none

def steps? : Toml.Item → Option Nat
  | .integer n => if 0 ≤ n then some n.toNat else none
  | _ => none

def text? : Toml.Item → Option String
  | .string text => some text
  | _ => none

def ofRoot? (root : Toml.Entries) : Option Settings := do
  let maxSteps ← section? root "run" "max_steps" steps?
  let level ← section? root "log" "level" text?
  return { maxSteps, level }

def parse? (text : String) : Option Settings :=
  (Toml.parse? text).bind ofRoot?

/-- The limit of a run: what the command line says goes first. -/
def limit (settings : Settings) (given : Option Nat) : Option Nat :=
  given.or settings.maxSteps

/-- The log filter: `verbose` goes first, and without either only warnings are logged. -/
def directive (settings : Settings) (verbose : Bool) : String :=
  if verbose then "debug" else settings.level.getD "warn"

/-- The settings file that `init` writes. -/
def template : String :=
  "# ippi configuration\n\n[run]\n# Abort a run after this many instructions.\n"
    ++ "# max_steps = 1000000\n\n[log]\n"
    ++ "# Filter directive for diagnostics on stderr (RUST_LOG overrides it).\nlevel = \"warn\"\n"

end Settings

end ThreeAddress
