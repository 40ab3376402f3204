import ThreeAddress.Machine

set_option autoImplicit false

/- A run makes steps until the program ends or a step fails. `run` is a function of how many calls of
`step` it may make; `none` says that these were too few. `runOn` has no such bound; nothing is known
of what it gives for a run that never ends. -/
namespace ThreeAddress

/-- How a run ended: behind the last instruction, or by `exit`. -/
inductive ExitStatus where
  | completed
  | exited (code : Nat)
  deriving DecidableEq, Repr

def ExitStatus.code : ExitStatus → Nat
  | .completed => 0
  | .exited code => code

namespace Machine

def status (m : Machine) : ExitStatus :=
  match m.exited with
  | none => .completed
  | some code => .exited code

abbrev RunResult := Except RuntimeError ExitStatus

/-- Runs with at most `fuel` calls of `step`. -/
def run (program : Program) (limit : Option Nat) : Nat → Machine → Option RunResult × Machine
  | 0, m => (none, m)
  | fuel + 1, m =>
    match m.step program limit with
    | (.ended, m) => (some (.ok m.status), m)
    | (.failed error, m) => (some (.error error), m)
    | (.done _, m) => run program limit fuel m

/-- Calls of `step` enough for a run: one more than a limit allows. Without a limit, a run counts its
steps in 64 bits. -/
def enough : Option Nat → Nat
  | some limit => limit + 1
  | none => UInt64.size

def runToEnd (program : Program) (limit : Option Nat) (m : Machine) : Option RunResult × Machine :=
  run program limit (enough limit) m

instance nonemptyRun : Nonempty (RunResult × Machine) :=
  ⟨(.ok .completed, { input := .bytes [] })⟩

/-- Runs on until the run ends, however many steps that takes. -/
def runOn (program : Program) (limit : Option Nat) (m : Machine) : RunResult × Machine :=
  Id.run <| m |> repeatM fun m =>
    match m.step program limit with
    | (.ended, last) => pure (.inr (.ok last.status, last))
    | (.failed error, last) => pure (.inr (.error error, last))
    | (.done _, next) => pure (.inl next)

end Machine

end ThreeAddress
