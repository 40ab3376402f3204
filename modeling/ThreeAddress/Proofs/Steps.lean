import ThreeAddress.Proofs.Rules

set_option autoImplicit false

namespace ThreeAddress.Machine

variable {program : Program} {limit : Option Nat} {m : Machine}

/-- The next step executes this instruction: the run goes on, and the limit leaves room for a step. -/
structure Executes (program : Program) (limit : Option Nat) (m : Machine) (ins : Instruction) :
    Prop where
  running : m.isFinished program = false
  allowed : m.limitReached? limit = none
  here : program.get? m.position = some ins

/-- The machine when a step is counted and nothing is done yet. -/
def counted (m : Machine) : Machine :=
  { m with steps := m.steps + 1 }

/-- All that a step can do: what comes of it, and the machine after it. -/
inductive Moves (program : Program) (limit : Option Nat) (m : Machine) :
    StepResult → Machine → Prop
  | ended (finished : m.isFinished program = true) : Moves program limit m .ended m
  | cut {bound : Nat} (running : m.isFinished program = false) (given : limit = some bound)
      (spent : bound ≤ m.steps) : Moves program limit m (.failed ⟨.stepLimit bound, none⟩) m
  | failed {ins : Instruction} {fault : Fault} {last : Machine}
      (executes : m.Executes program limit ins)
      (acts : Acts program ins m.counted (.error fault) last) :
      Moves program limit m (.failed ⟨fault, some ⟨ins.order, ins.op⟩⟩) last
  | done {ins : Instruction} {outcome : Outcome} {last : Machine}
      (executes : m.Executes program limit ins)
      (acts : Acts program ins m.counted (.ok outcome) last) :
      Moves program limit m (.done outcome) (last.follow outcome)

theorem position_lt_of_running (running : m.isFinished program = false) :
    m.position < program.size := by
  simp only [isFinished, Bool.or_eq_false_iff, decide_eq_false_iff_not, Nat.not_le] at running
  exact running.2

theorem exited_of_running (running : m.isFinished program = false) : m.exited = none := by
  simp only [isFinished, Bool.or_eq_false_iff] at running
  exact Option.isNone_iff_eq_none.mp (by simpa using running.1)

theorem limitReached?_eq_some {bound : Nat} :
    m.limitReached? limit = some bound ↔ limit = some bound ∧ bound ≤ m.steps := by
  simp [limitReached?, Option.filter_eq_some_iff]

theorem Executes.step_error {ins : Instruction} {fault : Fault} {last : Machine}
    (executes : m.Executes program limit ins)
    (failed : execute program ins m.counted = (.error fault, last)) :
    m.step program limit = (.failed ⟨fault, some ⟨ins.order, ins.op⟩⟩, last) := by
  rw [counted] at failed
  simp only [step, executes.running, Bool.false_eq_true, ↓reduceIte, executes.allowed,
    executes.here, failed, RuntimeError.locate_fault]

theorem Executes.step_ok {ins : Instruction} {outcome : Outcome} {last : Machine}
    (executes : m.Executes program limit ins)
    (succeeded : execute program ins m.counted = (.ok outcome, last)) :
    m.step program limit = (.done outcome, last.follow outcome) := by
  rw [counted] at succeeded
  simp only [step, executes.running, Bool.false_eq_true, ↓reduceIte, executes.allowed,
    executes.here, succeeded]

/-- A step of a program moves by the rules. -/
theorem step_moves (program : Program) (limit : Option Nat) (m : Machine) :
    Moves program limit m (m.step program limit).1 (m.step program limit).2 := by
  cases running : m.isFinished program with
  | true =>
    simp only [step, running, ↓reduceIte]
    exact .ended running
  | false =>
    cases allowed : m.limitReached? limit with
    | some bound =>
      obtain ⟨given, spent⟩ := limitReached?_eq_some.mp allowed
      simp only [step, running, Bool.false_eq_true, ↓reduceIte, allowed]
      exact .cut running given spent
    | none =>
      obtain ⟨ins, here⟩ := Program.get?_of_lt (position_lt_of_running running)
      have executes : m.Executes program limit ins := ⟨running, allowed, here⟩
      have acts := execute_acts here m.counted
      rcases effect : execute program ins m.counted with ⟨fault | outcome, last⟩
      · rw [effect] at acts
        rw [executes.step_error effect]
        exact .failed executes acts
      · rw [effect] at acts
        rw [executes.step_ok effect]
        exact .done executes acts

@[simp] theorem follow_calls (m : Machine) (outcome : Outcome) :
    (m.follow outcome).calls = m.calls := by
  cases outcome <;> rfl

@[simp] theorem follow_output (m : Machine) (outcome : Outcome) :
    (m.follow outcome).output = m.output := by
  cases outcome <;> rfl

/-- A machine before its first step. -/
def start (input : Input) (output : Sink) : Machine :=
  { input, output }

/-- The machine after so many calls of `step`, failed ones included. -/
def after (program : Program) (limit : Option Nat) (m : Machine) : Nat → Machine
  | 0 => m
  | count + 1 => ((m.after program limit count).step program limit).2

/-- Steps lead from one machine to another. -/
def Reachable (program : Program) (limit : Option Nat) (first m : Machine) : Prop :=
  ∃ count, first.after program limit count = m

/-- What holds at first and is kept by every step holds wherever steps lead. -/
theorem Reachable.invariant {first : Machine} (reached : Reachable program limit first m)
    (holds : Machine → Prop) (initially : holds first)
    (kept : ∀ m, holds m → holds (m.step program limit).2) : holds m := by
  obtain ⟨count, rfl⟩ := reached
  induction count with
  | zero => exact initially
  | succ count ih => exact kept _ ih

end ThreeAddress.Machine
