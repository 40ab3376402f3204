import ThreeAddress.Proofs.Steps
import ThreeAddress.Run

set_option autoImplicit false

namespace ThreeAddress.Machine

variable {program : Program} {limit : Option Nat} {m last : Machine} {count : Nat} {result : RunResult}

/-- A run that ends: the number of instructions that are executed, a failing one included, what comes of
it, and the machine it leaves. -/
inductive Ends (program : Program) (limit : Option Nat) : Machine → Nat → RunResult → Machine → Prop
  | ended {m : Machine} (finished : m.isFinished program = true) :
      Ends program limit m 0 (.ok m.status) m
  | cut {m : Machine} {bound : Nat} (running : m.isFinished program = false)
      (spent : m.limitReached? limit = some bound) :
      Ends program limit m 0 (.error ⟨.stepLimit bound, none⟩) m
  | fails {m last : Machine} {ins : Instruction} {error : RuntimeError}
      (executes : m.Executes program limit ins)
      (failed : m.step program limit = (.failed error, last)) :
      Ends program limit m 1 (.error error) last
  | goes {m next last : Machine} {outcome : Outcome} {count : Nat} {result : RunResult}
      (done : m.step program limit = (.done outcome, next))
      (rest : Ends program limit next count result last) :
      Ends program limit m (count + 1) result last

/-- Some number of calls of `step` brings a run to its end. -/
def Halts (program : Program) (limit : Option Nat) (m : Machine) : Prop :=
  ∃ fuel result, (m.run program limit fuel).1 = some result

theorem step_of_finished (finished : m.isFinished program = true) :
    m.step program limit = (.ended, m) := by
  simp only [step, finished, ↓reduceIte]

theorem step_of_spent {bound : Nat} (running : m.isFinished program = false)
    (spent : m.limitReached? limit = some bound) :
    m.step program limit = (.failed ⟨.stepLimit bound, none⟩, m) := by
  simp only [step, running, Bool.false_eq_true, ↓reduceIte, spent]

/-- One call of `step` more than there are instructions brings a run that ends to its end. -/
theorem Ends.run_eq (ends : Ends program limit m count result last) {fuel : Nat}
    (enough : count < fuel) : m.run program limit fuel = (some result, last) := by
  obtain ⟨spare, rfl⟩ : ∃ spare, fuel = count + spare + 1 := ⟨fuel - count - 1, by omega⟩
  clear enough
  induction ends with
  | ended finished => simp only [run, step_of_finished finished]
  | cut running spent => simp only [run, step_of_spent running spent]
  | fails executes failed => simp only [run, failed]
  | @goes m next last outcome count result done rest ih =>
    rw [Nat.add_right_comm count 1 spare]
    simp only [run, done]
    exact ih

/-- What `run` comes to is how the run ends. -/
theorem ends_of_run {fuel : Nat}
    (ran : m.run program limit fuel = (some result, last)) :
    ∃ count, Ends program limit m count result last := by
  induction fuel generalizing m with
  | zero => cases ran
  | succ fuel ih =>
    have moves := step_moves program limit m
    rw [run] at ran
    rcases stepped : m.step program limit with ⟨came, next⟩
    rw [stepped] at moves ran
    cases moves with
    | ended finished =>
      cases ran
      exact ⟨0, .ended finished⟩
    | cut running given spent =>
      cases ran
      exact ⟨0, .cut running (limitReached?_eq_some.mpr ⟨given, spent⟩)⟩
    | failed executes acts =>
      cases ran
      exact ⟨1, .fails executes stepped⟩
    | done executes acts =>
      obtain ⟨count, ends⟩ := ih ran
      exact ⟨count + 1, .goes stepped ends⟩

/-- A run ends in one way only. -/
theorem Ends.unique (ends : Ends program limit m count result last) {otherCount : Nat}
    {otherResult : RunResult} {otherLast : Machine}
    (other : Ends program limit m otherCount otherResult otherLast) :
    result = otherResult ∧ last = otherLast := by
  have ran := ends.run_eq (show count < count + otherCount + 1 by omega)
  have otherRan := other.run_eq (show otherCount < count + otherCount + 1 by omega)
  rw [ran] at otherRan
  cases otherRan
  exact ⟨rfl, rfl⟩

theorem halts_iff :
    Halts program limit m ↔ ∃ count result last, Ends program limit m count result last := by
  constructor
  · rintro ⟨fuel, result, came⟩
    have ran : m.run program limit fuel = (some result, (m.run program limit fuel).2) := by
      rw [← came]
    obtain ⟨count, ends⟩ := ends_of_run ran
    exact ⟨count, result, _, ends⟩
  · rintro ⟨count, result, last, ends⟩
    exact ⟨count + 1, result, by rw [ends.run_eq (Nat.lt_succ_self count)]⟩

theorem runOn_eq (program : Program) (limit : Option Nat) (m : Machine) :
    m.runOn program limit =
      match m.step program limit with
      | (.ended, last) => (.ok last.status, last)
      | (.failed error, last) => (.error error, last)
      | (.done _, next) => next.runOn program limit := by
  rw [runOn, repeatM_eq_of_monadTail, repeatM.body]
  rcases m.step program limit with ⟨_ | error | outcome, next⟩ <;> rfl

/-- A run that ends comes to the same without a bound. -/
theorem Ends.runOn_eq (ends : Ends program limit m count result last) :
    m.runOn program limit = (result, last) := by
  induction ends with
  | ended finished => rw [Machine.runOn_eq, step_of_finished finished]
  | cut running spent => rw [Machine.runOn_eq, step_of_spent running spent]
  | fails executes failed => rw [Machine.runOn_eq, failed]
  | goes done rest ih =>
    rw [Machine.runOn_eq, done]
    exact ih

theorem after_add (program : Program) (limit : Option Nat) (m : Machine) (first second : Nat) :
    m.after program limit (first + second) =
      (m.after program limit first).after program limit second := by
  induction second with
  | zero => rfl
  | succ second ih => rw [← Nat.add_assoc, after, ih, after]

theorem after_succ (program : Program) (limit : Option Nat) (m : Machine) (count : Nat) :
    m.after program limit (count + 1) =
      ((m.step program limit).2).after program limit count := by
  rw [Nat.add_comm, after_add]
  rfl

theorem Ends.after_eq (ends : Ends program limit m count result last) :
    m.after program limit count = last := by
  induction ends with
  | ended | cut => rfl
  | fails executes failed => rw [after, after, failed]
  | goes done rest ih => rw [after_succ, done, ih]

end ThreeAddress.Machine
