import ThreeAddress.Proofs.Texts

set_option autoImplicit false

namespace ThreeAddress

theorem Sink.write_flushRefusal (sink : Sink) (bytes : Bytes) :
    (sink.write bytes).2.flushRefusal = sink.flushRefusal := by
  unfold write
  split
  · rfl
  · split <;> rfl

namespace Machine

variable {program : Program} {limit : Option Nat} {ins : Instruction} {m last first : Machine}
  {count : Nat} {result : RunResult}

/-- Values do not depend on the count of steps. -/
@[simp] theorem values_counted (m : Machine) (sources : List Operand) :
    m.counted.values sources = m.values sources := by
  have uncounted : m.counted.frames = m.frames := rfl
  exact values_congr uncounted sources

/-- The bytes that the next instruction writes. All but a `write` that succeeds write nothing. -/
def wrote (program : Program) (limit : Option Nat) (m : Machine) : Bytes :=
  match (m.step program limit).1, program.get? m.position with
  | .done _, some ins =>
    if ins.op = .write then
      match m.values ins.sources with
      | .ok [value] => value.render
      | _ => []
    else []
  | _, _ => []

/-- The bytes of all `write` instructions among the first so many. -/
def outputOf (program : Program) (limit : Option Nat) (first : Machine) (count : Nat) : Bytes :=
  (List.range count).flatMap fun earlier => (first.after program limit earlier).wrote program limit

theorem Acts.written {outcome : Outcome} (acts : Acts program ins m (.ok outcome) last) :
    ins.op ≠ .write ∧ last.output = m.output ∨
      ins.op = .write ∧ ∃ value, m.values ins.sources = .ok [value] ∧
        last.output.written = m.output.written ++ value.render := by
  cases acts with
  | writes op read taken => exact Or.inr ⟨op, _, read, (Sink.write_ok taken).1⟩
  | _ =>
    refine Or.inl ⟨?_, rfl⟩
    intro same
    simp_all [Opcode.computes, Opcode.reframes, Opcode.branches]

/-- A step into memory writes what its instruction does and nothing else. -/
theorem step_written (memory : m.output.room = none) :
    (m.step program limit).2.output.written = m.output.written ++ m.wrote program limit := by
  have moves := step_moves program limit m
  rcases stepped : m.step program limit with ⟨came, next⟩
  simp only [stepped] at moves ⊢
  cases moves with
  | ended finished => simp [wrote, stepped]
  | cut running given spent => simp [wrote, stepped]
  | failed executes acts =>
    rw [acts.output_of_error memory]
    simp [wrote, stepped, counted]
  | done executes acts =>
    rw [follow_output]
    rcases acts.written with ⟨other, same⟩ | ⟨op, value, read, written⟩
    · simp [wrote, stepped, executes.here, other, same, counted]
    · rw [values_counted] at read
      simp [wrote, stepped, executes.here, op, read, written, counted]

theorem output_after (memory : first.output.room = none) (count : Nat) :
    (first.after program limit count).output.written =
      first.output.written ++ outputOf program limit first count := by
  induction count with
  | zero => simp [outputOf, after]
  | succ count ih =>
    have room : (first.after program limit count).output.room = none :=
      Reachable.room_of_memory ⟨count, rfl⟩ memory
    rw [after, step_written room, ih, outputOf, outputOf, List.range_succ,
      List.flatMap_append, List.append_assoc]
    simp

/-- What a run that comes to its end after so many instructions leaves with: 0 behind the last
instruction, and after an `exit` the value of its operand. -/
inductive Leaves (program : Program) (limit : Option Nat) (first : Machine) : Nat → Nat → Prop
  | completed {count : Nat} (behind : program.size ≤ (first.after program limit count).position)
      (stayed : (first.after program limit count).exited = none) : Leaves program limit first count 0
  | exited {count status : Nat} {ins : Instruction} {value : Int64}
      (executes : (first.after program limit count).Executes program limit ins) (op : ins.op = .exit)
      (read : (first.after program limit count).values ins.sources = .ok [.int value])
      (asked : value.toInt = status) : Leaves program limit first (count + 1) status

theorem Acts.exited {outcome : Outcome} (acts : Acts program ins m (.ok outcome) last) :
    ins.op ≠ .exit ∧ (last.follow outcome).exited = m.exited ∨
      ins.op = .exit ∧ ∃ code, m.statusAsked ins = .ok code ∧
        (last.follow outcome).exited = some code := by
  cases acts with
  | exits op asked => exact Or.inr ⟨op, _, asked, rfl⟩
  | _ =>
    refine Or.inl ⟨?_, rfl⟩
    intro same
    simp_all [Opcode.computes, Opcode.reframes, Opcode.branches]

theorem exitCode_ok {a : Value} {code : Nat} (asked : Operation.exitCode a = .ok code) :
    code ≤ 9 ∧ ∃ value : Int64, a = .int value ∧ value.toInt = code := by
  cases a with
  | int value =>
    obtain ⟨_, isInt, asked⟩ := Operation.bind_ok asked
    cases isInt
    split at asked
    · rename_i within
      have lower : 0 ≤ value.toInt := Int64.le_iff_toInt_le.mp within.1
      have upper : value.toInt ≤ 9 := Int64.le_iff_toInt_le.mp within.2
      cases asked
      exact ⟨by omega, value, rfl, by omega⟩
    · cases asked
  | _ => cases asked

/-- The status that an `exit` asks for is its value, 0 to 9. -/
theorem statusAsked_ok {code : Nat} (asked : m.statusAsked ins = .ok code) :
    code ≤ 9 ∧ ∃ value : Int64, m.values ins.sources = .ok [.int value] ∧ value.toInt = code := by
  obtain ⟨values, read, exits⟩ := Operation.bind_ok asked
  split at exits
  · obtain ⟨le, value, rfl, same⟩ := exitCode_ok exits
    exact ⟨le, value, read, same⟩
  · cases exits

/-- The last instruction of a run that comes to its end succeeds. -/
theorem Ends.last_step {status : ExitStatus}
    (ends : Ends program limit first (count + 1) (.ok status) last) :
    ∃ outcome, (first.after program limit count).step program limit = (.done outcome, last) := by
  induction count generalizing first with
  | zero =>
    cases ends with
    | @goes _ next _ outcome _ _ done rest =>
      cases rest with
      | ended finished => exact ⟨outcome, done⟩
  | succ count ih =>
    cases ends with
    | goes done rest =>
      rw [after_succ, done]
      exact ih rest

theorem Ends.finished {status : ExitStatus}
    (ends : Ends program limit first count (.ok status) last) :
    last.isFinished program = true ∧ last.status = status := by
  induction count generalizing first with
  | zero =>
    cases ends with
    | ended finished => exact ⟨finished, rfl⟩
  | succ count ih =>
    cases ends with
    | goes done rest => exact ih rest

/-- The last instruction of a run that comes to its end sets a status if it is an `exit`, and leaves
all others without one. -/
theorem Ends.last_exited {status : ExitStatus}
    (ends : Ends program limit first (count + 1) (.ok status) last) :
    ∃ ins, (first.after program limit count).Executes program limit ins ∧
      (ins.op ≠ .exit ∧ last.exited = none ∨
        ins.op = .exit ∧ ∃ code ≤ 9, last.exited = some code ∧ ∃ value : Int64,
          (first.after program limit count).values ins.sources = .ok [.int value] ∧
            value.toInt = code) := by
  obtain ⟨outcome, done⟩ := ends.last_step
  have moves := step_moves program limit (first.after program limit count)
  simp only [done] at moves
  cases moves with
  | done executes acts =>
    refine ⟨_, executes, ?_⟩
    rcases acts.exited with ⟨other, same⟩ | ⟨op, code, asked, set⟩
    · have running := executes.running
      simp only [isFinished, Bool.or_eq_false_iff, Option.isSome_eq_false_iff,
        Option.isNone_iff_eq_none] at running
      exact Or.inl ⟨other, same.trans running.1⟩
    · obtain ⟨le, value, read, same⟩ := statusAsked_ok asked
      rw [values_counted] at read
      exact Or.inr ⟨op, code, le, set, value, read, same⟩

theorem Ends.exited_some (fresh : first.exited = none)
    {status : ExitStatus} (ends : Ends program limit first count (.ok status) last) {code : Nat}
    (set : last.exited = some code) : code ≤ 9 ∧ Leaves program limit first count code := by
  cases count with
  | zero =>
    have same : first = last := ends.after_eq
    rw [← same, fresh] at set
    cases set
  | succ count =>
    obtain ⟨ins, executes, ⟨-, unset⟩ | ⟨op, other, le, same, value, read, asked⟩⟩ :=
      ends.last_exited
    · cases unset.symm.trans set
    · cases same.symm.trans set
      exact ⟨le, .exited executes op read asked⟩

theorem Ends.code_le (fresh : first.exited = none) {status : ExitStatus}
    (ends : Ends program limit first count (.ok status) last) : status.code ≤ 9 := by
  obtain ⟨-, rfl⟩ := ends.finished
  cases set : last.exited with
  | none => simp [Machine.status, set, ExitStatus.code]
  | some code => simpa [Machine.status, set, ExitStatus.code] using (ends.exited_some fresh set).1

/-- The status of a run that comes to its end is what it leaves with. -/
theorem Ends.leaves_iff (fresh : first.exited = none)
    {status : ExitStatus} (ends : Ends program limit first count (.ok status) last) {n : Nat} :
    Leaves program limit first count n ↔ status.code = n := by
  obtain ⟨finished, rfl⟩ := ends.finished
  have reached := ends.after_eq
  constructor
  · intro leaves
    cases leaves with
    | completed behind stayed =>
      rw [reached] at stayed
      simp only [Machine.status, stayed, ExitStatus.code]
    | exited executes op read asked =>
      obtain ⟨ins, same, ⟨other, -⟩ | ⟨-, code, -, set, value, found, said⟩⟩ :=
        ends.last_exited
      · cases executes.unique same
        exact absurd op other
      · cases executes.unique same
        cases read.symm.trans found
        simp only [Machine.status, set, ExitStatus.code]
        omega
  · rintro rfl
    cases set : last.exited with
    | none =>
      rw [Machine.status, set]
      apply Leaves.completed
      · simpa [isFinished, set, reached] using finished
      · rw [reached, set]
    | some code =>
      rw [Machine.status, set]
      exact (ends.exited_some fresh set).2

/-- A status that stands for an error of a run. -/
def IsFailure (code : Nat) : Prop :=
  53 ≤ code ∧ code ≤ 61 ∨ code = 99

instance (code : Nat) : Decidable (IsFailure code) :=
  inferInstanceAs (Decidable (_ ∨ _))

theorem isFailure_of_listed {op : Opcode} :
    ∀ kind ∈ op.faultKinds, IsFailure kind.exitCode ∨ kind = .output ∧ op = .write := by
  cases op <;> decide

/-- Output in memory is never refused. -/
theorem Acts.kind_ne_output (formed : ins.WellFormed) {fault : Fault}
    (acts : Acts program ins m (.error fault) last) (memory : m.output.room = none)
    (op : ins.op = .write) : fault.kind ≠ .output := by
  intro about
  cases acts with
  | unwritten _ read refused => exact absurd memory (Sink.write_error refused).1
  | unread _ read =>
    obtain ⟨a, -, sources, fit⟩ := formed.symbol (by simp [op])
    rcases values_error (by simp [sources, fit]) read with kind | kind <;>
      cases about.symm.trans kind
  | _ => simp_all [Opcode.computes, Opcode.reframes, Opcode.branches]

/-- An error of a step that writes into memory has a status of its own. -/
theorem Moves.isFailure {error : RuntimeError}
    (moves : Moves program limit m (.failed error) last) (memory : m.output.room = none) :
    IsFailure error.kind.exitCode := by
  cases moves with
  | cut running given spent => exact Or.inr rfl
  | failed executes acts =>
    have formed := Program.formed executes.here
    rcases isFailure_of_listed _ (acts.allowed formed).listed with failure | ⟨about, op⟩
    · exact failure
    · exact absurd about (acts.kind_ne_output formed memory op)

theorem Ends.isFailure {error : RuntimeError}
    (ends : Ends program limit first count (.error error) last)
    (memory : first.output.room = none) : IsFailure error.kind.exitCode := by
  induction count generalizing first with
  | zero =>
    cases ends with
    | cut running spent => exact Or.inr rfl
  | succ count ih =>
    have moves := step_moves program limit first
    cases ends with
    | fails executes failed =>
      simp only [failed] at moves
      exact moves.isFailure memory
    | goes done rest =>
      simp only [done] at moves
      exact ih rest (moves.room_of_memory memory)

theorem step_flushRefusal (program : Program) (limit : Option Nat) (m : Machine) :
    (m.step program limit).2.output.flushRefusal = m.output.flushRefusal := by
  rcases (step_moves program limit m).output_cases with same | ⟨ins, value, -, -, written, -⟩
  · rw [same]
  · rw [written, Sink.write_flushRefusal]

theorem Reachable.flushRefusal (reached : Reachable program limit first m)
    (willing : first.output.flushRefusal = none) : m.output.flushRefusal = none :=
  reached.invariant (fun m => m.output.flushRefusal = none) willing fun m willing =>
    (step_flushRefusal program limit m).trans willing

end Machine

end ThreeAddress
