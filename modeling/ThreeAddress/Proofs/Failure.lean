import ThreeAddress.Proofs.Control
import ThreeAddress.Proofs.Faults
import ThreeAddress.Proofs.Lines
import ThreeAddress.Proofs.Relocation

set_option autoImplicit false

namespace ThreeAddress

/-- A sink without a bound stays without one. -/
theorem Sink.write_room {sink : Sink} (memory : sink.room = none) (bytes : Bytes) :
    (sink.write bytes).2.room = none := by
  simp only [write, memory]

namespace Machine

variable {program : Program} {limit : Option Nat} {ins : Instruction} {m last : Machine}
  {fault : Fault}

/-- The machine with another count of steps. -/
def recounted (m : Machine) (count : Nat) : Machine :=
  { m with steps := count }

/-- An effect with another count of steps in the machine after it. -/
def Effect.recounted (effect : Effect) (count : Nat) : Effect :=
  (effect.1, effect.2.recounted count)

theorem relocated_id (m : Machine) (count : Nat) : m.relocated id count = m.recounted count := by
  simp only [relocated, recounted, id_eq, List.map_id]

theorem Effect.relocated_id (effect : Effect) (count : Nat) :
    effect.relocated id count = effect.recounted count := by
  rcases effect with ⟨fault | outcome, last⟩
  · exact Prod.ext rfl (last.relocated_id count)
  · exact Prod.ext (by cases outcome <;> rfl) (last.relocated_id count)

/-- No instruction looks at the count of steps or changes it. -/
theorem execute_recounted (program : Program) (ins : Instruction) (m : Machine) (count : Nat) :
    execute program ins (m.recounted count) = (execute program ins m).recounted count := by
  have moved : execute program ins (m.relocated id count) =
      (execute program ins m).relocated id count :=
    execute_relocated (by simp) (by simp)
  rwa [relocated_id, Effect.relocated_id] at moved

theorem Acts.frames_of_error (acts : Acts program ins m (.error fault) last) :
    last.frames = m.frames := by
  cases acts <;> rfl

theorem Acts.output_of_error (acts : Acts program ins m (.error fault) last)
    (memory : m.output.room = none) : last.output = m.output := by
  cases acts with
  | unwritten op read refused => exact absurd memory (Sink.write_error refused).1
  | _ => rfl

theorem Acts.room_of_memory {effect : Except Fault Outcome} (acts : Acts program ins m effect last)
    (memory : m.output.room = none) : last.output.room = none := by
  cases acts with
  | unwritten | writes => exact Sink.write_room memory _
  | _ => exact memory

/-- A failing instruction takes no data, unless it is `pops` and cannot store what it took. -/
theorem Acts.data_of_error (acts : Acts program ins m (.error fault) last) :
    last.data = m.data ∧ (ins.op = .pops → m.data = []) ∨
      ins.op = .pops ∧ ∃ v top, ins.operands = [.var v] ∧ ¬ m.frames.Accessible v ∧
        m.data = top :: last.data := by
  cases acts with
  | emptied op empty => exact Or.inl ⟨rfl, fun _ => empty⟩
  | unpopped op operands top stored =>
    exact Or.inr ⟨op, _, _, operands, (Frames.assign_error stored).1, top⟩
  | _ =>
    refine Or.inl ⟨rfl, fun same => ?_⟩
    simp_all [Opcode.computes, Opcode.reframes, Opcode.branches]

/-- A failing instruction takes no input, unless it is `read`, which has taken a line. -/
theorem Acts.input_of_error (acts : Acts program ins m (.error fault) last) :
    (ins.op = .read → m.input.TakesLine last.input) ∧ (ins.op ≠ .read → last.input = m.input) := by
  cases acts with
  | unreadable op came =>
    exact ⟨fun _ => Input.readLine_takesLine m.input, fun other => absurd op other⟩
  | unreceived op operands came stored =>
    exact ⟨fun _ => Input.readLine_takesLine m.input, fun other => absurd op other⟩
  | _ =>
    refine ⟨fun same => ?_, fun _ => rfl⟩
    simp_all [Opcode.computes, Opcode.reframes, Opcode.branches]

theorem Moves.room_of_memory {result : StepResult} (moves : Moves program limit m result last)
    (memory : m.output.room = none) : last.output.room = none := by
  cases moves with
  | ended finished => exact memory
  | cut running given spent => exact memory
  | failed executes acts => exact acts.room_of_memory memory
  | @done ins outcome last executes acts =>
    rw [follow_output]
    exact acts.room_of_memory memory

/-- Steps lead from an output in memory to outputs in memory. -/
theorem Reachable.room_of_memory {first : Machine}
    (reached : Reachable program limit first m) (memory : first.output.room = none) :
    m.output.room = none :=
  reached.invariant (fun m => m.output.room = none) memory fun m memory =>
    (step_moves program limit m).room_of_memory memory

/-- The machine after a failed instruction, in which all is as before but for the count of steps, the
value that a `pops` without a place for it took, and the line that a `read` took. -/
structure Intact (ins : Instruction) (m last : Machine) : Prop where
  position : last.position = m.position
  exited : last.exited = m.exited
  frames : last.frames = m.frames
  calls : last.calls = m.calls
  output : last.output = m.output
  steps : last.steps = m.steps + 1
  data : last.data = m.data ∧ (ins.op = .pops → m.data = []) ∨
    ins.op = .pops ∧ ∃ v top, ins.operands = [.var v] ∧ ¬ m.frames.Accessible v ∧
      m.data = top :: last.data
  input : (ins.op = .read → m.input.TakesLine last.input) ∧
    (ins.op ≠ .read → last.input = m.input)

theorem Acts.intact (acts : Acts program ins m.counted (.error fault) last)
    (memory : m.output.room = none) : Intact ins m last := by
  obtain ⟨position, exited, steps⟩ := acts.kept
  exact ⟨position, exited, acts.frames_of_error, acts.calls_of_error, acts.output_of_error memory,
    steps, acts.data_of_error, acts.input_of_error⟩

/-- Where nothing is taken, only the count differs. -/
theorem Intact.eq_counted (intact : Intact ins m last) (pops : ins.op ≠ .pops)
    (read : ins.op ≠ .read) : last = m.counted := by
  have data : last.data = m.data := by
    rcases intact.data with ⟨same, -⟩ | ⟨op, -⟩
    · exact same
    · exact absurd op pops
  have input : last.input = m.input := intact.input.2 read
  obtain ⟨position, exited, frames, calls, output, steps, -, -⟩ := intact
  cases last
  cases m
  simp_all [counted]

theorem Executes.recounted (executes : m.Executes program none ins) (count : Nat) :
    (m.recounted count).Executes program none ins :=
  ⟨executes.running, rfl, executes.here⟩

/-- Without a limit, a step comes to the same whatever was counted before. -/
theorem Executes.step_recounted (executes : m.Executes program none ins) (count : Nat) :
    (m.recounted count).step program none =
      ((m.step program none).1, (m.step program none).2.recounted (count + 1)) := by
  have same : execute program ins (m.recounted count).counted =
      (execute program ins m.counted).recounted (count + 1) :=
    execute_recounted program ins m.counted (count + 1)
  rcases effect : execute program ins m.counted with ⟨fault | outcome, last⟩
  · rw [effect] at same
    rw [executes.step_error effect, (executes.recounted count).step_error same]
  · rw [effect] at same
    rw [executes.step_ok effect, (executes.recounted count).step_ok same]
    cases outcome <;> rfl

/-- Without a limit, all steps after a failure that only counted fail in the same way. -/
theorem Executes.failed_again (executes : m.Executes program none ins) {error : RuntimeError}
    (failed : m.step program none = (.failed error, m.counted)) (count : Nat) :
    ((m.counted.after program none count).step program none).1 = .failed error := by
  have again : ∀ steps, (m.recounted steps).step program none =
      (.failed error, m.recounted (steps + 1)) := by
    intro steps
    rw [executes.step_recounted, failed]
    rfl
  -- Each failure leaves the machine as it was, with one step more to its count.
  have reached : m.counted.after program none count = m.recounted (m.steps + 1 + count) := by
    induction count with
    | zero => rfl
    | succ count ih =>
      rw [after, ih, again]
      rfl
  rw [reached, again]

/-- A step of a program with an output in memory fails by the limit, at no instruction and
without a change, or at the instruction that it executes, with the machine intact. Without a limit the
steps after it fail with the same error, unless the instruction takes a value or a line. -/
theorem failed_step_intact (program : Program) (limit : Option Nat)
    (input : Input) (output : Sink) (memory : output.room = none) (m last : Machine)
    (reached : Reachable program limit (start input output) m) (error : RuntimeError)
    (failed : m.step program limit = (.failed error, last)) :
    (∃ bound, limit = some bound ∧ bound ≤ m.steps ∧ error = ⟨.stepLimit bound, none⟩ ∧ last = m) ∨
      ∃ ins, m.Executes program limit ins ∧ error.site = some ⟨ins.order, ins.op⟩ ∧
        (∀ bound, error.fault ≠ .stepLimit bound) ∧ Intact ins m last ∧
        (limit = none → ins.op ≠ .pops → ins.op ≠ .read →
          ∀ count, ((last.after program limit count).step program limit).1 = .failed error) := by
  have moves := step_moves program limit m
  rw [failed] at moves
  cases moves with
  | cut running given spent => exact Or.inl ⟨_, given, spent, rfl, rfl⟩
  | @failed ins fault last executes acts =>
    have allowed := acts.allowed (Program.formed executes.here)
    have intact := acts.intact (reached.room_of_memory memory)
    refine Or.inr ⟨ins, executes, rfl, ?_, intact, ?_⟩
    · -- The fault of the limit is internal, and internal faults of instructions are about input.
      rintro bound rfl
      obtain ⟨reason, same⟩ := allowed.internal rfl
      cases same
    · rintro rfl pops read count
      obtain rfl := intact.eq_counted pops read
      exact executes.failed_again failed count

/-- Pushes a value and pops it into a variable that is not declared. -/
def popUndeclared : Program :=
  ⟨#[⟨1, .pushs, [.int 5]⟩, ⟨2, .pops, [.var ⟨.global, "x"⟩]⟩], by decide⟩

/-- Pushes a value and moves another into a variable that is not declared. -/
def moveUndeclared : Program :=
  ⟨#[⟨1, .pushs, [.int 5]⟩, ⟨2, .move, [.var ⟨.global, "x"⟩, .int 1]⟩], by decide⟩

/-- Where the destination is not declared, `pops` has lost the value, and `move` fails for ever. -/
theorem failed_step_intact_undeclared :
    let x : VarRef := ⟨.global, "x"⟩
    let pushed : Machine := { position := 1, steps := 1, data := [.int 5] }
    let failing (op : Opcode) : RuntimeError := ⟨.undefinedVariable x, some ⟨2, op⟩⟩
    let counted : Machine := { pushed with steps := 2 }
    let emptied : Machine := { counted with data := [] }
    pushed.step popUndeclared none = (.failed (failing .pops), emptied) ∧
      Intact ⟨2, .pops, [.var x]⟩ pushed emptied ∧
      pushed.step moveUndeclared none = (.failed (failing .move), counted) ∧
      ∀ count, ((counted.after moveUndeclared none count).step moveUndeclared none).1 =
        .failed (failing .move) := by
  intro x pushed failing counted emptied
  have popped : pushed.step popUndeclared none = (.failed (failing .pops), emptied) := by decide
  have moved : pushed.step moveUndeclared none = (.failed (failing .move), counted) := by decide
  refine ⟨popped, ?_, moved, ?_⟩
  · rcases failed_step_intact popUndeclared none (.bytes []) {} rfl pushed _
      ⟨1, by decide⟩ _ popped with ⟨bound, given, -⟩ | ⟨ins, executes, -, -, intact, -⟩
    · cases given
    · cases executes.here
      exact intact
  · rcases failed_step_intact moveUndeclared none (.bytes []) {} rfl pushed _
      ⟨1, by decide⟩ _ moved with ⟨bound, given, -⟩ | ⟨ins, executes, -, -, -, again⟩
    · cases given
    · cases executes.here
      exact again rfl (by decide) (by decide)

end Machine

end ThreeAddress
