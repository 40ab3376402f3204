import ThreeAddress.Proofs.Steps

set_option autoImplicit false

namespace ThreeAddress.Machine

variable {program : Program} {limit : Option Nat} {ins : Instruction} {m last : Machine}

theorem Acts.kept {result : Except Fault Outcome} (acts : Acts program ins m result last) :
    last.position = m.position ∧ last.exited = m.exited ∧ last.steps = m.steps := by
  cases acts <;> exact ⟨rfl, rfl, rfl⟩

theorem Acts.calls_of_error {fault : Fault} (acts : Acts program ins m (.error fault) last) :
    last.calls = m.calls := by
  cases acts <;> rfl

/-- Only `call` and `return` change the call stack, at its top and together with a jump. -/
theorem Acts.calls_cases {outcome : Outcome} (acts : Acts program ins m (.ok outcome) last) :
    last.calls = m.calls ∧ ins.op ≠ .call ∧ ins.op ≠ .ret ∨
      ins.op = .call ∧ last.calls = m.position :: m.calls ∨
      ∃ index, ins.op = .ret ∧ m.calls = index :: last.calls ∧ outcome = .jump (index + 1) := by
  cases acts with
  | calls op first found => exact Or.inr (Or.inl ⟨op, rfl⟩)
  | returns op top => exact Or.inr (Or.inr ⟨_, op, top, rfl⟩)
  | _ =>
    refine Or.inl ⟨rfl, ?_, ?_⟩ <;> intro same <;>
      simp_all [Opcode.computes, Opcode.reframes, Opcode.branches]

/-- A jump goes behind the newest call or to the label that its instruction names. -/
theorem Acts.jump_cases {target : Nat} (acts : Acts program ins m (.ok (.jump target)) last) :
    (∃ index, ins.op = .ret ∧ m.calls = index :: last.calls ∧ target = index + 1) ∨
      ins.op.targetsLabel = true ∧ ∃ label, ins.operands.head? = some (.label label) ∧
        program.labelPosition? label = some target := by
  cases acts with
  | calls op first found => exact Or.inr ⟨by rw [op]; rfl, _, first, found⟩
  | returns op top => exact Or.inl ⟨_, op, top, rfl⟩
  | jumps op first found => exact Or.inr ⟨by rw [op]; rfl, _, first, found⟩
  | branches op first compared found =>
    have targets : ins.op.targetsLabel = true := by
      cases same : ins.op <;> simp_all [Opcode.branches, Opcode.targetsLabel]
    exact Or.inr ⟨targets, _, first, found⟩

/-- Control is inside the program: the position is at most its end, and calls were made at calls. -/
structure Controlled (program : Program) (m : Machine) : Prop where
  position : m.position ≤ program.size
  calls : ∀ index ∈ m.calls, ∃ ins, program.get? index = some ins ∧ ins.op = .call

theorem start_controlled (program : Program) (input : Input) (output : Sink) :
    Controlled program (start input output) := by
  refine ⟨Nat.zero_le _, ?_⟩
  intro index member
  cases member

/-- A jump out of a controlled machine stays in the program. -/
theorem Controlled.jump_le (controlled : Controlled program m) {target : Nat}
    (acts : Acts program ins m (.ok (.jump target)) last) : target ≤ program.size := by
  rcases acts.jump_cases with ⟨index, -, top, rfl⟩ | ⟨-, label, -, found⟩
  · -- The call may be the last instruction, and then the return ends behind it.
    obtain ⟨call, here, -⟩ := controlled.calls index (by rw [top]; exact List.mem_cons_self)
    exact Program.get?_lt here
  · obtain ⟨mark, here, -⟩ := Program.labelPosition?_some found
    exact Nat.le_of_lt (Program.get?_lt here)

theorem Controlled.calls_after (controlled : Controlled program m) {outcome : Outcome}
    (here : program.get? m.position = some ins)
    (acts : Acts program ins m (.ok outcome) last) :
    ∀ index ∈ last.calls, ∃ ins, program.get? index = some ins ∧ ins.op = .call := by
  intro index member
  rcases acts.calls_cases with ⟨same, -⟩ | ⟨op, pushed⟩ | ⟨top, -, popped, -⟩
  · exact controlled.calls index (same ▸ member)
  · rw [pushed] at member
    rcases List.mem_cons.mp member with rfl | member
    · exact ⟨ins, here, op⟩
    · exact controlled.calls index member
  · exact controlled.calls index (popped ▸ List.mem_cons_of_mem top member)

theorem Moves.controlled {result : StepResult} (moves : Moves program limit m result last)
    (controlled : Controlled program m) : Controlled program last := by
  cases moves with
  | ended finished => exact controlled
  | cut running given spent => exact controlled
  | failed executes acts =>
    refine ⟨?_, ?_⟩
    · rw [acts.kept.1]
      exact controlled.position
    · rw [acts.calls_of_error]
      exact controlled.calls
  | @done ins outcome last executes acts =>
    have counted : Controlled program m.counted := ⟨controlled.position, controlled.calls⟩
    have calls := counted.calls_after executes.here acts
    cases outcome with
    | advance =>
      refine ⟨?_, calls⟩
      change last.position + 1 ≤ program.size
      rw [acts.kept.1]
      exact position_lt_of_running executes.running
    | jump target => exact ⟨counted.jump_le acts, calls⟩
    | exit code =>
      refine ⟨?_, calls⟩
      change last.position ≤ program.size
      rw [acts.kept.1]
      exact controlled.position

theorem Reachable.controlled {input : Input} {output : Sink}
    (reached : Reachable program limit (start input output) m) : Controlled program m :=
  reached.invariant (Controlled program) (start_controlled program input output) fun m controlled =>
    (step_moves program limit m).controlled controlled

/-- The instruction at an index defines a label, and no other one does. -/
def DefinesOnly (program : Program) (index : Nat) (label : String) : Prop :=
  ∀ other, (∃ mark, program.get? other = some mark ∧ mark.op = .label ∧
    mark.operands = [.label label]) ↔ other = index

theorem labelPosition?_definesOnly {label : String} {index : Nat}
    (found : program.labelPosition? label = some index) : DefinesOnly program index label := by
  obtain ⟨mark, here, defined⟩ := Program.labelPosition?_some found
  have shape := (Instruction.definedLabel?_eq_some (Program.formed here)).mp defined
  intro other
  constructor
  · rintro ⟨twin, there, twinShape⟩
    exact Program.unique there here
      ((Instruction.definedLabel?_eq_some (Program.formed there)).mpr twinShape) defined
  · rintro rfl
    exact ⟨mark, here, shape⟩

theorem DefinesOnly.lt {index : Nat} {label : String} (defines : DefinesOnly program index label) :
    index < program.size := by
  obtain ⟨mark, here, -⟩ := (defines index).mpr rfl
  exact Program.get?_lt here

/-- In every machine that a program leads to, the position is at most the end of the program
and calls were made at call instructions. A run that is not over has an instruction to execute, so that
a step ends it only if it was over before. A jump stays in the program, and one to a label ends on the
only instruction that defines it. -/
theorem reachable_control (program : Program) (limit : Option Nat)
    (input : Input) (output : Sink) (m : Machine)
    (reached : Reachable program limit (start input output) m) :
    m.position ≤ program.size ∧
      (∀ index ∈ m.calls,
        index < program.size ∧ ∃ ins, program.get? index = some ins ∧ ins.op = .call) ∧
      (m.isFinished program = false → ∃ ins, program.get? m.position = some ins) ∧
      ((m.step program limit).1 = .ended →
        m.isFinished program = true ∧ (m.step program limit).2 = m) ∧
      ∀ target, (m.step program limit).1 = .done (.jump target) →
        target ≤ program.size ∧
          ∃ ins, program.get? m.position = some ins ∧
            (ins.op = .ret ∨ ins.op ∈ [.jump, .jumpIfEq, .jumpIfNeq, .call] ∧
              target < program.size ∧
              ∃ label, ins.operands.head? = some (.label label) ∧
                DefinesOnly program target label) := by
  have controlled := reached.controlled
  have moves := step_moves program limit m
  rcases stepped : m.step program limit with ⟨result, next⟩
  rw [stepped] at moves
  refine ⟨controlled.position, ?_, ?_, ?_, ?_⟩
  · intro index member
    obtain ⟨ins, here, op⟩ := controlled.calls index member
    exact ⟨Program.get?_lt here, ins, here, op⟩
  · intro running
    exact Program.get?_of_lt (position_lt_of_running running)
  · rintro rfl
    cases moves with
    | ended finished => exact ⟨finished, rfl⟩
  · rintro target rfl
    cases moves with
    | @done ins outcome last executes acts =>
      have counted : Controlled program m.counted := ⟨controlled.position, controlled.calls⟩
      refine ⟨counted.jump_le acts, ins, executes.here, ?_⟩
      rcases acts.jump_cases with ⟨index, op, -, -⟩ | ⟨targets, label, first, found⟩
      · exact Or.inl op
      · have defines := labelPosition?_definesOnly found
        have op : ins.op ∈ [.jump, .jumpIfEq, .jumpIfNeq, .call] := by
          cases same : ins.op <;> simp_all [Opcode.targetsLabel]
        exact Or.inr ⟨op, defines.lt, label, first, defines⟩

/-- Calls a label at its end, which returns behind the call and out of the program. -/
def lastCall : Program :=
  ⟨#[⟨1, .jump, [.label "main"]⟩, ⟨2, .label, [.label "callee"]⟩, ⟨3, .ret, []⟩,
    ⟨4, .label, [.label "main"]⟩, ⟨5, .call, [.label "callee"]⟩], by decide⟩

theorem reachable_control_lastCall :
    let m : Machine := { position := 2, steps := 4, calls := [4] }
    Reachable lastCall none (start (.bytes []) {}) m ∧
      (m.step lastCall none).1 = .done (.jump 5) ∧ 5 ≤ lastCall.size ∧
      ∀ index ∈ m.calls,
        index < lastCall.size ∧ ∃ ins, lastCall.get? index = some ins ∧ ins.op = .call := by
  intro m
  have reached : Reachable lastCall none (start (.bytes []) {}) m := ⟨4, by decide +kernel⟩
  obtain ⟨-, calls, -, -, jumps⟩ :=
    reachable_control lastCall none (.bytes []) {} m reached
  have returned : (m.step lastCall none).1 = .done (.jump 5) := by decide
  exact ⟨reached, returned, (jumps 5 returned).1, calls⟩

end ThreeAddress.Machine
