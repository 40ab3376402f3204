import ThreeAddress.Proofs.Lines
import ThreeAddress.Proofs.Relocation
import ThreeAddress.Proofs.Runs

set_option autoImplicit false

namespace ThreeAddress

def Input.leftBy (input : Input) (op : Opcode) : Input :=
  if op = .read then input.readLine.2 else input

namespace Machine

variable {program : Program} {limit : Option Nat} {ins : Instruction} {m last : Machine}
  {bytes : Bytes} {count : Nat}

def refed (m : Machine) (input : Input) : Machine :=
  { m with input }

/-- An effect with another input in the machine after it. -/
def Effect.refed (effect : Effect) (input : Input) : Effect :=
  (effect.1, effect.2.refed input)

theorem recast_eq_refed (m : Machine) (input : Input) :
    m.recast id id (fun _ => input) = m.refed input := by
  simp only [recast, refed, id_eq, List.map_id]

theorem Effect.recast_eq_refed (effect : Effect) (input : Input) :
    effect.recast id id (fun _ => input) = effect.refed input := by
  rcases effect with ⟨fault | outcome, last⟩
  · exact Prod.ext rfl (last.recast_eq_refed input)
  · exact Prod.ext (by cases outcome <;> rfl) (last.recast_eq_refed input)

theorem refed_store (m : Machine) (input : Input) (v : VarRef) (value : Except Fault Value) :
    (m.refed input).store v value = (m.store v value).refed input := by
  rw [← recast_eq_refed, recast_store, Effect.recast_eq_refed]

/-- An instruction does the same with another input, if a `read` gets the same line from it. -/
theorem execute_refed (program : Program) (formed : ins.WellFormed) {input : Input}
    (line : ins.op = .read → input.readLine.1 = m.input.readLine.1) :
    execute program ins (m.refed input) =
      (execute program ins m).refed (input.leftBy ins.op) := by
  by_cases op : ins.op = .read
  · obtain ⟨first, second, operands, fitFirst, fitSecond⟩ :=
      formed.two (show ins.op.signature = [.var, .kind] by rw [op]; rfl)
    obtain ⟨v, rfl⟩ := Operand.fits_var fitFirst
    obtain ⟨kind, rfl⟩ := Operand.fits_kind fitSecond
    have came : (m.refed input).input.readLine.1 = m.input.readLine.1 := line op
    simp only [execute, op, executeRead, operands, came, Input.leftBy, ↓reduceIte]
    exact refed_store { m with input := m.input.readLine.2 } _ v _
  · have same : execute program ins (m.recast id id fun _ => input) =
        (execute program ins m).recast id id fun _ => input :=
      execute_recast (by simp) (by simp) fun read => absurd read op
    rw [recast_eq_refed, Effect.recast_eq_refed] at same
    rw [same, Input.leftBy, if_neg op]

theorem Acts.input_eq {effect : Except Fault Outcome} (acts : Acts program ins m effect last) :
    last.input = m.input.leftBy ins.op := by
  cases acts with
  | unreadable op | unreceived op | receives op => rw [Input.leftBy, if_pos op]
  | _ =>
    rw [Input.leftBy, if_neg]
    intro read
    simp_all [Opcode.computes, Opcode.reframes, Opcode.branches]

/-- Whether the next step executes `read`. -/
def readsNext (program : Program) (limit : Option Nat) (m : Machine) : Bool :=
  !m.isFinished program && (m.limitReached? limit).isNone &&
    (program.get? m.position).any (·.op == .read)

theorem Executes.readsNext (executes : m.Executes program limit ins) :
    m.readsNext program limit = (ins.op == .read) := by
  simp only [Machine.readsNext, executes.running, executes.allowed, executes.here]
  rfl

@[simp] theorem follow_input (m : Machine) (outcome : Outcome) :
    (m.follow outcome).input = m.input := by
  cases outcome <;> rfl

theorem leftBy_of_executes (executes : m.Executes program limit ins) (input : Input) :
    input.leftBy ins.op = if m.readsNext program limit then input.readLine.2 else input := by
  rw [executes.readsNext, Input.leftBy]
  simp only [beq_iff_eq]

/-- A step takes a line off the input if it executes `read`, and nothing otherwise. -/
theorem step_input (program : Program) (limit : Option Nat) (m : Machine) :
    (m.step program limit).2.input =
      if m.readsNext program limit then m.input.readLine.2 else m.input := by
  have moves := step_moves program limit m
  rcases stepped : m.step program limit with ⟨came, next⟩
  rw [stepped] at moves
  cases moves with
  | ended finished => simp [readsNext, finished]
  | cut running given spent => simp [readsNext, limitReached?_eq_some.mpr ⟨given, spent⟩]
  | failed executes acts =>
    rw [← leftBy_of_executes executes]
    exact acts.input_eq
  | done executes acts =>
    rw [← leftBy_of_executes executes]
    exact (follow_input _ _).trans acts.input_eq

/-- A step does the same with another input, if a `read` gets the same line from it. -/
theorem step_refed (program : Program) (limit : Option Nat) (m : Machine) {input : Input}
    (line : m.readsNext program limit = true → input.readLine.1 = m.input.readLine.1) :
    (m.refed input).step program limit =
      ((m.step program limit).1, (m.step program limit).2.refed
        (if m.readsNext program limit then input.readLine.2 else input)) := by
  cases running : m.isFinished program with
  | true =>
    have idle : m.readsNext program limit = false := by simp [readsNext, running]
    rw [step_of_finished (m := m.refed input) running, step_of_finished running, idle]
    rfl
  | false =>
    cases allowed : m.limitReached? limit with
    | some bound =>
      have idle : m.readsNext program limit = false := by simp [readsNext, allowed]
      rw [step_of_spent (m := m.refed input) running allowed, step_of_spent running allowed, idle]
      rfl
    | none =>
      obtain ⟨ins, here⟩ := Program.get?_of_lt (position_lt_of_running running)
      have executes : m.Executes program limit ins := ⟨running, allowed, here⟩
      have executesToo : (m.refed input).Executes program limit ins := ⟨running, allowed, here⟩
      have same : execute program ins (m.refed input).counted =
          (execute program ins m.counted).refed (input.leftBy ins.op) := by
        refine execute_refed (m := m.counted) program (Program.formed here) fun op => line ?_
        rw [executes.readsNext, op]
        rfl
      rw [← leftBy_of_executes executes]
      rcases effect : execute program ins m.counted with ⟨fault | outcome, last⟩
      · rw [effect] at same
        rw [executes.step_error effect, executesToo.step_error same]
      · rw [effect] at same
        rw [executes.step_ok effect, executesToo.step_ok same]
        cases outcome <;> rfl

/-- How many of the first steps execute `read`. -/
def reads (program : Program) (limit : Option Nat) (m : Machine) : Nat → Nat
  | 0 => 0
  | count + 1 =>
    m.reads program limit count +
      if (m.after program limit count).readsNext program limit then 1 else 0

theorem reads_le (program : Program) (limit : Option Nat) (m : Machine) {earlier later : Nat}
    (le : earlier ≤ later) : m.reads program limit earlier ≤ m.reads program limit later := by
  induction le with
  | refl => exact Nat.le_refl _
  | step le ih => exact Nat.le_trans ih (Nat.le_add_right _ _)

/-- So many lines are gone from the input as were read. -/
theorem input_after (given : m.input = .bytes bytes) (count : Nat) :
    (m.after program limit count).input =
      .bytes ((Input.chunks bytes).drop (m.reads program limit count)).flatten := by
  induction count with
  | zero => rw [after, reads, List.drop_zero, Input.chunks_flatten, given]
  | succ count ih =>
    rw [after, reads, step_input program, ih]
    split
    · rw [Input.readLine_bytes, Input.chunks_drop_flatten, List.tail_drop]
    · rfl

section Alike

variable {k : Nat} {others : Bytes}
  (same : (Input.chunks bytes).take k = (Input.chunks others).take k)
  (given : m.input = .bytes bytes)

/-- The machine that a run leads to, fed from what a run with another input would have left of it. -/
def afterRefed (program : Program) (limit : Option Nat) (m : Machine) (others : Bytes) (count : Nat) :
    Machine :=
  (m.after program limit count).refed
    (.bytes ((Input.chunks others).drop (m.reads program limit count)).flatten)

include same given

/-- A step that reads none but the lines that both inputs have comes to the same with both. -/
theorem step_afterRefed
    (few : m.reads program limit (count + 1) ≤ k) :
    (m.afterRefed program limit others count).step program limit =
      (((m.after program limit count).step program limit).1,
        m.afterRefed program limit others (count + 1)) := by
  have line : (m.after program limit count).readsNext program limit = true →
      (Input.bytes ((Input.chunks others).drop (m.reads program limit count)).flatten).readLine.1 =
        (m.after program limit count).input.readLine.1 := by
    intro reading
    have inside : m.reads program limit count < k := by
      rw [reads, reading] at few
      exact few
    have head := congrArg (fun lines => lines[m.reads program limit count]?) same
    simp only [List.getElem?_take_of_lt inside] at head
    rw [input_after given, Input.readLine_bytes, Input.readLine_bytes,
      Input.chunks_drop_flatten, Input.chunks_drop_flatten, List.head?_drop, List.head?_drop, head]
  rw [afterRefed, step_refed program limit _ line, afterRefed, after, reads]
  split
  · rw [Input.readLine_bytes, Input.chunks_drop_flatten, List.tail_drop]
  · rfl

/-- With another input that begins with the same lines, a run leads through the same machines as long
as it reads these lines only. -/
theorem after_refed (few : m.reads program limit count ≤ k) :
    (m.refed (.bytes others)).after program limit count =
      m.afterRefed program limit others count := by
  induction count with
  | zero => rw [after, afterRefed, after, reads, List.drop_zero, Input.chunks_flatten]
  | succ count ih =>
    have before := ih (Nat.le_trans (reads_le program limit m (Nat.le_succ count)) few)
    rw [after, before, step_afterRefed same given few]

end Alike

/-- The lines that a run has read decide it. Two runs of a program whose inputs begin with the
same `k` lines lead through the same machines, but for what is left of the inputs, and come to the same
in every step, as long as no more than `k` instructions `read` are executed. A step that executes `read`,
whatever comes of it, takes exactly the first line off the input, if there is one, and any other step
takes nothing. -/
theorem run_decided_by_lines (program : Program)
    (limit : Option Nat) (output : Sink) :
    (∀ (k : Nat) (bytes others : Bytes),
      (Input.chunks bytes).take k = (Input.chunks others).take k →
      let one := (start (.bytes bytes) output).after program limit
      let other := (start (.bytes others) output).after program limit
      ∀ count, (start (.bytes bytes) output).reads program limit count ≤ k →
        other count = (one count).refed (other count).input ∧
        ∀ earlier < count,
          ((other earlier).step program limit).1 = ((one earlier).step program limit).1) ∧
    ∀ (m : Machine) (bytes : Bytes), m.input = .bytes bytes →
      (m.step program limit).2.input =
        .bytes (if m.readsNext program limit then (Input.chunks bytes).tail.flatten else bytes) := by
  constructor
  · intro k bytes others same one other count few
    have alike : ∀ {count}, (start (.bytes bytes) output).reads program limit count ≤ k →
        other count = (start (.bytes bytes) output).afterRefed program limit others count :=
      after_refed same rfl
    refine ⟨?_, ?_⟩
    · rw [alike few]
      rfl
    · intro earlier before
      have fewer := Nat.le_trans (reads_le program limit (start (.bytes bytes) output) before) few
      rw [alike (Nat.le_trans (reads_le program limit _ (Nat.le_succ earlier)) fewer),
        step_afterRefed same rfl fewer]
  · intro m bytes given
    rw [step_input program, given, Input.readLine_bytes]
    split <;> rfl

/-- Reads a line, writes it and reads another. -/
def echoOnce : Program :=
  ⟨#[⟨1, .defVar, [.var ⟨.global, "x"⟩]⟩, ⟨2, .read, [.var ⟨.global, "x"⟩, .kind .string]⟩,
    ⟨3, .write, [.var ⟨.global, "x"⟩]⟩, ⟨4, .read, [.var ⟨.global, "x"⟩, .kind .int]⟩],
    by decide⟩

/-- What is written is the first line, whatever follows it; a line that is no text is used up. -/
theorem run_decided_by_lines_echoOnce :
    let one : Bytes := [104, 105, 10, 55, 10]
    let other : Bytes := [104, 105, 10, 255]
    let reading : Machine := { position := 3, input := .bytes [255, 13, 10, 55] }
    (Input.chunks one).take 1 = (Input.chunks other).take 1 ∧
      ((start (.bytes other) {}).after echoOnce none 3).output.written = [104, 105] ∧
      (reading.step echoOnce none).1 = .failed ⟨Input.notText, some ⟨4, .read⟩⟩ ∧
      (reading.step echoOnce none).2.input = .bytes [55] := by
  intro one other reading
  have same : (Input.chunks one).take 1 = (Input.chunks other).take 1 := by decide
  obtain ⟨runs, steps⟩ := run_decided_by_lines echoOnce none {}
  have alike := (runs 1 one other same 3 (by decide)).1
  have left := steps reading _ rfl
  refine ⟨same, ?_, by decide, ?_⟩
  · rw [alike]
    decide
  · rw [left]
    decide

end Machine

end ThreeAddress
