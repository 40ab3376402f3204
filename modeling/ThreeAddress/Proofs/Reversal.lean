import ThreeAddress.Proofs.Control
import ThreeAddress.Proofs.Faults
import ThreeAddress.Proofs.Slots

set_option autoImplicit false

namespace ThreeAddress

namespace Frames

variable {frames after : Frames} {v w : VarRef} {value : Value}

/-- Assigns to variables one after the other. -/
def assignAll (frames : Frames) (entries : List (VarRef × Value)) : Except Fault Frames :=
  entries.foldlM (fun frames entry => frames.assign entry.1 entry.2) frames

theorem assignAll_cons (stored : frames.assign v value = .ok after)
    (entries : List (VarRef × Value)) :
    frames.assignAll ((v, value) :: entries) = after.assignAll entries := by
  rw [assignAll, List.foldlM_cons, stored]
  rfl

theorem exists_assign (accessible : frames.Accessible v) (value : Value) :
    ∃ after, frames.assign v value = .ok after := by
  cases stored : frames.assign v value with
  | error fault => exact absurd accessible (assign_error stored).1
  | ok after => exact ⟨after, rfl⟩

theorem frame?_setFrame (frames : Frames) (scope other : Scope) (frame : Frame) :
    (frames.setFrame scope frame).frame? other =
      if other = scope then some frame else frames.frame? other := by
  cases scope <;> cases other <;> rfl

/-- An assignment takes no variable away. -/
theorem Accessible.assign (accessible : frames.Accessible w)
    (stored : frames.assign v value = .ok after) : after.Accessible w := by
  obtain ⟨frame, held, present, known⟩ := accessible
  obtain ⟨changed, old, here, -, result⟩ := assign_ok stored
  rw [result, Accessible]
  simp only [frame?_setFrame]
  by_cases same : w.scope = v.scope
  · have one : changed = frame := by
      rw [same, here] at present
      exact Option.some.inj present
    by_cases name : w.name = v.name
    · refine ⟨frame.set v.name value, value, by rw [if_pos same, one], ?_⟩
      rw [Frame.get?_set, if_pos name, known]
      rfl
    · refine ⟨frame.set v.name value, held, by rw [if_pos same, one], ?_⟩
      rw [Frame.get?_set, if_neg name, known]
  · exact ⟨frame, held, by rw [if_neg same, present], known⟩

end Frames

namespace Machine

variable {program : Program} {limit : Option Nat} {m last : Machine} {ins : Instruction}
  {x : Operand} {v : VarRef} {order : UInt64} {fault : Fault} {value : Value}

/-- The machine stands in front of these instructions, and the limit leaves room for all of them. -/
structure Facing (program : Program) (limit : Option Nat) (m : Machine)
    (row : List (Opcode × List Operand)) : Prop where
  room : ∀ bound, limit = some bound → m.steps + row.length ≤ bound
  here : ∀ place < row.length,
    (program.get? (m.position + place)).map (fun ins => (ins.op, ins.operands)) = row[place]?

/-- The machine has not exited, or a run of the program meets it. -/
def Underway (program : Program) (limit : Option Nat) (m : Machine) : Prop :=
  m.exited = none ∨ ∃ input output, Reachable program limit (start input output) m

/-- The machine goes on to execute these instructions. -/
structure Ahead (program : Program) (limit : Option Nat) (m : Machine)
    (row : List (Opcode × List Operand)) : Prop extends m.Facing program limit row where
  going : m.exited = none

/-- Makes so many steps, up to the first that does not succeed: what came of that one, if there is one,
and the machine after the last step. -/
def attempt (program : Program) (limit : Option Nat) : Nat → Machine → Option StepResult × Machine
  | 0, m => (none, m)
  | count + 1, m =>
    match m.step program limit with
    | (.done _, next) => attempt program limit count next
    | (stopped, last) => (some stopped, last)

/-- The machine so many instructions on, with other frames and another data stack. -/
def goneOn (m : Machine) (count : Nat) (frames : Frames) (data : DataStack) : Machine :=
  { m with position := m.position + count, steps := m.steps + count, frames, data }

theorem goneOn_goneOn (m : Machine) (first second : Nat) (frames later : Frames)
    (data rest : DataStack) :
    (m.goneOn first frames data).goneOn second later rest = m.goneOn (first + second) later rest := by
  simp only [goneOn, Nat.add_assoc]

section Rows

variable {op : Opcode} {operands : List Operand} {row : List (Opcode × List Operand)}

/-- The machine has not exited, or it stands at the `exit` that it executed. -/
def Going (program : Program) (m : Machine) : Prop :=
  m.exited = none ∨ ∃ ins, program.get? m.position = some ins ∧ ins.op = .exit

theorem Moves.going {result : StepResult} (moves : Moves program limit m result last)
    (before : Going program m) : Going program last := by
  cases moves with
  | ended finished => exact before
  | cut running given spent => exact before
  | failed executes acts => exact Or.inl (acts.kept.2.1.trans (exited_of_running executes.running))
  | @done ins outcome last executes acts =>
    have going := exited_of_running executes.running
    cases acts with
    | exits op asked => exact Or.inr ⟨ins, executes.here, op⟩
    | _ => exact Or.inl going

/-- In front of an instruction other than `exit`, a run has not exited. -/
theorem Reachable.exited_eq_none {input : Input} {output : Sink}
    (reached : Reachable program limit (start input output) m)
    (here : program.get? m.position = some ins) (other : ins.op ≠ .exit) : m.exited = none := by
  have going : Going program m :=
    reached.invariant (Going program) (Or.inl rfl) fun m before =>
      (step_moves program limit m).going before
  cases going with
  | inl going => exact going
  | inr exits =>
    obtain ⟨found, there, exit⟩ := exits
    rw [here] at there
    exact absurd (Option.some.inj there ▸ exit) other

theorem Facing.first (facing : m.Facing program limit ((op, operands) :: row)) :
    ∃ order, program.get? m.position = some ⟨order, op, operands⟩ := by
  have first := facing.here 0 (Nat.zero_lt_succ row.length)
  rw [Nat.add_zero, List.getElem?_cons_zero] at first
  obtain ⟨ins, here, same⟩ := Option.map_eq_some_iff.mp first
  cases same
  exact ⟨ins.order, here⟩

theorem Facing.ahead (facing : m.Facing program limit ((op, operands) :: row))
    (underway : m.Underway program limit) (other : op ≠ .exit) :
    m.Ahead program limit ((op, operands) :: row) := by
  refine ⟨facing, ?_⟩
  rcases underway with going | ⟨input, output, reached⟩
  · exact going
  · obtain ⟨order, here⟩ := facing.first
    exact reached.exited_eq_none here other

theorem Ahead.executes (ahead : m.Ahead program limit ((op, operands) :: row)) :
    ∃ order, m.Executes program limit ⟨order, op, operands⟩ := by
  obtain ⟨order, here⟩ := ahead.toFacing.first
  refine ⟨order, ?_, ?_, here⟩
  · have inside := Program.get?_lt here
    rw [isFinished, ahead.going, Option.isSome_none, Bool.false_or, decide_eq_false_iff_not]
    omega
  · cases reached : m.limitReached? limit with
    | none => rfl
    | some bound =>
      obtain ⟨given, spent⟩ := limitReached?_eq_some.mp reached
      have room := ahead.room bound given
      rw [List.length_cons] at room
      omega

theorem Ahead.goneOn (ahead : m.Ahead program limit ((op, operands) :: row)) (frames : Frames)
    (data : DataStack) : (m.goneOn 1 frames data).Ahead program limit row where
  going := ahead.going
  room := by
    intro bound given
    have room := ahead.room bound given
    rw [List.length_cons] at room
    change m.steps + 1 + row.length ≤ bound
    omega
  here := by
    intro place inside
    have there := ahead.here (place + 1) (Nat.succ_lt_succ inside)
    rw [List.getElem?_cons_succ, ← Nat.add_assoc, Nat.add_right_comm] at there
    exact there

theorem attempt_of_ok (executes : m.Executes program limit ins) {frames : Frames} {data : DataStack}
    (ran : execute program ins m.counted = (.ok .advance, { m.counted with frames, data }))
    (count : Nat) :
    attempt program limit (count + 1) m = attempt program limit count (m.goneOn 1 frames data) := by
  rw [attempt, executes.step_ok ran]
  rfl

theorem attempt_of_error (executes : m.Executes program limit ins)
    (ran : execute program ins m.counted = (.error fault, last)) (count : Nat) :
    attempt program limit (count + 1) m =
      (some (.failed ⟨fault, some ⟨ins.order, ins.op⟩⟩), last) := by
  rw [attempt, executes.step_error ran]

end Rows

theorem store_ok {frames : Frames} (stored : m.frames.assign v value = .ok frames) :
    m.store v (.ok value) = (.ok .advance, { m with frames }) := by
  rw [store, stored]
  rfl

theorem store_error (unstored : m.frames.assign v value = .error fault) :
    m.store v (.ok value) = (.error fault, m) := by
  rw [store, unstored]
  rfl

theorem execute_pushs_ok (read : m.symbol x = .ok value) :
    execute program ⟨order, .pushs, [x]⟩ m = (.ok .advance, { m with data := value :: m.data }) := by
  simp only [execute, executePushs, read]

theorem execute_pushs_error (unread : m.symbol x = .error fault) :
    execute program ⟨order, .pushs, [x]⟩ m = (.error fault, m) := by
  simp only [execute, executePushs, unread, fail]

theorem execute_pops {data : DataStack} (top : m.data = value :: data) :
    execute program ⟨order, .pops, [.var v]⟩ m = { m with data }.store v (.ok value) := by
  simp only [execute, executePops, top, DataStack.pop]

theorem execute_move (m : Machine) :
    execute program ⟨order, .move, [.var v, x]⟩ m = m.store v (m.symbol x) := by
  have same : (m.symbol x).bind (Operation.unary .move) = m.symbol x := by
    cases m.symbol x <;> rfl
  simp only [execute, executeUnary, same]

def pushing (xs : List Operand) : List (Opcode × List Operand) :=
  xs.map fun x => (.pushs, [x])

def popping (vs : List VarRef) : List (Opcode × List Operand) :=
  vs.map fun v => (.pops, [.var v])

/-- A row of pushes puts the values of its operands on the data stack, the last on top. -/
theorem attempt_pushing {xs : List Operand} {values : List Value}
    {row : List (Opcode × List Operand)} (ahead : m.Ahead program limit (pushing xs ++ row))
    (read : m.values xs = .ok values) :
    let pushed := m.goneOn xs.length m.frames (values.reverse ++ m.data)
    pushed.Ahead program limit row ∧
      ∀ count, attempt program limit (xs.length + count) m = attempt program limit count pushed := by
  induction xs generalizing m values with
  | nil =>
    cases read
    refine ⟨ahead, ?_⟩
    intro count
    rw [List.length_nil, Nat.zero_add]
    rfl
  | cons x xs ih =>
    obtain ⟨value, others, first, behind, rfl⟩ := values_cons read
    obtain ⟨order, executes⟩ := ahead.executes
    have ran : execute program ⟨order, .pushs, [x]⟩ m.counted =
        (.ok .advance, { m.counted with data := value :: m.data }) :=
      execute_pushs_ok first
    have goesOn := attempt_of_ok executes ran
    -- A push changes no variable, so that the operands behind it have the values they had.
    have kept : (m.goneOn 1 m.frames (value :: m.data)).frames = m.frames := rfl
    have rest := ih (ahead.goneOn m.frames (value :: m.data)) ((values_congr kept xs).trans behind)
    rw [goneOn_goneOn, Nat.add_comm 1 xs.length] at rest
    rw [List.length_cons, List.reverse_cons, List.append_assoc]
    refine ⟨rest.1, ?_⟩
    intro count
    rw [Nat.add_right_comm, goesOn]
    exact rest.2 count

/-- A row of pops takes values off the data stack and assigns them to its variables in turn. -/
theorem attempt_popping {vs : List VarRef} {popped rest : List Value}
    (ahead : m.Ahead program limit (popping vs)) (length : popped.length = vs.length)
    (top : m.data = popped ++ rest) (accessible : ∀ v ∈ vs, m.frames.Accessible v) :
    ∃ frames, m.frames.assignAll (vs.zip popped) = .ok frames ∧
      attempt program limit vs.length m = (none, m.goneOn vs.length frames rest) := by
  induction vs generalizing m popped with
  | nil =>
    rw [List.length_eq_zero_iff.mp length] at top
    refine ⟨m.frames, rfl, ?_⟩
    rw [goneOn, List.length_nil, attempt, ← List.nil_append rest, ← top]
    rfl
  | cons v vs ih =>
    cases popped with
    | nil => cases length
    | cons value popped =>
      obtain ⟨order, executes⟩ := ahead.executes
      obtain ⟨frames, stored⟩ := Frames.exists_assign (accessible v List.mem_cons_self) value
      have ran : execute program ⟨order, .pops, [.var v]⟩ m.counted =
          (.ok .advance, { m.counted with data := popped ++ rest, frames }) := by
        have counted : m.counted.data = value :: (popped ++ rest) := top
        rw [execute_pops counted]
        exact store_ok stored
      have goesOn := attempt_of_ok executes ran
      have others : ∀ w ∈ vs, (m.goneOn 1 frames (popped ++ rest)).frames.Accessible w := by
        intro w member
        exact (accessible w (List.mem_cons_of_mem v member)).assign stored
      obtain ⟨last, assigned, ended⟩ :=
        ih (ahead.goneOn frames (popped ++ rest)) (Nat.succ.inj length) rfl others
      refine ⟨last, ?_, ?_⟩
      · rw [List.zip_cons_cons, Frames.assignAll_cons stored]
        exact assigned
      · rw [goneOn_goneOn, Nat.add_comm 1 vs.length] at ended
        rw [List.length_cons, goesOn]
        exact ended

/-- Pushing operands and popping as many variables assigns the values to the variables, the last first. -/
theorem attempt_reversing {xs : List Operand} {vs : List VarRef} {values : List Value}
    (length : xs.length = vs.length) (ahead : m.Ahead program limit (pushing xs ++ popping vs))
    (read : m.values xs = .ok values) (accessible : ∀ v ∈ vs, m.frames.Accessible v) :
    ∃ frames, m.frames.assignAll (vs.zip values.reverse) = .ok frames ∧
      attempt program limit (2 * xs.length) m =
        (none, m.goneOn (2 * xs.length) frames m.data) := by
  obtain ⟨behind, pushed⟩ := attempt_pushing ahead read
  have popped : values.reverse.length = vs.length := by
    rw [List.length_reverse, values_length read, length]
  obtain ⟨frames, assigned, ended⟩ := attempt_popping behind popped rfl accessible
  refine ⟨frames, assigned, ?_⟩
  rw [goneOn_goneOn, ← length, ← Nat.two_mul] at ended
  rw [Nat.two_mul, pushed, ← Nat.two_mul]
  exact ended

/-- Pushing an operand and popping a variable does what `move` does, and fails where it fails. -/
theorem attempt_move {other : Program} {bound : Option Nat} {n : Machine}
    (ahead : m.Ahead program limit (pushing [x] ++ popping [v]))
    (aheadToo : n.Ahead other bound [(.move, [.var v, x])]) (frames : n.frames = m.frames)
    (data : n.data = m.data) :
    let tried := attempt program limit 2 m
    let moved := attempt other bound 1 n
    tried.2.frames = moved.2.frames ∧ tried.2.data = moved.2.data ∧
      (tried.1 = none ∧ moved.1 = none ∨
        ∃ error reason, tried.1 = some (.failed error) ∧ moved.1 = some (.failed reason) ∧
          error.kind = reason.kind) := by
  obtain ⟨first, pushs⟩ := ahead.executes
  obtain ⟨only, move⟩ := aheadToo.executes
  have stores : execute other ⟨only, .move, [.var v, x]⟩ n.counted =
      n.counted.store v (m.symbol x) := by
    have same : n.counted.symbol x = m.symbol x := symbol_congr frames x
    rw [execute_move, same]
  cases read : m.symbol x with
  | error fault =>
    rw [read] at stores
    have tried := attempt_of_error pushs (execute_pushs_error read) 1
    have moved := attempt_of_error move stores 0
    rw [tried, moved]
    exact ⟨frames.symm, data.symm, Or.inr ⟨_, _, rfl, rfl, rfl⟩⟩
  | ok value =>
    rw [read] at stores
    have pushed := attempt_of_ok pushs (execute_pushs_ok read) 1
    have behind := ahead.goneOn m.frames (value :: m.data)
    obtain ⟨second, pops⟩ := behind.executes
    have popped : execute program ⟨second, .pops, [.var v]⟩
        (m.goneOn 1 m.frames (value :: m.data)).counted =
        (m.goneOn 1 m.frames m.data).counted.store v (.ok value) :=
      execute_pops rfl
    cases stored : m.frames.assign v value with
    | error fault =>
      have tried := attempt_of_error pops (popped.trans (store_error stored)) 0
      have moved := attempt_of_error move (stores.trans (store_error (frames ▸ stored))) 0
      rw [pushed.trans tried, moved]
      -- The value that was pushed is lost, so that the data stack is what it was before.
      exact ⟨frames.symm, data.symm, Or.inr ⟨_, _, rfl, rfl, rfl⟩⟩
    | ok after =>
      have tried := attempt_of_ok pops (popped.trans (store_ok stored)) 0
      have moved := attempt_of_ok move (stores.trans (store_ok (frames ▸ stored))) 0
      rw [pushed.trans tried, moved]
      exact ⟨rfl, data.symm, Or.inl ⟨rfl, rfl⟩⟩

/-- Whatever is on the data stack, pushing operands and popping as many variables leaves it as it was,
and assigns to the variables in turn the values that the operands had before, the last first. With one
operand and one variable it is `move`, also where it fails. This holds wherever a run comes to such a row,
since in front of an instruction other than `exit` it has not exited. -/
theorem data_stack_reverses :
    (∀ (program : Program) (limit : Option Nat) (m : Machine) (xs : List Operand) (vs : List VarRef)
      (values : List Value), xs.length = vs.length → m.Underway program limit →
      m.Facing program limit (pushing xs ++ popping vs) → m.values xs = .ok values →
      (∀ v ∈ vs, m.frames.Accessible v) →
      ∃ frames, m.frames.assignAll (vs.zip values.reverse) = .ok frames ∧
        attempt program limit (2 * xs.length) m =
          (none, m.goneOn (2 * xs.length) frames m.data)) ∧
    (∀ (program other : Program) (limit bound : Option Nat) (m n : Machine) (x : Operand)
      (v : VarRef), m.Underway program limit → n.Underway other bound →
      m.Facing program limit (pushing [x] ++ popping [v]) →
      n.Facing other bound [(.move, [.var v, x])] → n.frames = m.frames → n.data = m.data →
      let tried := attempt program limit 2 m
      let moved := attempt other bound 1 n
      tried.2.frames = moved.2.frames ∧ tried.2.data = moved.2.data ∧
        (tried.1 = none ∧ moved.1 = none ∨
          ∃ error reason, tried.1 = some (.failed error) ∧ moved.1 = some (.failed reason) ∧
            error.kind = reason.kind)) ∧
    (∀ (program : Program) (limit : Option Nat) (input : Input) (output : Sink) (m : Machine)
      (ins : Instruction), Reachable program limit (start input output) m →
      program.get? m.position = some ins → ins.op ≠ .exit → m.exited = none) := by
  refine ⟨?_, ?_, ?_⟩
  · intro program limit m xs vs values length underway facing read accessible
    cases xs with
    | nil =>
      cases List.length_eq_zero_iff.mp length.symm
      exact ⟨m.frames, rfl, rfl⟩
    | cons x xs =>
      have ahead := facing.ahead underway (by decide)
      exact attempt_reversing length ahead read accessible
  · intro program other limit bound m n x v underway underwayToo facing facingToo frames data
    have ahead := facing.ahead underway (by decide)
    have aheadToo := facingToo.ahead underwayToo (by decide)
    exact attempt_move ahead aheadToo frames data
  · intro program limit input output m ins reached here other
    exact reached.exited_eq_none here other

/-- Sets two variables, and swaps their values above a value that stays on the data stack. -/
def swapping : Program :=
  ⟨#[⟨1, .defVar, [.var ⟨.global, "a"⟩]⟩, ⟨2, .defVar, [.var ⟨.global, "b"⟩]⟩,
    ⟨3, .move, [.var ⟨.global, "a"⟩, .int 1]⟩, ⟨4, .move, [.var ⟨.global, "b"⟩, .int 2]⟩,
    ⟨5, .pushs, [.nil]⟩, ⟨6, .pushs, [.var ⟨.global, "a"⟩]⟩, ⟨7, .pushs, [.var ⟨.global, "b"⟩]⟩,
    ⟨8, .pops, [.var ⟨.global, "a"⟩]⟩, ⟨9, .pops, [.var ⟨.global, "b"⟩]⟩], by decide⟩

def pushPop : Program :=
  ⟨#[⟨1, .pushs, [.int 1]⟩, ⟨2, .pops, [.var ⟨.global, "a"⟩]⟩], by decide⟩

def moveOnly : Program :=
  ⟨#[⟨1, .move, [.var ⟨.global, "a"⟩, .int 1]⟩], by decide⟩

/-- Two variables swap their values, and where a variable is not declared, pushing a value and popping
the variable fails as `move` does, with nothing left on the data stack. -/
theorem data_stack_reverses_swapping :
    let a : VarRef := ⟨.global, "a"⟩
    let b : VarRef := ⟨.global, "b"⟩
    let held (first second : Int64) : Frames := { global := ⟨[("b", .int second), ("a", .int first)]⟩ }
    let m : Machine := { position := 5, steps := 5, frames := held 1 2, data := [.nil] }
    let tried := attempt pushPop none 2 {}
    let moved := attempt moveOnly none 1 {}
    (Reachable swapping none (start (.bytes []) {}) m ∧
      m.values [.var a, .var b] = .ok [.int 1, .int 2] ∧
      m.exited = none ∧ attempt swapping none 4 m = (none, m.goneOn 4 (held 2 1) [.nil])) ∧
    tried.1 = some (.failed ⟨.undefinedVariable a, some ⟨2, .pops⟩⟩) ∧
      tried.2.frames = moved.2.frames ∧ tried.2.data = moved.2.data ∧
      ∃ error reason, tried.1 = some (.failed error) ∧ moved.1 = some (.failed reason) ∧
        error.kind = reason.kind := by
  intro a b held m tried moved
  refine ⟨?_, ?_⟩
  · have reached : Reachable swapping none (start (.bytes []) {}) m := ⟨5, by decide⟩
    have read : m.values [.var a, .var b] = .ok [.int 1, .int 2] := by decide
    have going : m.exited = none :=
      data_stack_reverses.2.2 swapping none (.bytes []) {} m ⟨6, .pushs, [.var a]⟩ reached rfl
        (by decide)
    have facing : m.Facing swapping none (pushing [.var a, .var b] ++ popping [a, b]) :=
      ⟨by simp, by decide⟩
    have accessible : ∀ v ∈ [a, b], m.frames.Accessible v := by
      simp only [List.forall_mem_cons]
      exact ⟨⟨_, _, rfl, rfl⟩, ⟨_, _, rfl, rfl⟩, by simp⟩
    obtain ⟨frames, assigned, ended⟩ :=
      data_stack_reverses.1 swapping none m [.var a, .var b] [a, b] _ rfl
        (Or.inr ⟨_, _, reached⟩) facing read accessible
    have swapped : m.frames.assignAll ([a, b].zip [.int 2, .int 1]) = .ok (held 2 1) := by decide
    cases swapped.symm.trans assigned
    exact ⟨reached, read, going, ended⟩
  · have failed : tried.1 = some (.failed ⟨.undefinedVariable a, some ⟨2, .pops⟩⟩) := by decide
    have facing : Facing pushPop none {} (pushing [.int 1] ++ popping [a]) :=
      ⟨by simp, by decide⟩
    have facingToo : Facing moveOnly none {} [(.move, [.var a, .int 1])] := ⟨by simp, by decide⟩
    obtain ⟨frames, data, same⟩ :=
      data_stack_reverses.2.1 pushPop moveOnly none none {} {} (.int 1) a (Or.inl rfl) (Or.inl rfl)
        facing facingToo rfl rfl
    refine ⟨failed, frames, data, ?_⟩
    cases same with
    | inl succeeded => cases failed.symm.trans succeeded.1
    | inr same => exact same

end Machine

end ThreeAddress
