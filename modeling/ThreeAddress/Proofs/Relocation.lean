import ThreeAddress.Machine
import ThreeAddress.Proofs.Checks

set_option autoImplicit false

/- No instruction looks at the count of steps or at the numbers of places, and only `read` looks at the
input. So an instruction has the same effect in a machine whose position and calls were moved to
other places, if the labels it goes to were moved likewise, and in one that is fed from another
input. Only `return` counts on from a place, and asks that the places behind calls move along. -/
namespace ThreeAddress

/-- Where the outcome leads when the places that are jumped to are moved. -/
def Outcome.relocated (place : Nat → Nat) : Outcome → Outcome
  | .jump target => .jump (place target)
  | outcome => outcome

namespace Machine

/-- The machine at other places and with another count of steps. -/
def relocated (m : Machine) (place : Nat → Nat) (count : Nat) : Machine :=
  { m with position := place m.position, calls := m.calls.map place, steps := count }

def Effect.relocated (effect : Effect) (place : Nat → Nat) (count : Nat) : Effect :=
  (effect.1.map (Outcome.relocated place), effect.2.relocated place count)

/-- The machine at other places, with its steps counted otherwise and fed from another input. -/
def recast (m : Machine) (place tally : Nat → Nat) (feed : Input → Input) : Machine :=
  { m with
    position := place m.position
    calls := m.calls.map place
    steps := tally m.steps
    input := feed m.input }

def Effect.recast (effect : Effect) (place tally : Nat → Nat) (feed : Input → Input) : Effect :=
  (effect.1.map (Outcome.relocated place), effect.2.recast place tally feed)

variable {program edited : Program} {place tally : Nat → Nat} {feed : Input → Input} {count : Nat}
  {ins : Instruction} {m : Machine}

@[simp] theorem recast_frames : (m.recast place tally feed).frames = m.frames := rfl

@[simp] theorem recast_data : (m.recast place tally feed).data = m.data := rfl

@[simp] theorem recast_input : (m.recast place tally feed).input = feed m.input := rfl

@[simp] theorem recast_output : (m.recast place tally feed).output = m.output := rfl

@[simp] theorem recast_calls : (m.recast place tally feed).calls = m.calls.map place := rfl

@[simp] theorem recast_symbol (a : Operand) :
    (m.recast place tally feed).symbol a = m.symbol a := by
  cases a <;> rfl

@[simp] theorem recast_symbols (a b : Operand) :
    (m.recast place tally feed).symbols a b = m.symbols a b := by
  simp only [symbols, recast_symbol]

theorem recast_withFrames (changed : Except Fault Frames) :
    (m.recast place tally feed).withFrames changed =
      (m.withFrames changed).recast place tally feed := by
  cases changed <;> rfl

theorem recast_store (v : VarRef) (value : Except Fault Value) :
    (m.recast place tally feed).store v value = (m.store v value).recast place tally feed := by
  cases value with
  | error fault => rfl
  | ok value => exact recast_withFrames (m.frames.assign v value)

theorem recast_jump {label : String}
    (moved : edited.labelPosition? label = (program.labelPosition? label).map place) :
    jump edited (m.recast place tally feed) label =
      (jump program m label).recast place tally feed := by
  cases found : program.labelPosition? label with
  | none => simp only [jump, target, moved, found]; rfl
  | some index => simp only [jump, target, moved, found]; rfl

theorem executeUnary_recast :
    executeUnary ins (m.recast place tally feed) =
      (executeUnary ins m).recast place tally feed := by
  unfold executeUnary
  split
  · rw [recast_symbol, recast_store]
  · rfl

theorem executeBinary_recast :
    executeBinary ins (m.recast place tally feed) =
      (executeBinary ins m).recast place tally feed := by
  unfold executeBinary
  split
  · rw [recast_symbols, recast_store]
  · rfl

theorem executeSetchar_recast :
    executeSetchar ins (m.recast place tally feed) =
      (executeSetchar ins m).recast place tally feed := by
  unfold executeSetchar
  split
  · rw [recast_symbol, recast_symbols, recast_store]
  · rfl

theorem executeType_recast :
    executeType ins (m.recast place tally feed) =
      (executeType ins m).recast place tally feed := by
  unfold executeType
  split
  · rw [recast_frames, recast_store]
  · rw [recast_symbol, recast_store]
  · rfl

theorem executeDefvar_recast :
    executeDefvar ins (m.recast place tally feed) =
      (executeDefvar ins m).recast place tally feed := by
  unfold executeDefvar
  split
  · rw [recast_frames, recast_withFrames]
  · rfl

/-- Only `return` counts on from a place. -/
theorem executeReturn_recast (behind : ∀ index, place (index + 1) = place index + 1) :
    executeReturn (m.recast place tally feed) = (executeReturn m).recast place tally feed := by
  unfold executeReturn
  rw [recast_calls]
  cases m.calls with
  | nil => rfl
  | cons index calls =>
    simp only [List.map_cons, CallStack.pop, Effect.recast, Except.map, Outcome.relocated, behind]
    rfl

theorem executePushs_recast :
    executePushs ins (m.recast place tally feed) =
      (executePushs ins m).recast place tally feed := by
  unfold executePushs
  split
  · rw [recast_symbol]
    split <;> rfl
  · rfl

theorem executePops_recast :
    executePops ins (m.recast place tally feed) =
      (executePops ins m).recast place tally feed := by
  unfold executePops
  split
  · rw [recast_data]
    split
    · rfl
    · rename_i value data popped
      exact recast_store (m := { m with data }) _ (.ok value)
  · rfl

theorem executeRead_recast
    (fed : (feed m.input).readLine = (m.input.readLine.1, feed m.input.readLine.2)) :
    executeRead ins (m.recast place tally feed) =
      (executeRead ins m).recast place tally feed := by
  unfold executeRead
  split
  · rw [recast_input, fed]
    exact recast_store (m := { m with input := m.input.readLine.2 }) _ _
  · rfl

theorem executeWrite_recast :
    executeWrite ins (m.recast place tally feed) =
      (executeWrite ins m).recast place tally feed := by
  unfold executeWrite
  split
  · rw [recast_symbol]
    split
    · rfl
    · rename_i value read
      simp only [recast_output]
      cases (m.output.write value.render).1 <;> rfl
  · rfl

theorem executeDprint_recast :
    executeDprint ins (m.recast place tally feed) =
      (executeDprint ins m).recast place tally feed := by
  unfold executeDprint
  split <;> rfl

theorem executeExit_recast :
    executeExit ins (m.recast place tally feed) =
      (executeExit ins m).recast place tally feed := by
  unfold executeExit
  split
  · rw [recast_symbol]
    split <;> rfl
  · rfl

section Labels

variable (moved : ∀ label, ins.operands.head? = some (.label label) →
  edited.labelPosition? label = (program.labelPosition? label).map place)

include moved

theorem executeCall_recast :
    executeCall edited ins (m.recast place tally feed) =
      (executeCall program ins m).recast place tally feed := by
  unfold executeCall
  split
  · rename_i label operands
    have known := moved label (by rw [operands]; rfl)
    cases found : program.labelPosition? label with
    | none => simp only [target, known, found]; rfl
    | some index => simp only [target, known, found]; rfl
  · rfl

theorem executeJump_recast :
    executeJump edited ins (m.recast place tally feed) =
      (executeJump program ins m).recast place tally feed := by
  unfold executeJump
  split
  · rename_i label operands
    exact recast_jump (moved label (by rw [operands]; rfl))
  · rfl

theorem executeBranch_recast :
    executeBranch edited ins (m.recast place tally feed) =
      (executeBranch program ins m).recast place tally feed := by
  unfold executeBranch
  split
  · rename_i label a b operands
    rw [recast_symbols]
    split
    · rfl
    · split
      · exact recast_jump (moved label (by rw [operands]; rfl))
      · rfl
  · rfl

end Labels

/-- An instruction has the same effect on a machine that was recast, if it is no `read` or reads the
same. -/
theorem execute_recast
    (moved : ∀ label, ins.targetLabel? = some label →
      edited.labelPosition? label = (program.labelPosition? label).map place)
    (behind : ins.op = .ret → ∀ index, place (index + 1) = place index + 1)
    (fed : ins.op = .read →
      (feed m.input).readLine = (m.input.readLine.1, feed m.input.readLine.2)) :
    execute edited ins (m.recast place tally feed) =
      (execute program ins m).recast place tally feed := by
  have headed (targets : ins.op.targetsLabel = true) (label : String)
      (first : ins.operands.head? = some (.label label)) :
      edited.labelPosition? label = (program.labelPosition? label).map place :=
    moved label (Instruction.targetLabel?_of_head? targets first)
  cases op : ins.op with
  | move | not | int2char | strlen => simpa only [execute, op] using executeUnary_recast
  | add | sub | mul | idiv | lt | gt | eq | and | or | stri2int | concat | getchar =>
    simpa only [execute, op] using executeBinary_recast
  | setchar => simpa only [execute, op] using executeSetchar_recast
  | typeOf => simpa only [execute, op] using executeType_recast
  | pushFrame | popFrame => simp only [execute, op, recast_frames, recast_withFrames]
  | defVar => simpa only [execute, op] using executeDefvar_recast
  | call => simpa only [execute, op] using executeCall_recast (headed (by rw [op]; rfl))
  | ret => simpa only [execute, op] using executeReturn_recast (behind op)
  | pushs => simpa only [execute, op] using executePushs_recast
  | pops => simpa only [execute, op] using executePops_recast
  | read => simpa only [execute, op] using executeRead_recast (fed op)
  | write => simpa only [execute, op] using executeWrite_recast
  | jump => simpa only [execute, op] using executeJump_recast (headed (by rw [op]; rfl))
  | jumpIfEq | jumpIfNeq =>
    simpa only [execute, op] using executeBranch_recast (headed (by rw [op]; rfl))
  | exit => simpa only [execute, op] using executeExit_recast
  | dprint => simpa only [execute, op] using executeDprint_recast
  | createFrame | label | brk =>
    simp only [execute, op]
    rfl

/-- An instruction has the same effect on a machine at other places. -/
theorem execute_relocated
    (moved : ∀ label, ins.targetLabel? = some label →
      edited.labelPosition? label = (program.labelPosition? label).map place)
    (behind : ins.op = .ret → ∀ index, place (index + 1) = place index + 1) :
    execute edited ins (m.relocated place count) =
      (execute program ins m).relocated place count := by
  have recast : execute edited ins (m.recast place (fun _ => count) id) =
      (execute program ins m).recast place (fun _ => count) id :=
    execute_recast moved behind fun _ => rfl
  exact recast

end Machine

end ThreeAddress
