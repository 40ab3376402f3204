import ThreeAddress.Frames
import ThreeAddress.Input
import ThreeAddress.Operation
import ThreeAddress.Program
import ThreeAddress.Sink
import ThreeAddress.Stack

set_option autoImplicit false

/- `Machine.step` executes the instruction at the position of a machine. A step that fails leaves the
machine as it is at that point: the step is counted, the position is kept, and what was taken from
the data stack or the input before the failure is gone. -/
namespace ThreeAddress

/-- The state of a run. -/
structure Machine where
  position : Nat := 0
  steps : Nat := 0
  exited : Option Nat := none
  frames : Frames := {}
  data : DataStack := []
  calls : CallStack := []
  input : Input := .bytes []
  output : Sink := {}
  deriving DecidableEq, Repr

/-- Where an instruction that succeeds leads: on to the next one, to an index, or out of the program. -/
inductive Outcome where
  | advance
  | jump (target : Nat)
  | exit (code : Nat)
  deriving DecidableEq, Repr

/-- What a step comes to. -/
inductive StepResult where
  /-- The run was over before. -/
  | ended
  | done (outcome : Outcome)
  | failed (error : RuntimeError)
  deriving DecidableEq, Repr

namespace Machine

/-- The effect of an instruction: what it leads to or fails of, and the machine after it. -/
abbrev Effect := Except Fault Outcome × Machine

/-- Whether a run has ended, by `exit` or behind the last instruction. -/
def isFinished (program : Program) (m : Machine) : Bool :=
  m.exited.isSome || program.size ≤ m.position

def fail (m : Machine) (fault : Fault) : Effect :=
  (.error fault, m)

/-- The value of a variable or constant; a variable must have one. -/
def symbol (m : Machine) : Operand → Except Fault Value
  | .var v =>
    match m.frames.lookup v with
    | .error fault => .error fault
    | .ok .unset => .error (.noValue v)
    | .ok value => .ok value
  | operand =>
    match operand.literal? with
    | some value => .ok value
    | none => .error (.operandType (operand.display ++ " is not a value"))

def symbols (m : Machine) (a b : Operand) : Except Fault (Value × Value) := do
  let x ← m.symbol a
  let y ← m.symbol b
  return (x, y)

def withFrames (m : Machine) : Except Fault Frames → Effect
  | .error fault => m.fail fault
  | .ok frames => (.ok .advance, { m with frames })

def store (m : Machine) (v : VarRef) : Except Fault Value → Effect
  | .error fault => m.fail fault
  | .ok value => m.withFrames (m.frames.assign v value)

/-- The index of the label that an instruction goes to. -/
def target (program : Program) (label : String) : Except Fault Nat :=
  match program.labelPosition? label with
  | some index => .ok index
  | none => .error (.unknownLabel label)

def jump (program : Program) (m : Machine) (label : String) : Effect :=
  match target program label with
  | .error fault => m.fail fault
  | .ok index => (.ok (.jump index), m)

def executeUnary (ins : Instruction) (m : Machine) : Effect :=
  match ins.operands with
  | [.var v, a] => m.store v ((m.symbol a).bind (Operation.unary ins.op))
  | _ => m.fail (.badShape ins.op)

def executeBinary (ins : Instruction) (m : Machine) : Effect :=
  match ins.operands with
  | [.var v, a, b] => m.store v ((m.symbols a b).bind fun (x, y) => Operation.binary ins.op x y)
  | _ => m.fail (.badShape ins.op)

def executeSetchar (ins : Instruction) (m : Machine) : Effect :=
  match ins.operands with
  | [.var v, a, b] =>
    m.store v do
      let current ← m.symbol (.var v)
      let (index, replacement) ← m.symbols a b
      Operation.setchar current index replacement
  | _ => m.fail (.badShape ins.op)

/-- Stores the name of a kind. This alone may look at a variable without a value. -/
def executeType (ins : Instruction) (m : Machine) : Effect :=
  match ins.operands with
  | [.var v, .var a] =>
    m.store v ((m.frames.lookup a).map fun value => .str (Utf8.ofString value.typeName))
  | [.var v, a] => m.store v ((m.symbol a).map fun value => .str (Utf8.ofString value.typeName))
  | _ => m.fail (.badShape ins.op)

def executeDefvar (ins : Instruction) (m : Machine) : Effect :=
  match ins.operands with
  | [.var v] => m.withFrames (m.frames.declare v)
  | _ => m.fail (.badShape ins.op)

def executeCall (program : Program) (ins : Instruction) (m : Machine) : Effect :=
  match ins.operands with
  | [.label label] =>
    match target program label with
    | .error fault => m.fail fault
    | .ok index => (.ok (.jump index), { m with calls := m.position :: m.calls })
  | _ => m.fail (.badShape ins.op)

def executeReturn (m : Machine) : Effect :=
  match m.calls.pop with
  | .error fault => m.fail fault
  | .ok (position, calls) => (.ok (.jump (position + 1)), { m with calls })

def executePushs (ins : Instruction) (m : Machine) : Effect :=
  match ins.operands with
  | [a] =>
    match m.symbol a with
    | .error fault => m.fail fault
    | .ok value => (.ok .advance, { m with data := value :: m.data })
  | _ => m.fail (.badShape ins.op)

def executePops (ins : Instruction) (m : Machine) : Effect :=
  match ins.operands with
  | [.var v] =>
    match m.data.pop with
    | .error fault => m.fail fault
    | .ok (value, data) => { m with data }.store v (.ok value)
  | _ => m.fail (.badShape ins.op)

def executeRead (ins : Instruction) (m : Machine) : Effect :=
  match ins.operands with
  | [.var v, .kind kind] =>
    let (line, input) := m.input.readLine
    { m with input }.store v (line.map (Operation.convertInput kind))
  | _ => m.fail (.badShape ins.op)

def executeWrite (ins : Instruction) (m : Machine) : Effect :=
  match ins.operands with
  | [a] =>
    match m.symbol a with
    | .error fault => m.fail fault
    | .ok value =>
      let (result, output) := m.output.write value.render
      (result.map fun () => .advance, { m with output })
  | _ => m.fail (.badShape ins.op)

def executeJump (program : Program) (ins : Instruction) (m : Machine) : Effect :=
  match ins.operands with
  | [.label label] => jump program m label
  | _ => m.fail (.badShape ins.op)

/-- Goes to a label if two operands are equal, or if they are not. -/
def executeBranch (program : Program) (ins : Instruction) (m : Machine) : Effect :=
  match ins.operands with
  | [.label label, a, b] =>
    match (m.symbols a b).bind fun (x, y) => Operation.equals ins.op x y with
    | .error fault => m.fail fault
    | .ok equal =>
      if equal = (ins.op == .jumpIfEq) then jump program m label else (.ok .advance, m)
  | _ => m.fail (.badShape ins.op)

/-- Shows an operand to whoever watches the run, and needs one to show. -/
def executeDprint (ins : Instruction) (m : Machine) : Effect :=
  match ins.operands with
  | [_] => (.ok .advance, m)
  | _ => m.fail (.badShape ins.op)

def executeExit (ins : Instruction) (m : Machine) : Effect :=
  match ins.operands with
  | [a] =>
    match (m.symbol a).bind Operation.exitCode with
    | .error fault => m.fail fault
    | .ok code => (.ok (.exit code), m)
  | _ => m.fail (.badShape ins.op)

/-- Executes an instruction at the position of a machine. -/
def execute (program : Program) (ins : Instruction) (m : Machine) : Effect :=
  match ins.op with
  | .move | .not | .int2char | .strlen => executeUnary ins m
  | .add | .sub | .mul | .idiv | .lt | .gt | .eq | .and | .or | .stri2int | .concat | .getchar =>
    executeBinary ins m
  | .setchar => executeSetchar ins m
  | .typeOf => executeType ins m
  | .createFrame => (.ok .advance, { m with frames := m.frames.createTemporary })
  | .pushFrame => m.withFrames m.frames.push
  | .popFrame => m.withFrames m.frames.pop
  | .defVar => executeDefvar ins m
  | .call => executeCall program ins m
  | .ret => executeReturn m
  | .pushs => executePushs ins m
  | .pops => executePops ins m
  | .read => executeRead ins m
  | .write => executeWrite ins m
  | .jump => executeJump program ins m
  | .jumpIfEq | .jumpIfNeq => executeBranch program ins m
  | .exit => executeExit ins m
  | .dprint => executeDprint ins m
  | .label | .brk => (.ok .advance, m)

def follow (m : Machine) : Outcome → Machine
  | .advance => { m with position := m.position + 1 }
  | .jump target => { m with position := target }
  | .exit code => { m with exited := some code }

/-- The limit, if so many steps were made. -/
def limitReached? (limit : Option Nat) (m : Machine) : Option Nat :=
  limit.filter (· ≤ m.steps)

/-- Executes the instruction at the position and moves on. -/
def step (program : Program) (limit : Option Nat) (m : Machine) : StepResult × Machine :=
  if m.isFinished program then (.ended, m)
  else
    match m.limitReached? limit with
    | some limit => (.failed ⟨.stepLimit limit, none⟩, m)
    | none =>
      let counted := { m with steps := m.steps + 1 }
      match program.get? m.position with
      | none => (.ended, counted)
      | some ins =>
        match execute program ins counted with
        | (.error fault, after) =>
          (.failed (RuntimeError.locate ⟨fault, none⟩ ⟨ins.order, ins.op⟩), after)
        | (.ok outcome, after) => (.done outcome, after.follow outcome)

end Machine

end ThreeAddress
