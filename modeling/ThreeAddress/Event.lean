import ThreeAddress.Run

set_option autoImplicit false

namespace ThreeAddress

/-- How much an event matters; an event is told to those who asked for its level or a lower one. -/
inductive Level where
  | error
  | warn
  | info
  | debug
  | trace
  deriving DecidableEq, Repr

namespace Level

/-- The rank of a level, the most severe first. -/
def rank : Level → Nat
  | .error => 1
  | .warn => 2
  | .info => 3
  | .debug => 4
  | .trace => 5

def name : Level → String
  | .error => "ERROR"
  | .warn => "WARN"
  | .info => "INFO"
  | .debug => "DEBUG"
  | .trace => "TRACE"

end Level

inductive Event where
  | built (instructions labels : Nat)
  | loaded (path : String) (instructions : Nat)
  | step (position : Nat) (site : Site)
  | framePushed (depth : Nat)
  | framePopped (depth : Nat)
  | called (origin target depth : Nat)
  | returned (target depth : Nat)
  | shown (order : UInt64) (operand : Operand)
  | paused (position steps locals : Nat) (temporary : Bool) (data calls : Nat)
  | finished (steps : Nat) (status : ExitStatus)
  deriving DecidableEq, Repr

namespace Event

def level : Event → Level
  | .finished _ _ => .info
  | .step _ _ => .trace
  | _ => .debug

def origin : Event → String
  | .built _ _ => "ippi_vm::program"
  | .loaded _ _ => "ippi_cli::runner"
  | _ => "ippi_vm::vm"

def message : Event → String
  | .built _ _ => "program built"
  | .loaded _ _ => "loaded program"
  | .step _ _ => "step"
  | .framePushed _ => "pushframe"
  | .framePopped _ => "popframe"
  | .called _ _ _ => "call"
  | .returned _ _ => "return"
  | .shown _ _ => "dprint"
  | .paused _ _ _ _ _ _ => "break"
  | .finished _ _ => "run finished"

def fields : Event → List (String × String)
  | .built instructions labels => [("instructions", instructions.repr), ("labels", labels.repr)]
  | .loaded path instructions => [("path", path), ("instructions", instructions.repr)]
  | .step position site =>
    [("position", position.repr), ("order", site.order.toNat.repr), ("opcode", site.op.name)]
  | .framePushed depth | .framePopped depth => [("depth", depth.repr)]
  | .called origin target depth =>
    [("from", origin.repr), ("to", target.repr), ("depth", depth.repr)]
  | .returned target depth => [("to", target.repr), ("depth", depth.repr)]
  | .shown order operand => [("order", order.toNat.repr), ("operand", operand.display)]
  | .paused position steps locals temporary data calls =>
    [("position", position.repr), ("steps", steps.repr), ("locals", locals.repr),
      ("temporary", Value.boolText temporary), ("data_stack", data.repr),
      ("call_depth", calls.repr)]
  | .finished steps status => [("steps", steps.repr), ("status", status.code.repr)]

def ofInstruction (ins : Instruction) (before after : Machine) : List Event :=
  match ins.op with
  | .pushFrame => [.framePushed after.frames.depth]
  | .popFrame => [.framePopped after.frames.depth]
  | .call => [.called before.position after.position after.calls.length]
  | .ret => [.returned after.position after.calls.length]
  | .dprint => ins.operands.head?.toList.map (.shown ins.order)
  | .brk =>
    [.paused before.position after.steps after.frames.depth after.frames.temporary.isSome
      after.data.length after.calls.length]
  | _ => []

/-- What a step tells that led from one machine to another. -/
def ofStep (program : Program) (before after : Machine) (result : StepResult) : List Event :=
  if after.steps = before.steps then []
  else
    match program.get? before.position with
    | none => []
    | some ins =>
      .step before.position ⟨ins.order, ins.op⟩ ::
        match result with
        | .done _ => ofInstruction ins before after
        | _ => []

def ofProgram (program : Program) : Event :=
  .built program.size program.labels.length

/-- What a run tells, last event first, in front of what was told before. -/
def ofRunOnto (program : Program) (limit : Option Nat) : Nat → Machine → List Event → List Event
  | 0, _, told => told
  | fuel + 1, m, told =>
    let (result, after) := m.step program limit
    let told := (ofStep program m after result).reverse ++ told
    match result with
    | .ended => .finished after.steps after.status :: told
    | .failed _ => told
    | .done _ => ofRunOnto program limit fuel after told

def ofRun (program : Program) (limit : Option Nat) (m : Machine) : List Event :=
  (ofRunOnto program limit (Machine.enough limit) m []).reverse

end Event

end ThreeAddress
