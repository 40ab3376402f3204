import ThreeAddress.Operand

set_option autoImplicit false

namespace ThreeAddress

structure Instruction where
  order : UInt64
  op : Opcode
  operands : List Operand
  deriving DecidableEq, Repr

namespace Instruction

/-- The label that the instruction defines or goes to. -/
def label? (ins : Instruction) : Option String :=
  if ins.op = .label ∨ ins.op.targetsLabel then ins.operands.head?.bind Operand.label? else none

def definedLabel? (ins : Instruction) : Option String :=
  if ins.op = .label then ins.label? else none

def targetLabel? (ins : Instruction) : Option String :=
  if ins.op.targetsLabel then ins.label? else none

def orderText (order : UInt64) : String :=
  order.toNat.repr

/-- Blanks in front of a text that is shorter than `width`. -/
def padLeft (width : Nat) (text : String) : String :=
  String.ofList (List.replicate (width - text.length) ' ') ++ text

def display (ins : Instruction) : String :=
  padLeft 4 (orderText ins.order) ++ ": " ++ Text.asciiUpper ins.op.name
    ++ String.join (ins.operands.map fun operand => " " ++ operand.display)

end Instruction

end ThreeAddress
