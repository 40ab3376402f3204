import ThreeAddress.Error
import ThreeAddress.Instruction

set_option autoImplicit false

namespace ThreeAddress

structure Argument where
  /-- The place of the argument, counted from 1. -/
  index : UInt8
  kind : String
  text : String := ""
  /-- Names of elements that stood inside the argument. -/
  nested : List String := []
  deriving DecidableEq, Repr

/-- One instruction as a front end hands it over. -/
structure Record where
  order : Int64
  opcode : String
  args : List Argument := []
  deriving DecidableEq, Repr

namespace Argument

/-- The names that must not stand inside an argument, in any ASCII case. -/
def isForbidden (name : String) : Bool :=
  Text.asciiLower name ∈ ["instruction", "program"]

/-- Checks the arguments behind those whose indices were `seen`. -/
def checkFrom (order : Int64) (seen : List UInt8) : List Argument → Except Defect Unit
  | [] => .ok ()
  | arg :: rest =>
    match arg.nested.find? isForbidden with
    | some element => .error (.nestedElement order element arg.index)
    | none =>
      if ¬(1 ≤ arg.index ∧ arg.index ≤ 3) then .error (.indexOutOfRange order arg.index)
      else if arg.index ∈ seen then .error (.repeatedArgument order arg.index)
      else checkFrom order (arg.index :: seen) rest

def operand (arg : Argument) : Except OperandError Operand :=
  Operand.parse (Text.trim arg.kind) (Text.trim arg.text)

end Argument

namespace Record

def sortedArgs (record : Record) : List Argument :=
  record.args.mergeSort fun a b => a.index ≤ b.index

/-- Whether the indices are 1, 2, … up to the number of arguments. -/
def isNumbered (record : Record) : Bool :=
  record.sortedArgs.map (fun arg => arg.index.toNat) == List.range' 1 record.args.length

/-- Checks order, nesting and argument numbers. -/
def checkShape (record : Record) : Except Defect Unit :=
  if record.order < 0 then .error (.negativeOrder record.order)
  else
    match Argument.checkFrom record.order [] record.args with
    | .error defect => .error defect
    | .ok () =>
      if record.isNumbered then .ok () else .error (.argumentGap record.order)

def number (record : Record) : UInt64 :=
  record.order.toUInt64

/-- The operands of arguments, or the first error. -/
def operands : List Argument → Except OperandError (List Operand)
  | [] => .ok []
  | arg :: rest =>
    match arg.operand with
    | .error error => .error error
    | .ok operand => (operands rest).map (operand :: ·)

/-- Reads the name of the operation, then the arguments. -/
def lower (record : Record) : Except BuildError Instruction :=
  match Opcode.ofName? (Text.trim record.opcode) with
  | none => .error (.notImplemented record.number record.opcode)
  | some op =>
    match operands record.sortedArgs with
    | .error error => .error (.structural (.badOperand record.number error))
    | .ok operands => .ok ⟨record.number, op, operands⟩

end Record

end ThreeAddress
