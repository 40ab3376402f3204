import ThreeAddress.Operand

set_option autoImplicit false

namespace ThreeAddress

inductive ErrorKind where
  | structural
  | notImplemented
  | duplicateLabel
  | unknownLabel
  | variableRedefinition
  | operandType
  | variableAccess
  | frameAccess
  | missingValue
  | callStackEmpty
  | dataStackEmpty
  | operandValue
  | stringOperation
  | output
  | internal
  deriving DecidableEq, Repr

namespace ErrorKind

def all : List ErrorKind :=
  [.structural, .notImplemented, .duplicateLabel, .unknownLabel, .variableRedefinition, .operandType,
    .variableAccess, .frameAccess, .missingValue, .callStackEmpty, .dataStackEmpty, .operandValue,
    .stringOperation, .output, .internal]

/-- The status of the process; no two kinds share one. -/
def exitCode : ErrorKind → Nat
  | .output => 12
  | .structural => 32
  | .notImplemented => 33
  | .duplicateLabel => 34
  | .unknownLabel => 52
  | .operandType => 53
  | .variableAccess => 54
  | .frameAccess => 55
  | .missingValue => 56
  | .operandValue => 57
  | .stringOperation => 58
  | .variableRedefinition => 59
  | .callStackEmpty => 60
  | .dataStackEmpty => 61
  | .internal => 99

end ErrorKind

inductive Malformed where
  /-- It is not JSON. -/
  | notJson
  /-- It is JSON and not a list of instruction records. -/
  | notRecords
  deriving DecidableEq, Repr

def Malformed.message : Malformed → String
  | .notJson => "the text is not JSON"
  | .notRecords => "the value is not a list of instruction records"

/-- What is wrong with the structure of a program. -/
inductive Defect where
  | malformed (reason : Malformed)
  | negativeOrder (order : Int64)
  | duplicateOrder (order : UInt64)
  | nestedElement (order : Int64) (element : String) (index : UInt8)
  | indexOutOfRange (order : Int64) (index : UInt8)
  | repeatedArgument (order : Int64) (index : UInt8)
  | argumentGap (order : Int64)
  | badOperand (order : UInt64) (error : OperandError)
  | operandCount (order : UInt64) (op : Opcode) (found : Nat)
  | operandMisfit (order : UInt64) (op : Opcode) (place : Nat) (operand : Operand)
  deriving DecidableEq, Repr

/-- An error in front of which stands the instruction it concerns. -/
def inInstruction (order : String) (message : String) : String :=
  "instruction " ++ order ++ ": " ++ message

def Defect.message : Defect → String
  | .malformed reason => "malformed program: " ++ reason.message
  | .negativeOrder order => "negative instruction order " ++ order.toInt.repr
  | .duplicateOrder order => "duplicate instruction order " ++ order.toNat.repr
  | .nestedElement order element index =>
    inInstruction order.toInt.repr
      ("'" ++ element ++ "' element nested inside argument " ++ index.toNat.repr)
  | .indexOutOfRange order index =>
    inInstruction order.toInt.repr ("argument index " ++ index.toNat.repr ++ " out of range")
  | .repeatedArgument order index =>
    inInstruction order.toInt.repr ("argument " ++ index.toNat.repr ++ " given twice")
  | .argumentGap order =>
    inInstruction order.toInt.repr "arguments are not numbered from 1 without gaps"
  | .badOperand order error => inInstruction order.toNat.repr error.message
  | .operandCount order op found =>
    inInstruction order.toNat.repr
      (op.name ++ " takes " ++ op.arity.repr ++ " operand(s), got " ++ found.repr)
  | .operandMisfit order op place operand =>
    inInstruction order.toNat.repr
      ("operand " ++ place.repr ++ " of " ++ op.name ++ " cannot be " ++ operand.display)

inductive BuildError where
  | structural (defect : Defect)
  | notImplemented (order : UInt64) (opcode : String)
  | duplicateLabel (label : String) (first second : UInt64)
  | unknownLabel (order : UInt64) (label : String)
  deriving DecidableEq, Repr

namespace BuildError

def kind : BuildError → ErrorKind
  | .structural _ => .structural
  | .notImplemented _ _ => .notImplemented
  | .duplicateLabel _ _ _ => .duplicateLabel
  | .unknownLabel _ _ => .unknownLabel

def message : BuildError → String
  | .structural defect => "invalid program structure: " ++ defect.message
  | .notImplemented order opcode =>
    inInstruction order.toNat.repr ("unknown opcode '" ++ opcode ++ "'")
  | .duplicateLabel label first second =>
    "label '" ++ label ++ "' defined more than once (instructions " ++ first.toNat.repr ++ " and "
      ++ second.toNat.repr ++ ")"
  | .unknownLabel order label => inInstruction order.toNat.repr ("unknown label '" ++ label ++ "'")

end BuildError

/-- What an instruction failed of. -/
inductive Fault where
  | frameAccess (detail : String)
  | variableAccess (detail : String)
  | variableRedefinition (name : String)
  | operandType (detail : String)
  | operandValue (detail : String)
  | missingValue (detail : String)
  | stringOperation (detail : String)
  | unknownLabel (label : String)
  | callStackEmpty
  | dataStackEmpty
  | stepLimit (limit : Nat)
  | output (detail : String)
  | input (detail : String)
  deriving DecidableEq, Repr

namespace Fault

def kind : Fault → ErrorKind
  | .frameAccess _ => .frameAccess
  | .variableAccess _ => .variableAccess
  | .variableRedefinition _ => .variableRedefinition
  | .operandType _ => .operandType
  | .operandValue _ => .operandValue
  | .missingValue _ => .missingValue
  | .stringOperation _ => .stringOperation
  | .unknownLabel _ => .unknownLabel
  | .callStackEmpty => .callStackEmpty
  | .dataStackEmpty => .dataStackEmpty
  | .output _ => .output
  | .stepLimit _ | .input _ => .internal

def message : Fault → String
  | .frameAccess detail => "frame access error: " ++ detail
  | .variableAccess detail => "variable access error: " ++ detail
  | .variableRedefinition name => "variable '" ++ name ++ "' is already defined"
  | .operandType detail => "operand type error: " ++ detail
  | .operandValue detail => "operand value error: " ++ detail
  | .missingValue detail => "missing value: " ++ detail
  | .stringOperation detail => "string operation error: " ++ detail
  | .unknownLabel label => "unknown label '" ++ label ++ "'"
  | .callStackEmpty => "return without a matching call"
  | .dataStackEmpty => "pop from an empty data stack"
  | .stepLimit limit => "step limit of " ++ limit.repr ++ " instructions exceeded"
  | .output detail => "cannot write output: " ++ detail
  | .input detail => "i/o error: " ++ detail

def missingFrame (scope : Scope) : Fault :=
  .frameAccess ("frame " ++ scope.mark ++ " does not exist")

def noTemporary : Fault :=
  .frameAccess "no temporary frame to push"

def noLocal : Fault :=
  .frameAccess "local frame stack is empty"

def undefinedVariable (v : VarRef) : Fault :=
  .variableAccess ("variable " ++ v.display ++ " is not defined")

def unreachableVariable (v : VarRef) : Fault :=
  .variableAccess
    ("variable " ++ v.display ++ " is not reachable: frame " ++ v.scope.mark ++ " does not exist")

def noValue (v : VarRef) : Fault :=
  .missingValue ("variable " ++ v.display ++ " has no value")

def wrongKind (op : Opcode) (expected : Kind) (found : Value) : Fault :=
  .operandType (op.name ++ " expects " ++ expected.name ++ ", got " ++ found.kindName)

/-- Two operands have kinds that cannot be told equal or different. -/
def incomparable (op : Opcode) (a b : Value) : Fault :=
  .operandType (op.name ++ " cannot compare " ++ a.kindName ++ " with " ++ b.kindName)

def unordered (op : Opcode) (a b : Value) : Fault :=
  .operandType (op.name ++ " cannot order " ++ a.kindName ++ " and " ++ b.kindName)

/-- An operand is not where its instruction needs one. -/
def badShape (op : Opcode) : Fault :=
  .operandType (op.name ++ " does not take these operands")

def divisionByZero : Fault :=
  .operandValue "division by zero"

/-- A status is outside the range that `exit` takes. -/
def badExitCode (code : Int64) : Fault :=
  .operandValue ("exit code " ++ Numeral.decimal code ++ " outside 0..=9")

def badIndex (op : Opcode) (index : Int64) (length : Nat) : Fault :=
  .stringOperation
    (op.name ++ ": index " ++ Numeral.decimal index ++ " out of range for string of length "
      ++ length.repr)

def badCodePoint (n : Int64) : Fault :=
  .stringOperation ("int2char: " ++ Numeral.decimal n ++ " is not a valid code point")

def emptyReplacement : Fault :=
  .stringOperation "setchar: replacement string is empty"

end Fault

/-- The instruction at which a run failed. -/
structure Site where
  order : UInt64
  op : Opcode
  deriving DecidableEq, Repr

/-- An error of a run: a fault and, unless the run was cut off from outside, the instruction. -/
structure RuntimeError where
  fault : Fault
  site : Option Site := none
  deriving DecidableEq, Repr

namespace RuntimeError

def kind (error : RuntimeError) : ErrorKind :=
  error.fault.kind

def order? (error : RuntimeError) : Option UInt64 :=
  error.site.map Site.order

/-- Adds the instruction that failed, unless it is known already. -/
def locate (error : RuntimeError) (site : Site) : RuntimeError :=
  { error with site := error.site.or (some site) }

theorem locate_fault (fault : Fault) (site : Site) : locate ⟨fault, none⟩ site = ⟨fault, some site⟩ :=
  rfl

theorem locate_locate (error : RuntimeError) (site other : Site) :
    (error.locate site).locate other = error.locate site := by
  rcases error with ⟨fault, none | known⟩ <;> rfl

def message (error : RuntimeError) : String :=
  match error.site with
  | none => error.fault.message
  | some site =>
    "instruction " ++ site.order.toNat.repr ++ " (" ++ site.op.name ++ "): " ++ error.fault.message

end RuntimeError

end ThreeAddress
