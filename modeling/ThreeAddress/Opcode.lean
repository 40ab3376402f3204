import ThreeAddress.Text.Blank

set_option autoImplicit false

namespace ThreeAddress

inductive Opcode where
  | move
  | createFrame
  | pushFrame
  | popFrame
  | defVar
  | call
  | ret
  | pushs
  | pops
  | add
  | sub
  | mul
  | idiv
  | lt
  | gt
  | eq
  | and
  | or
  | not
  | int2char
  | stri2int
  | read
  | write
  | concat
  | strlen
  | getchar
  | setchar
  | typeOf
  | label
  | jump
  | jumpIfEq
  | jumpIfNeq
  | exit
  | dprint
  | brk
  deriving DecidableEq, Repr

/-- What an operand slot takes: a variable, a variable or a constant, a label, or the name of a kind. -/
inductive Slot where
  | var
  | symb
  | label
  | kind
  deriving DecidableEq, Repr

namespace Opcode

def name : Opcode → String
  | .move => "move"
  | .createFrame => "createframe"
  | .pushFrame => "pushframe"
  | .popFrame => "popframe"
  | .defVar => "defvar"
  | .call => "call"
  | .ret => "return"
  | .pushs => "pushs"
  | .pops => "pops"
  | .add => "add"
  | .sub => "sub"
  | .mul => "mul"
  | .idiv => "idiv"
  | .lt => "lt"
  | .gt => "gt"
  | .eq => "eq"
  | .and => "and"
  | .or => "or"
  | .not => "not"
  | .int2char => "int2char"
  | .stri2int => "stri2int"
  | .read => "read"
  | .write => "write"
  | .concat => "concat"
  | .strlen => "strlen"
  | .getchar => "getchar"
  | .setchar => "setchar"
  | .typeOf => "type"
  | .label => "label"
  | .jump => "jump"
  | .jumpIfEq => "jumpifeq"
  | .jumpIfNeq => "jumpifneq"
  | .exit => "exit"
  | .dprint => "dprint"
  | .brk => "break"

def all : List Opcode :=
  [.move, .createFrame, .pushFrame, .popFrame, .defVar, .call, .ret, .pushs, .pops, .add, .sub, .mul,
    .idiv, .lt, .gt, .eq, .and, .or, .not, .int2char, .stri2int, .read, .write, .concat, .strlen,
    .getchar, .setchar, .typeOf, .label, .jump, .jumpIfEq, .jumpIfNeq, .exit, .dprint, .brk]

def ofExactName? (text : String) : Option Opcode :=
  all.find? fun op => op.name == text

def ofName? (text : String) : Option Opcode :=
  ofExactName? (Text.asciiLower text)

/-- The operand slots, in order. -/
def signature : Opcode → List Slot
  | .createFrame | .pushFrame | .popFrame | .ret | .brk => []
  | .defVar | .pops => [.var]
  | .pushs | .write | .exit | .dprint => [.symb]
  | .call | .label | .jump => [.label]
  | .move | .not | .int2char | .strlen | .typeOf => [.var, .symb]
  | .read => [.var, .kind]
  | .add | .sub | .mul | .idiv | .lt | .gt | .eq | .and | .or | .stri2int | .concat | .getchar
  | .setchar => [.var, .symb, .symb]
  | .jumpIfEq | .jumpIfNeq => [.label, .symb, .symb]

/-- How many operands there are. -/
def arity (op : Opcode) : Nat :=
  op.signature.length

def targetsLabel : Opcode → Bool
  | .jump | .jumpIfEq | .jumpIfNeq | .call => true
  | _ => false

end Opcode

end ThreeAddress
