import ThreeAddress.Error
import ThreeAddress.Text.Characters

set_option autoImplicit false

namespace ThreeAddress.Operation

def int (op : Opcode) (value : Value) : Except Fault Int64 :=
  match value with
  | .int n => .ok n
  | _ => .error (.wrongKind op .int value)

def bool (op : Opcode) (value : Value) : Except Fault Bool :=
  match value with
  | .bool b => .ok b
  | _ => .error (.wrongKind op .bool value)

def str (op : Opcode) (value : Value) : Except Fault Bytes :=
  match value with
  | .str bytes => .ok bytes
  | _ => .error (.wrongKind op .string value)

/-- Arithmetic on 64 bits, where overflow wraps around and division truncates toward zero. -/
def arithmetic (op : Opcode) (a b : Value) : Except Fault Value := do
  let x ← int op a
  let y ← int op b
  match op with
  | .add => return .int (x + y)
  | .sub => return .int (x - y)
  | .mul => return .int (x * y)
  | .idiv => if y = 0 then throw .divisionByZero else return .int (x / y)
  | _ => throw (.badShape op)

/-- Equality: nil equals nil only, other values are compared with those of their kind. -/
def equals (op : Opcode) (a b : Value) : Except Fault Bool :=
  match a, b with
  | .nil, .nil => .ok true
  | .nil, _ => .ok false
  | _, .nil => .ok false
  | .int x, .int y => .ok (x == y)
  | .bool x, .bool y => .ok (x == y)
  | .str x, .str y => .ok (x == y)
  | _, _ => .error (.incomparable op a b)

/-- How one value stands to another; none unless both have one kind that has an order. -/
def order? (a b : Value) : Option Ordering :=
  match a, b with
  | .int x, .int y => some (compare x y)
  | .bool x, .bool y => some (compare x y)
  | .str x, .str y => some (compare x y)
  | _, _ => none

/-- `lt` and `gt`, which ask for one outcome of the comparison each. -/
def relational (op : Opcode) (a b : Value) : Except Fault Value :=
  match order? a b with
  | some ordering => .ok (.bool (ordering == if op = .lt then .lt else .gt))
  | none => .error (.unordered op a b)

/-- `and` and `or`. -/
def logic (op : Opcode) (a b : Value) : Except Fault Value := do
  let x ← bool op a
  let y ← bool op b
  match op with
  | .and => return .bool (x && y)
  | .or => return .bool (x || y)
  | _ => throw (.badShape op)

def negate (a : Value) : Except Fault Value := do
  let x ← bool .not a
  return .bool (!x)

def concat (a b : Value) : Except Fault Value := do
  let x ← str .concat a
  let y ← str .concat b
  return .str (x ++ y)

def strlen (a : Value) : Except Fault Value := do
  let bytes ← str .strlen a
  return .int (Int64.ofNat (Text.characters bytes).length)

def place? (index : Int64) (length : Nat) : Option Nat :=
  if 0 ≤ index ∧ index.toInt.toNat < length then some index.toInt.toNat else none

def charAt (op : Opcode) (a index : Value) : Except Fault Bytes := do
  let bytes ← str op a
  let i ← int op index
  let chars := Text.characters bytes
  match (place? i chars.length).bind (chars[·]?) with
  | some char => return char
  | none => throw (.badIndex op i chars.length)

/-- The character at an index, as a string. -/
def getchar (a index : Value) : Except Fault Value := do
  let char ← charAt .getchar a index
  return .str char

def stri2int (a index : Value) : Except Fault Value := do
  let char ← charAt .stri2int a index
  return .int (Int64.ofNat (Text.codePoint char))

def char? (n : Int64) : Option Char :=
  if 0 ≤ n ∧ n.toInt.toNat.isValidChar then some (Char.ofNat n.toInt.toNat) else none

/-- The character of a code point, as a string. -/
def int2char (a : Value) : Except Fault Value := do
  let n ← int .int2char a
  match char? n with
  | some c => return .str (Utf8.encodeChar c)
  | none => throw (.badCodePoint n)

/-- A string with the character at an index replaced by the first character of another string. -/
def setchar (a index replacement : Value) : Except Fault Value := do
  let bytes ← str .setchar a
  let i ← int .setchar index
  let source ← str .setchar replacement
  match Text.characters source with
  | [] => throw .emptyReplacement
  | char :: _ =>
    let chars := Text.characters bytes
    match place? i chars.length with
    | none => throw (.badIndex .setchar i chars.length)
    | some at_ => return .str (chars.set at_ char).flatten

/-- The result of an instruction with one operand value. -/
def unary (op : Opcode) (a : Value) : Except Fault Value :=
  match op with
  | .move => .ok a
  | .not => negate a
  | .int2char => int2char a
  | .strlen => strlen a
  | _ => .error (.badShape op)

/-- The result of an instruction with two operand values. -/
def binary (op : Opcode) (a b : Value) : Except Fault Value :=
  match op with
  | .add | .sub | .mul | .idiv => arithmetic op a b
  | .lt | .gt => relational op a b
  | .eq => (equals op a b).map .bool
  | .and | .or => logic op a b
  | .concat => concat a b
  | .getchar => getchar a b
  | .stri2int => stri2int a b
  | _ => .error (.badShape op)

/-- The value that a line of input has as one of a kind: nil at the end of the input and for a line
that is no integer literal where one is asked for. -/
def convertInput (kind : Kind) : Option String → Value
  | none => .nil
  | some line =>
    match kind with
    | .int =>
      match Numeral.parse? (Text.trim line) with
      | some n => .int n
      | none => .nil
    | .bool => .bool (Text.asciiLower (Text.trim line) == "true")
    | .string => .str (Utf8.ofString line)
    | .nil => .nil

/-- The status that a value asks for, 0 to 9. -/
def exitCode (a : Value) : Except Fault Nat := do
  let code ← int .exit a
  if 0 ≤ code ∧ code ≤ 9 then return code.toInt.toNat else throw (.badExitCode code)

end ThreeAddress.Operation
