import ThreeAddress.Opcode
import ThreeAddress.Text.Escape
import ThreeAddress.Text.Identifier
import ThreeAddress.Value

set_option autoImplicit false

namespace ThreeAddress

/-- The frame a variable lives in: the global one, the newest local one, or the temporary one. -/
inductive Scope where
  | global
  | localTop
  | temporary
  deriving DecidableEq, Repr

namespace Scope

def mark : Scope → String
  | .global => "GF"
  | .localTop => "LF"
  | .temporary => "TF"

def ofMark? (text : String) : Option Scope :=
  let upper := Text.asciiUpper text
  if upper == "GF" then some .global
  else if upper == "LF" then some .localTop
  else if upper == "TF" then some .temporary
  else none

end Scope

/-- A variable: a name in a scope. -/
structure VarRef where
  scope : Scope
  name : String
  deriving DecidableEq, Repr

def VarRef.display (v : VarRef) : String :=
  v.scope.mark ++ "@" ++ v.name

inductive OperandError where
  | unknownKind (kind : String)
  | badVariable (text : String)
  | badFrame (mark : String)
  | badIdentifier (name : String)
  | badInt (text : String)
  | badBool (text : String)
  | badNil (text : String)
  | badType (text : String)
  | badString (fault : Escape.Fault)
  deriving DecidableEq, Repr

def OperandError.message : OperandError → String
  | .unknownKind kind => "unknown operand type '" ++ kind ++ "'"
  | .badVariable text => "malformed variable reference '" ++ text ++ "'"
  | .badFrame mark => "unknown frame '" ++ mark ++ "'"
  | .badIdentifier name => "invalid identifier '" ++ name ++ "'"
  | .badInt text => "invalid int literal '" ++ text ++ "'"
  | .badBool text => "invalid bool literal '" ++ text ++ "'"
  | .badNil text => "invalid nil literal '" ++ text ++ "'"
  | .badType text => "invalid type literal '" ++ text ++ "'"
  | .badString fault => "invalid string literal: " ++ fault.message

/-- Reads a variable: a scope's mark and a name, split at the first `@`. -/
def VarRef.parse (text : String) : Except OperandError VarRef :=
  match text.toList.span (· != '@') with
  | (_, []) => .error (.badVariable text)
  | (mark, _ :: name) =>
    match Scope.ofMark? (String.ofList mark) with
    | none => .error (.badFrame (String.ofList mark))
    | some scope =>
      if Text.isName name then .ok ⟨scope, String.ofList name⟩
      else .error (.badIdentifier (String.ofList name))

/-- An operand of an instruction. -/
inductive Operand where
  | var (v : VarRef)
  | int (n : Int64)
  | bool (b : Bool)
  | str (bytes : Bytes)
  | nil
  | kind (k : Kind)
  | label (name : String)
  deriving DecidableEq, Repr

namespace Operand

def parse (kind text : String) : Except OperandError Operand :=
  match kind with
  | "var" => (VarRef.parse text).map .var
  | "int" =>
    match Numeral.parse? text with
    | some n => .ok (.int n)
    | none => .error (.badInt text)
  | "bool" =>
    match text with
    | "true" => .ok (.bool true)
    | "false" => .ok (.bool false)
    | _ => .error (.badBool text)
  | "string" =>
    match Escape.decode text with
    | .ok bytes => .ok (.str bytes)
    | .error fault => .error (.badString fault)
  | "nil" => if text = "nil" then .ok .nil else .error (.badNil text)
  | "type" =>
    match text with
    | "int" => .ok (.kind .int)
    | "bool" => .ok (.kind .bool)
    | "string" => .ok (.kind .string)
    | _ => .error (.badType text)
  | "label" => if Text.isIdentifier text then .ok (.label text) else .error (.badIdentifier text)
  | _ => .error (.unknownKind kind)

def fits (slot : Slot) : Operand → Bool
  | .var _ => slot == .var || slot == .symb
  | .int _ | .bool _ | .str _ | .nil => slot == .symb
  | .kind _ => slot == .kind
  | .label _ => slot == .label

def literal? : Operand → Option Value
  | .int n => some (.int n)
  | .bool b => some (.bool b)
  | .str bytes => some (.str bytes)
  | .nil => some .nil
  | .var _ | .kind _ | .label _ => none

def label? : Operand → Option String
  | .label name => some name
  | _ => none

def var? : Operand → Option VarRef
  | .var v => some v
  | _ => none

def display : Operand → String
  | .var v => v.display
  | .int n => "int@" ++ Numeral.decimal n
  | .bool b => "bool@" ++ Value.boolText b
  | .str bytes => "string@" ++ Escape.encode bytes
  | .nil => "nil@nil"
  | .kind k => "type@" ++ k.name
  | .label name => "label@" ++ name

end Operand

end ThreeAddress
