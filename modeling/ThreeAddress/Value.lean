import ThreeAddress.Text.Numeral
import ThreeAddress.Text.Utf8

set_option autoImplicit false

namespace ThreeAddress

inductive Kind where
  | int
  | bool
  | string
  | nil
  deriving DecidableEq, Repr

namespace Kind

/-- The name that `type` stores and `read` takes. -/
def name : Kind → String
  | .int => "int"
  | .bool => "bool"
  | .string => "string"
  | .nil => "nil"

def all : List Kind :=
  [.int, .bool, .string, .nil]

/-- The kind of a name, in lower case only. -/
def ofName? (text : String) : Option Kind :=
  all.find? fun kind => kind.name == text

end Kind

/-- A value. `unset` marks a variable that was declared and never written. -/
inductive Value where
  | unset
  | nil
  | int (n : Int64)
  | bool (b : Bool)
  | str (bytes : Bytes)
  deriving DecidableEq, Repr

namespace Value

/-- The kind of a value, none while it is unset. -/
def kind? : Value → Option Kind
  | .unset => none
  | .nil => some .nil
  | .int _ => some .int
  | .bool _ => some .bool
  | .str _ => some .string

/-- The name that `type` stores; empty for an unset variable. -/
def typeName (value : Value) : String :=
  match value.kind? with
  | some kind => kind.name
  | none => ""

def kindName (value : Value) : String :=
  match value.kind? with
  | some kind => kind.name
  | none => "unset"

def isUnset : Value → Bool
  | .unset => true
  | _ => false

def int? : Value → Option Int64
  | .int n => some n
  | _ => none

def bool? : Value → Option Bool
  | .bool b => some b
  | _ => none

def bytes? : Value → Option Bytes
  | .str bytes => some bytes
  | _ => none

def boolText : Bool → String
  | true => "true"
  | false => "false"

/-- The bytes that `write` puts out. -/
def render : Value → Bytes
  | .unset | .nil => []
  | .int n => Utf8.ofString (Numeral.decimal n)
  | .bool b => Utf8.ofString (boolText b)
  | .str bytes => bytes

/-- The value with its kind, to be shown. -/
def display : Value → String
  | .unset => "<unset>"
  | .nil => "nil@nil"
  | .int n => "int@" ++ Numeral.decimal n
  | .bool b => "bool@" ++ boolText b
  | .str bytes => "string@" ++ Utf8.lossy bytes

end Value

end ThreeAddress
