import ThreeAddress.Instruction
import ThreeAddress.Json.Tree

set_option autoImplicit false

/- The form in which instructions and values are stored: a choice is a name, or an object with one
field that is named for the choice; a structure is an object, or the list of its fields. -/
namespace ThreeAddress

namespace Json

/-- Reads a choice that carries nothing: its name, or its name with null. -/
def choice? : Json → Option String
  | .scalar (.str text) => text
  | .obj [(key, .scalar .null)] => key
  | _ => none

def tagged (name : String) (json : Json) : Json :=
  record [(name, json)]

def bytes? : Json → Option (List UInt8) :=
  list? uint8?

def ofBytes (bytes : List UInt8) : Json :=
  .arr (bytes.map fun b => int b.toNat)

end Json

namespace Kind

def ofJson? (json : Json) : Option Kind :=
  json.choice?.bind ofName?

def toJson (kind : Kind) : Json :=
  .str kind.name

end Kind

namespace Opcode

/-- Reads the name of an operation, in lower case only. -/
def ofJson? (json : Json) : Option Opcode :=
  json.choice?.bind ofExactName?

def toJson (op : Opcode) : Json :=
  .str op.name

end Opcode

namespace Scope

def storedName : Scope → String
  | .global => "Global"
  | .localTop => "Local"
  | .temporary => "Temporary"

def ofJson? (json : Json) : Option Scope :=
  json.choice?.bind fun text =>
    [Scope.global, .localTop, .temporary].find? fun scope => scope.storedName == text

def toJson (scope : Scope) : Json :=
  .str scope.storedName

end Scope

namespace VarRef

def ofJson? : Json → Option VarRef
  | .obj fields => do
    guard (Json.hasTextKeys fields)
    let scope ← (Json.field fields "frame").required Scope.ofJson?
    let name ← (Json.field fields "name").required Json.text?
    return ⟨scope, name⟩
  | .arr [scope, name] => return ⟨← Scope.ofJson? scope, ← name.text?⟩
  | _ => none

def toJson (v : VarRef) : Json :=
  Json.record [("frame", v.scope.toJson), ("name", .str v.name)]

end VarRef

namespace Operand

def ofJson? : Json → Option Operand
  | .scalar (.str (some "Nil")) => some .nil
  | .obj [(some "Nil", .scalar .null)] => some .nil
  | .obj [(some "Var", json)] => (VarRef.ofJson? json).map .var
  | .obj [(some "Int", json)] => json.int64?.map .int
  | .obj [(some "Bool", json)] => json.bool?.map .bool
  | .obj [(some "Str", json)] => json.bytes?.map .str
  | .obj [(some "Type", json)] => (Kind.ofJson? json).map .kind
  | .obj [(some "Label", json)] => json.text?.map .label
  | _ => none

def toJson : Operand → Json
  | .var v => .tagged "Var" v.toJson
  | .int n => .tagged "Int" (.int n.toInt)
  | .bool b => .tagged "Bool" (.bool b)
  | .str bytes => .tagged "Str" (.ofBytes bytes)
  | .nil => .str "Nil"
  | .kind k => .tagged "Type" k.toJson
  | .label name => .tagged "Label" (.str name)

end Operand

namespace Instruction

def ofJson? : Json → Option Instruction
  | .obj fields => do
    guard (Json.hasTextKeys fields)
    let order ← (Json.field fields "order").required Json.uint64?
    let op ← (Json.field fields "op").required Opcode.ofJson?
    let operands ← (Json.field fields "operands").required (Json.list? Operand.ofJson?)
    return ⟨order, op, operands⟩
  | .arr [order, op, operands] =>
    return ⟨← order.uint64?, ← Opcode.ofJson? op, ← operands.list? Operand.ofJson?⟩
  | _ => none

def toJson (ins : Instruction) : Json :=
  Json.record
    [("order", .int ins.order.toNat), ("op", ins.op.toJson),
      ("operands", .arr (ins.operands.map Operand.toJson))]

end Instruction

namespace Value

def ofJson? : Json → Option Value
  | .scalar (.str (some "Unset")) => some .unset
  | .scalar (.str (some "Nil")) => some .nil
  | .obj [(some "Unset", .scalar .null)] => some .unset
  | .obj [(some "Nil", .scalar .null)] => some .nil
  | .obj [(some "Int", json)] => json.int64?.map .int
  | .obj [(some "Bool", json)] => json.bool?.map .bool
  | .obj [(some "Str", json)] => json.bytes?.map .str
  | _ => none

def toJson : Value → Json
  | .unset => .str "Unset"
  | .nil => .str "Nil"
  | .int n => .tagged "Int" (.int n.toInt)
  | .bool b => .tagged "Bool" (.bool b)
  | .str bytes => .tagged "Str" (.ofBytes bytes)

end Value

end ThreeAddress
