import ThreeAddress.Json.Tree
import ThreeAddress.Program

set_option autoImplicit false

namespace ThreeAddress

namespace Argument

def ofJson? : Json → Option Argument
  | .obj fields => do
    guard (Json.hasTextKeys fields)
    let index ← (Json.field fields "index").required Json.uint8?
    let kind ← (Json.field fields "type").required Json.text?
    let text ← (Json.field fields "text").orElse "" Json.text?
    let nested ← (Json.field fields "nested").orElse [] (Json.list? Json.text?)
    return ⟨index, kind, text, nested⟩
  | .arr [index, kind] => return ⟨← index.uint8?, ← kind.text?, "", []⟩
  | .arr [index, kind, text] => return ⟨← index.uint8?, ← kind.text?, ← text.text?, []⟩
  | .arr [index, kind, text, nested] =>
    return ⟨← index.uint8?, ← kind.text?, ← text.text?, ← nested.list? Json.text?⟩
  | _ => none

/-- Writes an argument. Nested names are left out when there are none. -/
def toJson (arg : Argument) : Json :=
  Json.record
    ([("index", .int arg.index.toNat), ("type", .str arg.kind), ("text", .str arg.text)]
      ++ if arg.nested.isEmpty then [] else [("nested", .arr (arg.nested.map Json.str))])

end Argument

namespace Record

def ofJson? : Json → Option Record
  | .obj fields => do
    guard (Json.hasTextKeys fields)
    let order ← (Json.field fields "order").required Json.int64?
    let opcode ← (Json.field fields "opcode").required Json.text?
    let args ← (Json.field fields "args").orElse [] (Json.list? Argument.ofJson?)
    return ⟨order, opcode, args⟩
  | .arr [order, opcode] => return ⟨← order.int64?, ← opcode.text?, []⟩
  | .arr [order, opcode, args] =>
    return ⟨← order.int64?, ← opcode.text?, ← args.list? Argument.ofJson?⟩
  | _ => none

def toJson (record : Record) : Json :=
  Json.record
    [("order", .int record.order.toInt), ("opcode", .str record.opcode),
      ("args", .arr (record.args.map Argument.toJson))]

def listOfJson? : Json → Option (List Record) :=
  Json.list? ofJson?

def listToJson (records : List Record) : Json :=
  .arr (records.map toJson)

def parse (text : String) : Except Malformed (List Record) :=
  match Json.parse? text with
  | none => .error .notJson
  | some json =>
    match listOfJson? json with
    | none => .error .notRecords
    | some records => .ok records

end Record

/-- Builds a program from the JSON text of its records. -/
def Program.parse (text : String) : Except BuildError Program :=
  match Record.parse text with
  | .error reason => .error (.structural (.malformed reason))
  | .ok records => Program.ofRecords records

end ThreeAddress
