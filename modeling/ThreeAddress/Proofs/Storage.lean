import Mathlib
import ThreeAddress.Proofs.Handoff
import ThreeAddress.Serial.Instruction

set_option autoImplicit false

namespace ThreeAddress

namespace Json

/-- A JSON value with the fields of a structure: the list of their values, or an object that holds them
in some order among others. -/
def Stores (fields : List (String × Json)) (json : Json) : Prop :=
  json = .arr (fields.map Prod.snd) ∨ Holds (fields.map Prod.fst) fields json

theorem stores_record (fields : List (String × Json)) : Stores fields (record fields) :=
  Or.inr (holds_record _ fields)

theorem bytes?_ofBytes (bytes : List UInt8) : (ofBytes bytes).bytes? = some bytes := by
  apply mapM_of_forall₂
  apply forall₂_map
  intro b member
  exact uint8?_int b

@[simp] theorem valid_bool (b : Bool) : (bool b).Valid := .scalar trivial

@[simp] theorem valid_ofBytes (bytes : List UInt8) : (ofBytes bytes).Valid := by
  simp [ofBytes]

@[simp] theorem valid_tagged_iff {name : String} {json : Json} : (tagged name json).Valid ↔ json.Valid := by
  simp [tagged]

end Json

open Json (Stores)

theorem Kind.ofJson?_toJson (kind : Kind) : Kind.ofJson? kind.toJson = some kind := by
  cases kind <;> rfl

theorem Opcode.ofJson?_toJson (op : Opcode) : Opcode.ofJson? op.toJson = some op := by
  have named : Opcode.ofName? op.name = some op := Opcode.ofName?_eq_some_iff.mpr rfl
  rw [Opcode.ofName?, Opcode.lower_name] at named
  exact named

theorem Scope.ofJson?_toJson (scope : Scope) : Scope.ofJson? scope.toJson = some scope := by
  cases scope <;> rfl

/-- A JSON value that says what a variable is. -/
def VarRef.Written (v : VarRef) (json : Json) : Prop :=
  Stores [("frame", v.scope.toJson), ("name", .str v.name)] json

theorem VarRef.Written.read {v : VarRef} {json : Json} (written : v.Written json) :
    VarRef.ofJson? json = some v := by
  rcases written with rfl | holds
  · simp only [List.map_cons, List.map_nil, VarRef.ofJson?, Scope.ofJson?_toJson, Json.text?_str]
    rfl
  · obtain ⟨fields, rfl, keys, look⟩ := holds.read
    have scope : Json.field fields "frame" = .present v.scope.toJson := look "frame" (by simp)
    have name : Json.field fields "name" = .present (.str v.name) := look "name" (by simp)
    simp only [VarRef.ofJson?, keys, scope, name, Json.Field.required, Scope.ofJson?_toJson,
      Json.text?_str]
    rfl

/-- A JSON value that says what an operand is. -/
def Operand.Written : Operand → Json → Prop
  | .var v, json => ∃ inner, v.Written inner ∧ json = .tagged "Var" inner
  | operand, json => json = operand.toJson

theorem Operand.Written.read {operand : Operand} {json : Json} (written : operand.Written json) :
    Operand.ofJson? json = some operand := by
  cases operand with
  | var v =>
    obtain ⟨inner, writtenVar, rfl⟩ := written
    show (VarRef.ofJson? inner).map Operand.var = some (.var v)
    rw [writtenVar.read]
    rfl
  | int n =>
    cases written
    show (Json.int n.toInt).int64?.map Operand.int = some (.int n)
    rw [Json.int64?_int]
    rfl
  | bool b =>
    cases written
    rfl
  | str bytes =>
    cases written
    show (Json.ofBytes bytes).bytes?.map Operand.str = some (.str bytes)
    rw [Json.bytes?_ofBytes]
    rfl
  | nil =>
    cases written
    rfl
  | kind k =>
    cases written
    show (Kind.ofJson? k.toJson).map Operand.kind = some (.kind k)
    rw [Kind.ofJson?_toJson]
    rfl
  | label name =>
    cases written
    rfl

theorem Operand.written_toJson (operand : Operand) : operand.Written operand.toJson := by
  cases operand with
  | var v => exact ⟨v.toJson, Json.stores_record _, rfl⟩
  | _ => rfl

theorem Operand.valid_toJson (operand : Operand) : operand.toJson.Valid := by
  cases operand <;> simp [Operand.toJson, VarRef.toJson, Scope.toJson, Kind.toJson]

/-- A JSON value that says what an instruction is. -/
def Instruction.Written (ins : Instruction) (json : Json) : Prop :=
  ∃ items, List.Forall₂ Operand.Written ins.operands items ∧
    Stores [("order", .int ins.order.toNat), ("op", ins.op.toJson), ("operands", .arr items)] json

theorem Instruction.Written.read {ins : Instruction} {json : Json} (written : ins.Written json) :
    Instruction.ofJson? json = some ins := by
  obtain ⟨items, each, stores⟩ := written
  have operands : (Json.arr items).list? Operand.ofJson? = some ins.operands :=
    mapM_of_forall₂ (each.imp fun _ _ written => written.read)
  rcases stores with rfl | holds
  · simp only [List.map_cons, List.map_nil, Instruction.ofJson?, Json.uint64?_int, Opcode.ofJson?_toJson,
      operands]
    rfl
  · obtain ⟨fields, rfl, keys, look⟩ := holds.read
    have order : Json.field fields "order" = .present (.int ins.order.toNat) := look "order" (by simp)
    have op : Json.field fields "op" = .present ins.op.toJson := look "op" (by simp)
    have listed : Json.field fields "operands" = .present (.arr items) := look "operands" (by simp)
    simp only [Instruction.ofJson?, keys, order, op, listed, Json.Field.required, Json.uint64?_int,
      Opcode.ofJson?_toJson, operands]
    rfl

theorem Instruction.written_toJson (ins : Instruction) : ins.Written ins.toJson := by
  refine ⟨ins.operands.map Operand.toJson, ?_, Json.stores_record _⟩
  apply forall₂_map
  intro operand member
  exact operand.written_toJson

theorem Instruction.valid_toJson (ins : Instruction) : ins.toJson.Valid := by
  simp [Instruction.toJson, Opcode.toJson, Operand.valid_toJson]

theorem Value.ofJson?_toJson (value : Value) : Value.ofJson? value.toJson = some value := by
  cases value with
  | unset => rfl
  | nil => rfl
  | int n =>
    show (Json.int n.toInt).int64?.map Value.int = some (.int n)
    rw [Json.int64?_int]
    rfl
  | bool b => rfl
  | str bytes =>
    show (Json.ofBytes bytes).bytes?.map Value.str = some (.str bytes)
    rw [Json.bytes?_ofBytes]
    rfl

theorem Value.valid_toJson (value : Value) : value.toJson.Valid := by
  cases value <;> simp [Value.toJson]

/-- A reader that reads a value reads the text of the value. -/
theorem Json.read_render {α : Type} {read : Json → Option α} {json : Json} {a : α} (valid : json.Valid)
    (same : read json = some a) : (parse? json.render).bind read = some a := by
  rw [parse?_render valid]
  exact same

/-- What is read back from its text is not written like anything else. -/
theorem Json.render_injective {α : Type} {read : Json → Option α} {write : α → Json}
    (back : ∀ a, (parse? (write a).render).bind read = some a) :
    Function.Injective fun a => (write a).render := by
  intro a b same
  have first := back a
  rw [show (write a).render = (write b).render from same, back b] at first
  exact (Option.some.inj first).symm

theorem Instruction.read_render (ins : Instruction) :
    (Json.parse? ins.toJson.render).bind Instruction.ofJson? = some ins :=
  Json.read_render ins.valid_toJson ins.written_toJson.read

theorem Value.read_render (value : Value) :
    (Json.parse? value.toJson.render).bind Value.ofJson? = some value :=
  Json.read_render value.valid_toJson value.ofJson?_toJson

/-- Instructions and values are read back from the texts that are written for them, and no two have the
same text. An instruction is read as well from every value that says what it is, and from its text: it and
its variables may be stored as lists of their fields, or with their fields in another order and among
others. -/
theorem stored_round_trip :
    (∀ ins : Instruction, (Json.parse? ins.toJson.render).bind Instruction.ofJson? = some ins) ∧
      (∀ value : Value, (Json.parse? value.toJson.render).bind Value.ofJson? = some value) ∧
      (Function.Injective fun ins : Instruction => ins.toJson.render) ∧
      (Function.Injective fun value : Value => value.toJson.render) ∧
      ∀ (ins : Instruction) (json : Json), ins.Written json →
        Instruction.ofJson? json = some ins ∧
          (json.Valid → (Json.parse? json.render).bind Instruction.ofJson? = some ins) := by
  refine ⟨Instruction.read_render, Value.read_render, Json.render_injective Instruction.read_render,
    Json.render_injective Value.read_render, ?_⟩
  intro ins json written
  refine ⟨written.read, ?_⟩
  intro valid
  exact Json.read_render valid written.read

/-- An instruction with the greatest order and operands of several kinds. -/
def oddOperands : Instruction :=
  ⟨18446744073709551615, .concat, [.var ⟨.temporary, "\"\n"⟩, .str [0, 255], .nil, .kind .nil, .label ""]⟩

/-- The same with the fields the other way round and one that is unknown, and with the variable as a
list. -/
def oddOperandsRestyled : Json :=
  .obj
    [(some "Order", .null),
      (some "operands", .arr
        [.tagged "Var" (.arr [.str "Temporary", .str "\"\n"]), .tagged "Str" (.arr [.int 0, .int 255]),
          .str "Nil", .tagged "Type" (.str "nil"), .tagged "Label" (.str "")]),
      (some "op", .str "concat"), (some "order", .int 18446744073709551615)]

theorem stored_round_trip_oddOperands :
    oddOperands.Written oddOperandsRestyled ∧ oddOperandsRestyled.Valid ∧
      (Json.parse? oddOperandsRestyled.render).bind Instruction.ofJson? = some oddOperands := by
  have valid : oddOperandsRestyled.Valid := by
    simp [oddOperandsRestyled]
  have written : oddOperands.Written oddOperandsRestyled := by
    refine ⟨_, .cons ⟨_, Or.inl rfl, rfl⟩ (.cons rfl (.cons rfl (.cons rfl (.cons rfl .nil)))), Or.inr ?_⟩
    exact ⟨_, [(some "Order", .null)], rfl, (List.reverse_perm _).symm, by simp⟩
  exact ⟨written, valid, (stored_round_trip.2.2.2.2 oddOperands _ written).2 valid⟩

end ThreeAddress
