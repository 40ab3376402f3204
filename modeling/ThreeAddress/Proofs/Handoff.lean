import Mathlib
import ThreeAddress.Proofs.Source
import ThreeAddress.Proofs.Trees
import ThreeAddress.Serial.Record

set_option autoImplicit false

namespace ThreeAddress

namespace Json

theorem field_perm {fields others : List (Option String × Json)} (perm : fields.Perm others)
    (name : String) : field fields name = field others name := by
  have same := perm.filter (fun entry => entry.1 == some name)
  unfold field
  generalize fields.filter (fun entry => entry.1 == some name) = found at same ⊢
  generalize others.filter (fun entry => entry.1 == some name) = foundToo at same ⊢
  have count := same.length_eq
  cases found with
  | nil => rw [List.nil_perm.mp same]
  | cons entry more =>
    cases more with
    | nil => rw [List.singleton_perm.mp same]
    | cons second more =>
      cases foundToo with
      | nil => simp at count
      | cons first rest =>
        cases rest with
        | nil => simp at count
        | cons => rfl

theorem field_append {known extra : List (Option String × Json)} {name : String}
    (other : ∀ entry ∈ extra, entry.1 ≠ some name) : field (known ++ extra) name = field known name := by
  have none : extra.filter (fun entry => entry.1 == some name) = [] := by
    rw [List.filter_eq_nil_iff]
    intro entry member
    rw [beq_iff_eq]
    exact other entry member
  rw [field, List.filter_append, none, List.append_nil, field]

/-- An object that holds known fields, in some order, among others whose names are not asked for. -/
def Holds (names : List String) (known : List (String × Json)) (json : Json) : Prop :=
  ∃ fields extra : List (Option String × Json), json = .obj fields ∧
    fields.Perm ((known.map fun field => (some field.1, field.2)) ++ extra) ∧
    ∀ entry ∈ extra, ∃ name, entry.1 = some name ∧ name ∉ names

theorem holds_record (names : List String) (known : List (String × Json)) :
    Holds names known (record known) :=
  ⟨_, [], rfl, by rw [List.append_nil], by simp⟩

/-- What the reader of an object sees does not depend on the order and the other fields. -/
theorem Holds.read {names : List String} {known : List (String × Json)} {json : Json}
    (holds : Holds names known json) :
    ∃ fields, json = .obj fields ∧ hasTextKeys fields = true ∧
      ∀ name ∈ names, field fields name = field (known.map fun field => (some field.1, field.2)) name := by
  obtain ⟨fields, extra, rfl, perm, unknown⟩ := holds
  refine ⟨fields, rfl, ?_, ?_⟩
  · rw [hasTextKeys, List.all_eq_true]
    intro entry member
    rcases List.mem_append.mp (perm.mem_iff.mp member) with listed | added
    · obtain ⟨field, -, rfl⟩ := List.mem_map.mp listed
      rfl
    · obtain ⟨name, key, -⟩ := unknown entry added
      rw [key]
      rfl
  · intro name asked
    rw [field_perm perm, field_append]
    intro entry added same
    obtain ⟨other, key, unasked⟩ := unknown entry added
    rw [key, Option.some.injEq] at same
    rw [same] at unasked
    exact unasked asked

/-- A field that is written, or left out where it may be. -/
def Optional (field : String × Json) (spare : Prop) (written : List (String × Json)) : Prop :=
  written = [field] ∨ spare ∧ written = []

/-- An integer within the bounds is read as what it stands for. -/
theorem intWithin?_int {α : Type} {low high n : Int} {ofInt : Int → α} {value : α} (above : low ≤ n)
    (below : n ≤ high) (back : ofInt n = value) :
    ((int n).intWithin? low high).map ofInt = some value := by
  rw [int, intWithin?, if_pos ⟨above, below⟩, Option.map_some, back]

theorem uint8?_int (n : UInt8) : (int n.toNat).uint8? = some n :=
  intWithin?_int (by omega) (Int.ofNat_le.mpr (Nat.le_of_lt_succ n.toNat_lt)) (by simp)

theorem int64?_int (n : Int64) : (int n.toInt).int64? = some n :=
  intWithin?_int n.minValue_le_toInt n.toInt_le n.ofInt_toInt

theorem uint64?_int (n : UInt64) : (int n.toNat).uint64? = some n :=
  intWithin?_int (by omega) (Int.le_sub_one_of_lt (Int.ofNat_lt.mpr n.toNat_lt_size)) (by simp)

theorem text?_str (text : String) : (str text).text? = some text := rfl

theorem list?_str (texts : List String) : (arr (texts.map str)).list? text? = some texts := by
  apply mapM_of_forall₂
  apply forall₂_map
  intro text member
  exact text?_str text

@[simp] theorem valid_null : null.Valid := .scalar trivial

@[simp] theorem valid_int (n : Int) : (int n).Valid := .scalar trivial

@[simp] theorem valid_str (text : String) : (str text).Valid := .scalar trivial

@[simp] theorem valid_record_iff {fields : List (String × Json)} :
    (record fields).Valid ↔ ∀ field ∈ fields, field.2.Valid := by
  rw [record, valid_obj_iff, List.forall_mem_map]

end Json

open Json (Holds Optional)

/-- A JSON object that says what an argument is. -/
def Argument.Written (arg : Argument) (json : Json) : Prop :=
  ∃ text nested, Optional ("text", .str arg.text) (arg.text = "") text ∧
    Optional ("nested", .arr (arg.nested.map Json.str)) (arg.nested = []) nested ∧
    Holds ["index", "type", "text", "nested"]
      ([("index", .int arg.index.toNat), ("type", .str arg.kind)] ++ text ++ nested) json

theorem Argument.Written.read {arg : Argument} {json : Json} (written : arg.Written json) :
    Argument.ofJson? json = some arg := by
  obtain ⟨text, nested, textual, nesting, holds⟩ := written
  obtain ⟨fields, rfl, keys, look⟩ := holds.read
  have index : Json.field fields "index" = .present (.int arg.index.toNat) := by
    rw [look "index" (by simp)]
    rcases textual with rfl | ⟨-, rfl⟩ <;> rcases nesting with rfl | ⟨-, rfl⟩ <;> rfl
  have kind : Json.field fields "type" = .present (.str arg.kind) := by
    rw [look "type" (by simp)]
    rcases textual with rfl | ⟨-, rfl⟩ <;> rcases nesting with rfl | ⟨-, rfl⟩ <;> rfl
  have content : (Json.field fields "text").orElse "" Json.text? = some arg.text := by
    rw [look "text" (by simp)]
    rcases textual with rfl | ⟨empty, rfl⟩
    · rcases nesting with rfl | ⟨-, rfl⟩ <;> rfl
    · rw [empty]
      rcases nesting with rfl | ⟨-, rfl⟩ <;> rfl
  have inner : (Json.field fields "nested").orElse [] (Json.list? Json.text?) = some arg.nested := by
    rw [look "nested" (by simp)]
    rcases nesting with rfl | ⟨empty, rfl⟩
    · rcases textual with rfl | ⟨-, rfl⟩ <;> exact Json.list?_str arg.nested
    · rw [empty]
      rcases textual with rfl | ⟨-, rfl⟩ <;> rfl
  simp only [Argument.ofJson?, keys, index, kind, content, inner, Json.Field.required, Json.uint8?_int,
    Json.text?_str]
  rfl

theorem Argument.written_toJson (arg : Argument) : arg.Written arg.toJson := by
  refine ⟨[("text", .str arg.text)],
    if arg.nested.isEmpty then [] else [("nested", .arr (arg.nested.map Json.str))], .inl rfl, ?_,
    Json.holds_record _ _⟩
  split
  · rename_i empty
    exact .inr ⟨List.isEmpty_iff.mp empty, rfl⟩
  · exact .inl rfl

theorem Argument.valid_toJson (arg : Argument) : arg.toJson.Valid := by
  rw [Argument.toJson, Json.valid_record_iff, List.forall_mem_append]
  constructor
  · simp
  · split <;> simp

/-- A JSON object that says what a record is. -/
def Record.Written (record : Record) (json : Json) : Prop :=
  ∃ items args, List.Forall₂ Argument.Written record.args items ∧
    Optional ("args", .arr items) (record.args = []) args ∧
    Holds ["order", "opcode", "args"]
      ([("order", .int record.order.toInt), ("opcode", .str record.opcode)] ++ args) json

theorem Record.Written.read {record : Record} {json : Json} (written : record.Written json) :
    Record.ofJson? json = some record := by
  obtain ⟨items, args, each, listed, holds⟩ := written
  obtain ⟨fields, rfl, keys, look⟩ := holds.read
  have order : Json.field fields "order" = .present (.int record.order.toInt) := by
    rw [look "order" (by simp)]
    rcases listed with rfl | ⟨-, rfl⟩ <;> rfl
  have opcode : Json.field fields "opcode" = .present (.str record.opcode) := by
    rw [look "opcode" (by simp)]
    rcases listed with rfl | ⟨-, rfl⟩ <;> rfl
  have arguments : (Json.field fields "args").orElse [] (Json.list? Argument.ofJson?) =
      some record.args := by
    rw [look "args" (by simp)]
    rcases listed with rfl | ⟨empty, rfl⟩
    · exact mapM_of_forall₂ (each.imp fun _ _ written => written.read)
    · rw [empty]
      rfl
  simp only [Record.ofJson?, keys, order, opcode, arguments, Json.Field.required, Json.int64?_int,
    Json.text?_str]
  rfl

theorem Record.written_toJson (record : Record) : record.Written record.toJson := by
  refine ⟨record.args.map Argument.toJson, _, ?_, .inl rfl, Json.holds_record _ _⟩
  apply forall₂_map
  intro arg member
  exact arg.written_toJson

theorem Record.valid_toJson (record : Record) : record.toJson.Valid := by
  simp [Record.toJson, Argument.valid_toJson]

namespace Record

/-- A JSON array that says what records are. -/
def ListWritten (records : List Record) (json : Json) : Prop :=
  ∃ items, json = .arr items ∧ List.Forall₂ Written records items

theorem ListWritten.read {records : List Record} {json : Json} (written : ListWritten records json) :
    listOfJson? json = some records := by
  obtain ⟨items, rfl, each⟩ := written
  exact mapM_of_forall₂ (each.imp fun _ _ written => written.read)

theorem listWritten_listToJson (records : List Record) : ListWritten records (listToJson records) := by
  refine ⟨_, rfl, ?_⟩
  apply forall₂_map
  intro record member
  exact record.written_toJson

theorem valid_listToJson (records : List Record) : (listToJson records).Valid := by
  simp [listToJson, valid_toJson]

/-- A text with the value that says what the records are is read as the records. -/
theorem ListWritten.parse_text {records : List Record} {json : Json} (written : ListWritten records json)
    {text : String} (read : Json.parse? text = some json) :
    parse text = .ok records ∧ Program.parse text = Program.ofRecords records := by
  have parsed : parse text = .ok records := by
    simp only [parse, read, written.read]
  refine ⟨parsed, ?_⟩
  rw [Program.parse, parsed]

/-- Records are handed over by the JSON text that is written for them, and so is the program that they
give. The same holds of every text whose value says what the records are: its fields may stand in another
order, among others, and empty parts may be left out or written out. Every value that is read from a text
can be written as one. -/
theorem handoff_round_trip (records : List Record) :
    (parse (listToJson records).render = .ok records ∧
      Program.parse (listToJson records).render = Program.ofRecords records) ∧
    ∀ json, ListWritten records json →
      (json.Valid → parse json.render = .ok records ∧
        Program.parse json.render = Program.ofRecords records) ∧
      ∀ text, Json.parse? text = some json →
        json.Valid ∧ parse text = .ok records ∧ Program.parse text = Program.ofRecords records := by
  refine ⟨?_, ?_⟩
  · exact (listWritten_listToJson records).parse_text (Json.parse?_render (valid_listToJson records))
  · intro json written
    refine ⟨?_, ?_⟩
    · intro valid
      exact written.parse_text (Json.parse?_render valid)
    · intro text read
      exact ⟨Json.valid_of_parse? read, written.parse_text read⟩

/-- Two records with nothing in their lists, and control characters, quotes and the least order. -/
def quotedNames : List Record :=
  [⟨Int64.minValue, "a\"\\\x01\n\u20ac", []⟩, ⟨7, "write", [⟨255, "string", "", []⟩]⟩]

/-- A value that means nothing to the reader of records. -/
def note : Json :=
  .arr [.scalar (.real "-0.5e3"), .null, .obj [(none, .scalar (.str none))]]

/-- The same records with the fields the other way round, unknown ones among them, and empty parts left
out and written out. -/
def quotedNamesRestyled : Json :=
  .arr
    [.obj [(some "note", note), (some "opcode", .str "a\"\\\x01\n\u20ac"),
        (some "order", .int Int64.minValue.toInt)],
      .obj [(some "args", .arr [.obj [(some "Text", note), (some "nested", .arr []),
          (some "type", .str "string"), (some "index", .int 255)]]),
        (some "opcode", .str "write"), (some "order", .int 7)]]

theorem handoff_round_trip_quotedNames :
    ListWritten quotedNames quotedNamesRestyled ∧ quotedNamesRestyled.Valid ∧
      parse quotedNamesRestyled.render = .ok quotedNames := by
  have literal : Json.Scalar.Valid (.real "-0.5e3") := by cbv
  have half : Json.Scalar.Valid (.str none) := trivial
  have valid : quotedNamesRestyled.Valid := by
    simp [quotedNamesRestyled, note, literal, half]
  have arg : Argument.Written ⟨255, "string", "", []⟩
      (.obj [(some "Text", note), (some "nested", .arr []), (some "type", .str "string"),
        (some "index", .int 255)]) :=
    ⟨[], [("nested", .arr [])], .inr ⟨rfl, rfl⟩, .inl rfl, _, [(some "Text", note)], rfl,
      (List.reverse_perm _).symm, by simp⟩
  have written : ListWritten quotedNames quotedNamesRestyled := by
    refine ⟨_, rfl, .cons ?_ (.cons ?_ .nil)⟩
    · exact ⟨[], [], .nil, .inr ⟨rfl, rfl⟩, _, [(some "note", note)], rfl,
        (List.reverse_perm _).symm, by simp⟩
    · exact ⟨_, _, .cons arg .nil, .inl rfl, _, [], rfl, (List.reverse_perm _).symm, by simp⟩
  exact ⟨written, valid, (((handoff_round_trip quotedNames).2 _ written).1 valid).1⟩

end Record

end ThreeAddress
