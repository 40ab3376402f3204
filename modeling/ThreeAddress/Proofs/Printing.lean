import ThreeAddress.Operation
import ThreeAddress.Proofs.Layout
import ThreeAddress.Proofs.Literals

set_option autoImplicit false

namespace ThreeAddress

/-- Bytes that a line gives back: a text without a line feed, and with no carriage return at its end. -/
structure Utf8.OneLine (bytes : Bytes) : Prop where
  text : valid bytes = true
  free : 10 ∉ bytes
  plain : bytes.getLast? ≠ some 13

namespace Utf8

/-- Characters that show are written as bytes above those of the blanks. -/
theorem lt_of_mem_ofString {text : String} (visible : ∀ c ∈ text.toList, Text.Visible c) {b : UInt8}
    (member : b ∈ ofString text) : 32 < b.toNat := by
  obtain ⟨c, among, written⟩ := List.mem_flatMap.mp member
  have shown := visible c among
  have high := shown.2
  have spells := encodeChar_spells c
  generalize encodeChar c = bytes at spells written
  cases spells with
  | one bound first =>
    rw [List.mem_singleton.mp written, first]
    exact shown.1
  | two low | three low | four low => omega

theorem oneLine_of_visible {text : String} (visible : ∀ c ∈ text.toList, Text.Visible c) :
    OneLine (ofString text) where
  text := valid_iff.mpr ⟨text.toList, rfl⟩
  free := by
    intro member
    exact absurd (lt_of_mem_ofString visible member) (by decide)
  plain := by
    intro last
    have member := List.mem_of_getLast? last
    exact absurd (lt_of_mem_ofString visible member) (by decide)

end Utf8

namespace Value

/-- A value that a line can show, and its kind: an integer, a truth value, or a string that a line can
hold. -/
inductive Printable : Value → Kind → Prop
  | int (n : Int64) : Printable (.int n) .int
  | bool (b : Bool) : Printable (.bool b) .bool
  | str {bytes : Bytes} (line : Utf8.OneLine bytes) : Printable (.str bytes) .string

variable {value : Value} {kind : Kind}

theorem visible_boolText (b : Bool) : ∀ c ∈ (boolText b).toList, Text.Visible c := by
  have every : ((boolText b).toList.all fun c => decide (Text.Visible c)) = true := by
    cases b <;> rfl
  intro c member
  exact of_decide_eq_true (List.all_eq_true.mp every c member)

theorem Printable.oneLine (printable : value.Printable kind) : Utf8.OneLine value.render := by
  cases printable with
  | int n => exact Utf8.oneLine_of_visible fun c => Numeral.visible_of_mem_decimal
  | bool b => exact Utf8.oneLine_of_visible (visible_boolText b)
  | str line => exact line

/-- A text that is written as a value is printed is taken for that value. -/
theorem Printable.convertInput (printable : value.Printable kind) {text : String}
    (written : Utf8.ofString text = value.render) :
    Operation.convertInput kind (some text) = value := by
  cases printable with
  | int n =>
    have digits : text = Numeral.decimal n := Utf8.ofString_injective written
    have trimmed := Text.trim_of_visible fun c => Numeral.visible_of_mem_decimal (n := n) (c := c)
    simp only [Operation.convertInput, digits, trimmed, Numeral.parse?_decimal]
  | bool b =>
    have word : text = boolText b := Utf8.ofString_injective written
    have trimmed := Text.trim_of_visible (visible_boolText b)
    simp only [Operation.convertInput, word, trimmed]
    cases b <;> rfl
  | str line => exact congrArg Value.str written

end Value

namespace Input

/-- A value on a line of its own. -/
structure Entry where
  value : Value
  kind : Kind
  ending : Ending
  printable : value.Printable kind
  ended : ending ≠ .missing

/-- The printed value, and what ends its line. -/
def Entry.bytes (entry : Entry) : Bytes :=
  entry.value.render ++ entry.ending.bytes

def Entry.line (entry : Entry) : Line where
  chunk := entry.value.render
  ending := entry.ending
  free := entry.printable.oneLine.free
  plain _ := entry.printable.oneLine.plain
  filled missing := absurd missing entry.ended

/-- Reads values one after the other, each of the kind that is asked for. -/
def readValues : List Kind → Input → List (Except Fault Value) × Input
  | [], input => ([], input)
  | kind :: kinds, input =>
    let (line, rest) := input.readLine
    let (values, last) := readValues kinds rest
    (line.map (Operation.convertInput kind) :: values, last)

/-- Reading takes the line of a value off, whatever follows it. -/
theorem readLine_line (line : Line) (ended : line.ending ≠ .missing) (rest : Bytes) :
    readLine (.bytes (line.bytes ++ rest)) = (line.text.map some, .bytes rest) := by
  obtain ⟨lines, laid, rfl⟩ := exists_laid rest
  have laidToo : Laid (line :: lines) :=
    laid_cons.mpr ⟨fun missing => absurd missing ended, laid⟩
  rw [← joined_cons, readLine_joined laidToo, List.head?_cons, Option.map_some, received_bytes]
  rfl

theorem readLine_entry (entry : Entry) (rest : Bytes) :
    ∃ text, readLine (.bytes (entry.bytes ++ rest)) = (.ok (some text), .bytes rest) ∧
      Operation.convertInput entry.kind (some text) = entry.value := by
  have read := readLine_line entry.line entry.ended rest
  rcases entry.line.text_cases with ⟨-, text, came, written⟩ | ⟨invalid, -⟩
  · rw [came] at read
    exact ⟨text, read, entry.printable.convertInput written⟩
  · have valid := entry.printable.oneLine.text
    change Utf8.valid entry.value.render = false at invalid
    rw [valid] at invalid
    cases invalid

theorem readValues_end (kinds : List Kind) :
    readValues kinds (.bytes []) = (kinds.map fun _ => .ok .nil, .bytes []) := by
  induction kinds with
  | nil => rfl
  | cons kind kinds ih =>
    simp only [readValues, readLine, ih]
    rfl

theorem readValues_entries (entries : List Entry) (more : List Kind) (rest : Bytes) :
    readValues (entries.map Entry.kind ++ more) (.bytes (entries.flatMap Entry.bytes ++ rest)) =
      (entries.map (fun entry => .ok entry.value) ++ (readValues more (.bytes rest)).1,
        (readValues more (.bytes rest)).2) := by
  induction entries with
  | nil => rfl
  | cons entry entries ih =>
    obtain ⟨text, read, converted⟩ :=
      readLine_entry entry (entries.flatMap Entry.bytes ++ rest)
    rw [List.map_cons, List.cons_append, List.flatMap_cons, List.append_assoc, readValues, read]
    simp only [ih]
    rw [List.map_cons, List.cons_append, ← converted]
    rfl

/-- What is printed is read back. A line that shows an integer, a truth value or a text that a line can
hold, ended by a line feed or by a carriage return and a line feed, is taken off by one read, which gives
the value if it is asked for its kind. From values that were printed one to a line, reads of their kinds
give the values in their order, and all reads behind them give nil. -/
theorem values_read_back :
    (∀ (entry : Entry) (rest : Bytes), ∃ text,
      readLine (.bytes (entry.bytes ++ rest)) = (.ok (some text), .bytes rest) ∧
        Operation.convertInput entry.kind (some text) = entry.value) ∧
    ∀ (entries : List Entry) (more : List Kind),
      readValues (entries.map Entry.kind ++ more) (.bytes (entries.flatMap Entry.bytes)) =
        (entries.map (fun entry => .ok entry.value) ++ more.map (fun _ => .ok .nil), .bytes []) := by
  refine ⟨readLine_entry, ?_⟩
  intro entries more
  have read := readValues_entries entries more []
  rwa [List.append_nil, readValues_end] at read

/-- The least integer, a string that looks like a number, an empty string and a truth value. -/
def oddEntries : List Entry :=
  [⟨.int Int64.minValue, .int, .returnFeed, .int _, by decide⟩,
    ⟨.str [32, 55, 32], .string, .feed, .str ⟨by decide, by decide, by decide⟩, by decide⟩,
    ⟨.str [], .string, .feed, .str ⟨by decide, by decide, by decide⟩, by decide⟩,
    ⟨.bool false, .bool, .returnFeed, .bool _, by decide⟩]

theorem values_read_back_oddEntries :
    let input : Input := .bytes (Utf8.ofString "-9223372036854775808\r\n 7 \n\nfalse\r\n")
    input = .bytes (oddEntries.flatMap Entry.bytes) ∧
      input.readValues [.int, .string, .string, .bool, .string, .int] =
        ([.ok (.int Int64.minValue), .ok (.str [32, 55, 32]), .ok (.str []), .ok (.bool false),
          .ok .nil, .ok .nil], .bytes []) := by
  intro input
  have printed : input = .bytes (oddEntries.flatMap Entry.bytes) := by decide
  refine ⟨printed, ?_⟩
  rw [printed]
  exact values_read_back.2 oddEntries [.string, .int]

end Input

end ThreeAddress
