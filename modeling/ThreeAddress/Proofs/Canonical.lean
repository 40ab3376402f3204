import ThreeAddress.Proofs.Escapes
import ThreeAddress.Proofs.Source
import ThreeAddress.Proofs.Texts

set_option autoImplicit false

namespace ThreeAddress

namespace Escape

/-- A part that is written as `encode` writes it: the byte stands for itself if it can be shown and is no
mark of a comment, and only a byte that cannot, or is such a mark or a backslash, is escaped. -/
def Part.Canonical : Part → Prop
  | .plain b _ => 33 ≤ b.toNat ∧ b.toNat ≤ 126 ∧ b.toNat ≠ 35
  | .escape x y z _ _ =>
    digitsValue x y z ≤ 32 ∨ digitsValue x y z = 35 ∨ digitsValue x y z = 92 ∨
      127 ≤ digitsValue x y z

/-- A literal whose parts are all canonical. -/
def Canonical (text : String) : Prop :=
  ∃ parts, Utf8.ofString text = spelled parts ∧ ∀ part ∈ parts, part.Canonical

theorem encodeChar_digitChar {b : UInt8} (digit : IsDigit b) :
    Utf8.encodeChar (b.toNat - 48).digitChar = [b] := by
  have low := digit.1
  have high := digit.2
  have table : ∀ n < 10, Utf8.encodeChar n.digitChar = [UInt8.ofNat (48 + n)] := by decide
  rw [table (b.toNat - 48) (by omega), Nat.add_sub_cancel' low, UInt8.ofNat_toNat]

/-- A canonical part is spelled as its byte is written. -/
theorem Part.Canonical.spelling_eq {part : Part} (canonical : part.Canonical) :
    part.spelling = Utf8.encode (encodeByte part.byte) := by
  cases part with
  | plain b other =>
    obtain ⟨low, high, unmarked⟩ := canonical
    have apart : b.toNat ≠ 92 := by
      intro same
      exact other (UInt8.toNat_inj.mp same)
    have plain : isPlain b = true := isPlain_iff.mpr (by omega)
    simp only [Part.spelling, Part.byte, encodeByte, plain, ↓reduceIte, Utf8.encode_cons,
      Utf8.encode_nil, encodeChar_ascii (show b.toNat < 128 by omega), List.append_nil]
  | escape x y z digits byte =>
    obtain ⟨digitX, digitY, digitZ⟩ := digits
    have highX := digitX.2
    have highY := digitY.2
    have highZ := digitZ.2
    have value : (UInt8.ofNat (digitsValue x y z)).toNat = digitsValue x y z := by
      rw [UInt8.toNat_ofNat']
      omega
    have escaped : ¬ isPlain (UInt8.ofNat (digitsValue x y z)) = true := by
      rw [isPlain_iff, value]
      simp only [Part.Canonical] at canonical
      omega
    have hundreds : digitsValue x y z / 100 = x.toNat - 48 := by
      unfold digitsValue
      omega
    have tens : digitsValue x y z / 10 % 10 = y.toNat - 48 := by
      unfold digitsValue
      omega
    have ones : digitsValue x y z % 10 = z.toNat - 48 := by
      unfold digitsValue
      omega
    have written : encodeByte (UInt8.ofNat (digitsValue x y z)) =
        ['\\', (x.toNat - 48).digitChar, (y.toNat - 48).digitChar, (z.toNat - 48).digitChar] := by
      simp only [encodeByte, escaped, Bool.false_eq_true, ↓reduceIte, value, hundreds, tens, ones]
    rw [Part.byte, written, Utf8.encode_cons, Utf8.encode_cons, Utf8.encode_cons, Utf8.encode_cons,
      encodeChar_digitChar digitX, encodeChar_digitChar digitY, encodeChar_digitChar digitZ]
    rfl

/-- Every byte has a canonical part. -/
theorem exists_canonical_part (b : UInt8) : ∃ part : Part, part.Canonical ∧ part.byte = b := by
  by_cases plain : isPlain b = true
  · have range := isPlain_iff.mp plain
    have other : b ≠ backslash := by
      rintro rfl
      exact range.2.2.2 rfl
    refine ⟨.plain b other, ?_, rfl⟩
    simp only [Part.Canonical]
    omega
  · have byte := b.toNat_lt
    have digit (n : Nat) (below : n < 10) :
        IsDigit (UInt8.ofNat (48 + n)) ∧ (UInt8.ofNat (48 + n)).toNat - 48 = n := by
      rw [IsDigit, UInt8.toNat_ofNat']
      omega
    obtain ⟨digitX, hundreds⟩ := digit (b.toNat / 100) (by omega)
    obtain ⟨digitY, tens⟩ := digit (b.toNat / 10 % 10) (by omega)
    obtain ⟨digitZ, ones⟩ := digit (b.toNat % 10) (by omega)
    have value : digitsValue (UInt8.ofNat (48 + b.toNat / 100))
        (UInt8.ofNat (48 + b.toNat / 10 % 10)) (UInt8.ofNat (48 + b.toNat % 10)) = b.toNat := by
      rw [digitsValue, hundreds, tens, ones]
      omega
    refine ⟨.escape _ _ _ ⟨digitX, digitY, digitZ⟩ (by omega), ?_, ?_⟩
    · rw [isPlain_iff] at plain
      simp only [Part.Canonical, value]
      omega
    · rw [Part.byte, value, UInt8.ofNat_toNat]

theorem spelled_of_canonical {parts : List Part} (canonical : ∀ part ∈ parts, part.Canonical) :
    spelled parts = Utf8.ofString (encode (parts.map Part.byte)) := by
  rw [Utf8.ofString, encode, String.toList_ofList]
  induction parts with
  | nil => rfl
  | cons part parts ih =>
    rw [List.forall_mem_cons] at canonical
    rw [spelled_cons, canonical.1.spelling_eq, ih canonical.2, List.map_cons, List.flatMap_cons,
      Utf8.encode_append]

theorem exists_canonical_parts (bytes : Bytes) :
    ∃ parts : List Part, (∀ part ∈ parts, part.Canonical) ∧ parts.map Part.byte = bytes := by
  induction bytes with
  | nil => exact ⟨[], nofun, rfl⟩
  | cons b bytes ih =>
    obtain ⟨part, canonical, byte⟩ := exists_canonical_part b
    obtain ⟨parts, others, values⟩ := ih
    exact ⟨part :: parts, List.forall_mem_cons.mpr ⟨canonical, others⟩,
      by rw [List.map_cons, byte, values]⟩

theorem canonical_encode (bytes : Bytes) : Canonical (encode bytes) := by
  obtain ⟨parts, canonical, rfl⟩ := exists_canonical_parts bytes
  exact ⟨parts, (spelled_of_canonical canonical).symm, canonical⟩

/-- Escaping is undone by the reading of literals, for every byte string. -/
theorem decode_encode (bytes : Bytes) : decode (encode bytes) = .ok bytes := by
  obtain ⟨parts, canonical, rfl⟩ := exists_canonical_parts bytes
  exact decode_of_spelled (spelled_of_canonical canonical).symm

/-- A canonical literal is the one that is written for its bytes. -/
theorem Canonical.eq_encode {text : String} (canonical : Canonical text) :
    ∃ bytes, text = encode bytes := by
  obtain ⟨parts, spelling, each⟩ := canonical
  refine ⟨parts.map Part.byte, Utf8.ofString_injective ?_⟩
  rw [spelling, spelled_of_canonical each]

theorem encode_eq_iff_canonical {text : String} {bytes : Bytes} (read : decode text = .ok bytes) :
    encode bytes = text ↔ Canonical text := by
  constructor
  · rintro rfl
    exact canonical_encode bytes
  · intro canonical
    obtain ⟨others, rfl⟩ := canonical.eq_encode
    rw [decode_encode] at read
    rw [Except.ok.inj read]

theorem digitChar_ne_mark {n : Nat} (below : n < 10) : n.digitChar ≠ '#' := by
  revert n
  decide

theorem ne_mark_of_mem_encode {bytes : Bytes} {c : Char} (member : c ∈ (encode bytes).toList) :
    c ≠ '#' := by
  rw [encode, String.toList_ofList, List.mem_flatMap] at member
  obtain ⟨b, -, written⟩ := member
  by_cases plain : isPlain b = true
  · have range := isPlain_iff.mp plain
    have valid : b.toNat.isValidChar := by left; omega
    rw [encodeByte, if_pos plain, List.mem_singleton] at written
    rw [written]
    intro same
    have code := congrArg Char.toNat same
    rw [Char.toNat_ofNat, if_pos valid] at code
    exact range.2.2.1 code
  · have byte : b.toNat < 256 := b.toNat_lt
    simp only [encodeByte, plain, Bool.false_eq_true, ↓reduceIte, List.mem_cons, List.not_mem_nil,
      or_false] at written
    rcases written with rfl | rfl | rfl | rfl
    · decide
    · exact digitChar_ne_mark (by omega)
    · exact digitChar_ne_mark (by omega)
    · exact digitChar_ne_mark (by omega)

end Escape

/-- A record that writes a literal for a byte string. -/
def Record.writing (order : Int64) (bytes : Bytes) : Record :=
  ⟨order, "write", [⟨1, "string", Escape.encode bytes, []⟩]⟩

/-- The sink has room for so many bytes. -/
def Sink.Takes (sink : Sink) (bytes : Bytes) : Prop :=
  ∀ room, sink.room = some room → bytes.length ≤ room

theorem Sink.Takes.write_ok {sink : Sink} {bytes : Bytes} (takes : sink.Takes bytes) :
    (sink.write bytes).1 = .ok () := by
  cases limited : sink.room with
  | none => simp only [Sink.write, limited]
  | some room => simp only [Sink.write, limited, takes room limited, ↓reduceIte]

namespace Record

theorem lower_writing (order : Int64) (bytes : Bytes) :
    (writing order bytes).lower = .ok ⟨order.toUInt64, .write, [.str bytes]⟩ := by
  have names : (writing order bytes).Names .write := by
    show Text.asciiLower (Text.trim "write") = Text.asciiLower "write"
    cbv
  have kind : Text.trim "string" = "string" := by cbv
  have text : Text.trim (Escape.encode bytes) = Escape.encode bytes :=
    Text.trim_of_visible fun c => Escape.visible_of_mem_encode
  have operand : Argument.operand ⟨1, "string", Escape.encode bytes, []⟩ = .ok (.str bytes) := by
    simp only [Argument.operand, kind, text, Operand.parse, Escape.decode_encode]
  refine (lower_ok_iff _ _).mpr ⟨names, ?_, rfl⟩
  simp only [sortedArgs, writing, List.mergeSort_singleton, operands, operand]
  rfl

theorem checkShape_writing {order : Int64} (nonnegative : 0 ≤ order.toInt) (bytes : Bytes) :
    (writing order bytes).checkShape = .ok () := by
  refine (checkShape_ok_iff _).mpr ⟨nonnegative, ?_, ?_, ?_⟩
  · intro arg member name nested
    rw [List.mem_singleton.mp member] at nested
    cases nested
  · exact Nat.le_of_ble_eq_true rfl
  · exact .refl _

end Record

namespace Program

/-- The record alone is a program. -/
theorem exists_ofRecords_writing {order : Int64} (nonnegative : 0 ≤ order.toInt) (bytes : Bytes) :
    ∃ program, ofRecords [Record.writing order bytes] = .ok program := by
  have reads := (Record.reads_iff _ _).mp
    ⟨Record.checkShape_writing nonnegative bytes, Record.lower_writing order bytes⟩
  have built : ∃ program, build [⟨order.toUInt64, .write, [.str bytes]⟩] = .ok program := by
    rw [exists_build_iff]
    simp [Instruction.wellFormed_iff_forall₂, Instruction.definedLabel?, Instruction.targetLabel?,
      Opcode.targetsLabel, Opcode.signature, Operand.fits]
  obtain ⟨program, built⟩ := built
  exact ⟨program, (ofRecords_ok_iff _ _).mpr ⟨_, .cons reads .nil, built⟩⟩

/-- A program that has the record has its instruction. -/
theorem exists_get?_writing {records : List Record} {program : Program} {order : Int64}
    {bytes : Bytes} (read : ofRecords records = .ok program)
    (member : Record.writing order bytes ∈ records) :
    ∃ index, program.get? index = some ⟨order.toUInt64, .write, [.str bytes]⟩ := by
  obtain ⟨instructions, denoted, built⟩ := (ofRecords_ok_iff records program).mp read
  have lowered : (∃ record ∈ records, record.lower = .ok ⟨order.toUInt64, .write, [.str bytes]⟩) ↔
      ∃ ins ∈ instructions, ins = ⟨order.toUInt64, .write, [.str bytes]⟩ := by
    refine exists_mem_iff ?_ denoted
    intro record ins denotes
    rw [((Record.reads_iff record ins).mpr denotes).2, Except.ok.injEq]
  obtain ⟨_, among, rfl⟩ := lowered.mp ⟨_, member, Record.lower_writing order bytes⟩
  obtain ⟨-, -, -, -, sorted⟩ := (build_ok_iff instructions program).mp built
  rw [← mem_iff_get?, sorted]
  exact (sortInstructions_perm instructions).mem_iff.mpr among

end Program

/-- An instruction that writes a constant string puts out its bytes. -/
theorem Machine.Executes.step_write {program : Program} {limit : Option Nat} {m : Machine}
    {order : UInt64} {bytes : Bytes} (executes : m.Executes program limit ⟨order, .write, [.str bytes]⟩)
    (takes : m.output.Takes bytes) :
    m.step program limit =
      (.done .advance, { m with
        position := m.position + 1
        steps := m.steps + 1
        output := (m.output.write bytes).2 }) := by
  have wrote : Machine.execute program ⟨order, .write, [.str bytes]⟩ m.counted =
      (.ok .advance, { m.counted with output := (m.output.write bytes).2 }) := by
    show ((m.output.write bytes).1.map fun () => Outcome.advance, _) = _
    rw [takes.write_ok]
    rfl
  exact executes.step_ok wrote

/-- Byte strings and literals. What is written for a byte string is read back, is made of characters that
show and of no mark of a comment, so that nothing is trimmed off it, and a program that writes it puts
out just the bytes. Conversely, a literal that is read is what is written for its bytes exactly if it is
canonical. -/
theorem literal_round_trip :
    (∀ bytes : Bytes,
      Escape.decode (Escape.encode bytes) = .ok bytes ∧
      (∀ c ∈ (Escape.encode bytes).toList, 33 ≤ c.toNat ∧ c.toNat ≤ 126 ∧ c ≠ '#') ∧
      Text.trim (Escape.encode bytes) = Escape.encode bytes ∧
      ∀ order : Int64,
        (0 ≤ order.toInt → ∃ program, Program.ofRecords [Record.writing order bytes] = .ok program) ∧
        ∀ records program, Program.ofRecords records = .ok program →
          Record.writing order bytes ∈ records →
          ∃ index, program.get? index = some ⟨order.toUInt64, .write, [.str bytes]⟩ ∧
            ∀ (limit : Option Nat) (m : Machine), m.position = index →
              m.isFinished program = false → m.limitReached? limit = none → m.output.Takes bytes →
              (m.step program limit).1 = .done .advance ∧
                (m.step program limit).2.output.written = m.output.written ++ bytes) ∧
      ∀ text bytes, Escape.decode text = .ok bytes →
        (Escape.encode bytes = text ↔ Escape.Canonical text) := by
  refine ⟨?_, fun text bytes => Escape.encode_eq_iff_canonical⟩
  intro bytes
  have visible : ∀ c ∈ (Escape.encode bytes).toList, Text.Visible c :=
    fun c => Escape.visible_of_mem_encode
  refine ⟨Escape.decode_encode bytes, ?_, Text.trim_of_visible visible, ?_⟩
  · intro c member
    have low := (visible c member).1
    have high := (visible c member).2
    exact ⟨by omega, by omega, Escape.ne_mark_of_mem_encode member⟩
  · intro order
    refine ⟨fun nonnegative => Program.exists_ofRecords_writing nonnegative bytes, ?_⟩
    intro records program read member
    obtain ⟨index, here⟩ := Program.exists_get?_writing read member
    refine ⟨index, here, ?_⟩
    rintro limit m rfl running allowed takes
    have executes : m.Executes program limit ⟨order.toUInt64, .write, [.str bytes]⟩ :=
      ⟨running, allowed, here⟩
    rw [executes.step_write takes]
    exact ⟨rfl, (Sink.write_ok takes.write_ok).1⟩

/-- A blank in front of a digit, which then stands behind the digits of an escape. A digit that is escaped
without need is read, and is written in another way. -/
theorem literal_round_trip_blankDigit :
    let bytes : Bytes := [32, 49, 35, 255]
    let program : Program := ⟨#[⟨1, .write, [.str bytes]⟩], by decide⟩
    Program.ofRecords [Record.writing 1 bytes] = .ok program ∧
      ((Machine.start (.bytes []) {}).step program none).2.output.written = bytes ∧
      Escape.encode bytes = "\\0321\\035\\255" ∧
      Escape.decode "\\0490" = .ok [49, 48] ∧ ¬ Escape.Canonical "\\0490" := by
  intro bytes program
  have read : Program.ofRecords [Record.writing 1 bytes] = .ok program :=
    Program.ofRecords_eq_ok (by cbv) (by cbv)
  have decoded : Escape.decode "\\0490" = .ok [49, 48] := by cbv
  obtain ⟨written, canonical⟩ := literal_round_trip
  obtain ⟨index, here, steps⟩ :=
    ((written bytes).2.2.2 1).2 [Record.writing 1 bytes] program read List.mem_cons_self
  have first : index = 0 := by
    have inside : index < 1 := Program.get?_lt here
    omega
  have memory : (Machine.start (.bytes []) {}).output.Takes bytes := by
    intro room limited
    cases limited
  refine ⟨read, (steps none (Machine.start (.bytes []) {}) first.symm rfl rfl memory).2, by cbv,
    decoded, ?_⟩
  rw [← canonical _ _ decoded]
  decide

end ThreeAddress
