import Mathlib
import ThreeAddress.Text.Utf8

set_option autoImplicit false

namespace ThreeAddress.Utf8

/-- The least second byte behind a first byte, which leaves out overlong forms. -/
def secondLow (b : UInt8) : UInt8 :=
  if b = 0xE0 then 0xA0 else if b = 0xF0 then 0x90 else 0x80

/-- The greatest second byte behind a first byte, which leaves out surrogates and what is too large. -/
def secondHigh (b : UInt8) : UInt8 :=
  if b = 0xED then 0x9F else if b = 0xF4 then 0x8F else 0xBF

theorem byte_offset {b : UInt8} {low : Nat} (above : low ≤ b.toNat) :
    ∃ n, b.toNat = low + n ∧ b = UInt8.ofNat (low + n) := by
  have bound := b.toNat_lt
  refine ⟨b.toNat - low, by omega, ?_⟩
  rw [Nat.add_sub_cancel' above, UInt8.ofNat_toNat]

theorem first_ascii {b : UInt8} (high : b.toNat ≤ 0x7F) :
    first b = some (.char (Char.ofNat b.toNat)) := by
  have ascii : b ≤ 0x7F := UInt8.le_iff_toNat_le.mpr high
  simp only [first, ascii, ↓reduceIte]

theorem first_two {b : UInt8} (low : 0xC2 ≤ b.toNat) (high : b.toNat ≤ 0xDF) :
    first b = some (.more (.inside (b.toNat - 0xC0) (secondLow b) (secondHigh b) 0)) := by
  obtain ⟨n, offset, rfl⟩ := byte_offset low
  have bound : n ≤ 29 := by omega
  clear low high offset
  interval_cases n <;> rfl

theorem first_three {b : UInt8} (low : 0xE0 ≤ b.toNat) (high : b.toNat ≤ 0xEF) :
    first b = some (.more (.inside (b.toNat - 0xE0) (secondLow b) (secondHigh b) 1)) := by
  obtain ⟨n, offset, rfl⟩ := byte_offset low
  have bound : n ≤ 15 := by omega
  clear low high offset
  interval_cases n <;> rfl

theorem first_four {b : UInt8} (low : 0xF0 ≤ b.toNat) (high : b.toNat ≤ 0xF4) :
    first b = some (.more (.inside (b.toNat - 0xF0) (secondLow b) (secondHigh b) 2)) := by
  obtain ⟨n, offset, rfl⟩ := byte_offset low
  have bound : n ≤ 4 := by omega
  clear low high offset
  interval_cases n <;> rfl

/-- A first byte announces one to four bytes. -/
theorem first_cases {b : UInt8} (begins : first b ≠ none) :
    b.toNat ≤ 0x7F ∨ (0xC2 ≤ b.toNat ∧ b.toNat ≤ 0xDF) ∨ (0xE0 ≤ b.toNat ∧ b.toNat ≤ 0xEF) ∨
      (0xF0 ≤ b.toNat ∧ b.toNat ≤ 0xF4) := by
  by_contra outside
  apply begins
  have ascii : ¬ b ≤ 0x7F := by
    rw [UInt8.le_iff_toNat_le]
    simp
    omega
  by_cases overlong : b < 0xC2
  · simp only [first, ascii, overlong, ↓reduceIte]
  · have above : 0xF5 ≤ b.toNat := by
      rw [UInt8.lt_iff_toNat_lt] at overlong
      simp at overlong
      omega
    obtain ⟨n, offset, rfl⟩ := byte_offset above
    have bound : n ≤ 10 := by
      have top := (UInt8.ofNat (0xF5 + n)).toNat_lt
      omega
    clear outside ascii overlong above offset
    interval_cases n <;> rfl

theorem second_iff {b x : UInt8} :
    (secondLow b ≤ x ∧ x ≤ secondHigh b) ↔
      0x80 ≤ x.toNat ∧ x.toNat ≤ 0xBF ∧ (b.toNat = 0xE0 → 0xA0 ≤ x.toNat) ∧
        (b.toNat = 0xF0 → 0x90 ≤ x.toNat) ∧ (b.toNat = 0xED → x.toNat ≤ 0x9F) ∧
        (b.toNat = 0xF4 → x.toNat ≤ 0x8F) := by
  simp only [secondLow, secondHigh, UInt8.le_iff_toNat_le, ← UInt8.toNat_inj]
  split_ifs <;> simp_all <;> omega

theorem next_iff {x : UInt8} : (0x80 ≤ x ∧ x ≤ 0xBF) ↔ 0x80 ≤ x.toNat ∧ x.toNat ≤ 0xBF := by
  simp only [UInt8.le_iff_toNat_le]
  rfl

theorem decodeFrom_last {bits : Nat} {low high b : UInt8} {rest : Bytes}
    (inside : low ≤ b ∧ b ≤ high) :
    decodeFrom (.inside bits low high 0) (b :: rest) =
      (decodeFrom .start rest).map (Char.ofNat (bits * 64 + (b.toNat - 0x80)) :: ·) := by
  simp only [decodeFrom, step, inside, and_self, ↓reduceIte]

theorem decodeFrom_more {bits more : Nat} {low high b : UInt8} {rest : Bytes}
    (inside : low ≤ b ∧ b ≤ high) :
    decodeFrom (.inside bits low high (more + 1)) (b :: rest) =
      decodeFrom (.inside (bits * 64 + (b.toNat - 0x80)) 0x80 0xBF more) rest := by
  simp only [decodeFrom, step, inside, and_self, ↓reduceIte]

theorem decodeFrom_inside {bits more : Nat} {low high : UInt8} {bytes : Bytes} {cs : List Char}
    (read : decodeFrom (.inside bits low high more) bytes = some cs) :
    ∃ b rest, bytes = b :: rest ∧ (low ≤ b ∧ b ≤ high) := by
  cases bytes with
  | nil => simp [decodeFrom] at read
  | cons b rest =>
    refine ⟨b, rest, rfl, ?_⟩
    by_contra outside
    simp [decodeFrom, step, outside] at read

/-- The bytes that a code point is written as: as many as it needs, each but the first with six bits. -/
inductive Spells : Nat → Bytes → Prop
  | one {v : Nat} {a : UInt8} (high : v ≤ 0x7F) (first : a.toNat = v) : Spells v [a]
  | two {v : Nat} {a b : UInt8} (low : 0x80 ≤ v) (high : v ≤ 0x7FF)
      (first : a.toNat = 0xC0 + v / 64) (second : b.toNat = 0x80 + v % 64) : Spells v [a, b]
  | three {v : Nat} {a b c : UInt8} (low : 0x800 ≤ v) (high : v ≤ 0xFFFF)
      (first : a.toNat = 0xE0 + v / 4096) (second : b.toNat = 0x80 + v / 64 % 64)
      (third : c.toNat = 0x80 + v % 64) : Spells v [a, b, c]
  | four {v : Nat} {a b c d : UInt8} (low : 0x10000 ≤ v) (high : v ≤ 0x10FFFF)
      (first : a.toNat = 0xF0 + v / 262144) (second : b.toNat = 0x80 + v / 4096 % 64)
      (third : c.toNat = 0x80 + v / 64 % 64) (fourth : d.toNat = 0x80 + v % 64) :
      Spells v [a, b, c, d]

theorem Spells.unique {v : Nat} {bytes others : Bytes} (spells : Spells v bytes)
    (again : Spells v others) : bytes = others := by
  -- The ranges of the code point tell the numbers of bytes apart.
  cases spells <;> cases again <;> first
    | omega
    | simp only [List.cons.injEq, and_true, ← UInt8.toNat_inj]
      omega

theorem isValidChar_iff {v : Nat} :
    v.isValidChar ↔ v ≤ 0x10FFFF ∧ (v < 0xD800 ∨ 0xDFFF < v) := by
  unfold Nat.isValidChar
  omega

theorem encodeChar_spells (c : Char) : Spells c.toNat (encodeChar c) := by
  have valid := isValidChar_iff.mp c.valid
  have value : c.val.toNat = c.toNat := rfl
  rw [value] at valid
  unfold encodeChar String.utf8EncodeChar
  simp only [value]
  split_ifs with one two three
  · apply Spells.one one
    rw [UInt8.toNat_ofNat']
    omega
  · apply Spells.two (by omega) two <;> rw [UInt8.toNat_ofNat'] <;> omega
  · apply Spells.three (by omega) three <;> rw [UInt8.toNat_ofNat'] <;> omega
  · apply Spells.four (by omega) valid.1 <;> rw [UInt8.toNat_ofNat'] <;> omega

/-- What is spelled is read. -/
theorem Spells.read {v : Nat} {bytes : Bytes} (spells : Spells v bytes) (valid : v.isValidChar)
    (rest : Bytes) :
    decodeFrom .start (bytes ++ rest) = (decodeFrom .start rest).map (Char.ofNat v :: ·) := by
  have range := isValidChar_iff.mp valid
  cases spells with
  | @one a high first =>
    rw [List.singleton_append, decodeFrom, step, first_ascii (by omega), first]
  | @two a b low high first second =>
    have value : (a.toNat - 0xC0) * 64 + (b.toNat - 0x80) = v := by omega
    rw [List.cons_append, decodeFrom, step, first_two (by omega) (by omega)]
    simp only [List.cons_append, List.nil_append]
    rw [decodeFrom_last (second_iff.mpr (by omega)), value]
  | @three a b c low high first second third =>
    have value : ((a.toNat - 0xE0) * 64 + (b.toNat - 0x80)) * 64 + (c.toNat - 0x80) = v := by omega
    rw [List.cons_append, decodeFrom, step, first_three (by omega) (by omega)]
    simp only [List.cons_append, List.nil_append]
    rw [decodeFrom_more (second_iff.mpr (by omega)), decodeFrom_last (next_iff.mpr (by omega)),
      value]
  | @four a b c d low high first second third fourth =>
    have value : (((a.toNat - 0xF0) * 64 + (b.toNat - 0x80)) * 64 + (c.toNat - 0x80)) * 64 +
        (d.toNat - 0x80) = v := by omega
    rw [List.cons_append, decodeFrom, step, first_four (by omega) (by omega)]
    simp only [List.cons_append, List.nil_append]
    rw [decodeFrom_more (second_iff.mpr (by omega)), decodeFrom_more (next_iff.mpr (by omega)),
      decodeFrom_last (next_iff.mpr (by omega)), value]

/-- What is read begins with the spelling of a character. -/
theorem exists_spells {a : UInt8} {bytes : Bytes} {cs : List Char}
    (read : decodeFrom .start (a :: bytes) = some cs) :
    ∃ v piece rest, v.isValidChar ∧ Spells v piece ∧ a :: bytes = piece ++ rest := by
  have begins : first a ≠ none := by
    intro refused
    simp [decodeFrom, step, refused] at read
  rcases first_cases begins with ascii | ⟨low, high⟩ | ⟨low, high⟩ | ⟨low, high⟩
  · exact ⟨a.toNat, [a], bytes, isValidChar_iff.mpr (by omega), .one ascii rfl, rfl⟩
  · rw [decodeFrom, step, first_two low high] at read
    obtain ⟨b, rest, rfl, second⟩ := decodeFrom_inside read
    have ranges := second_iff.mp second
    refine ⟨(a.toNat - 0xC0) * 64 + (b.toNat - 0x80), [a, b], rest, isValidChar_iff.mpr (by omega),
      ?_, rfl⟩
    apply Spells.two <;> omega
  · rw [decodeFrom, step, first_three low high] at read
    obtain ⟨b, rest, rfl, second⟩ := decodeFrom_inside read
    dsimp only at read
    rw [decodeFrom_more second] at read
    obtain ⟨c, rest, rfl, third⟩ := decodeFrom_inside read
    have ranges := second_iff.mp second
    have range := next_iff.mp third
    refine ⟨((a.toNat - 0xE0) * 64 + (b.toNat - 0x80)) * 64 + (c.toNat - 0x80), [a, b, c], rest,
      isValidChar_iff.mpr (by omega), ?_, rfl⟩
    apply Spells.three <;> omega
  · rw [decodeFrom, step, first_four low high] at read
    obtain ⟨b, rest, rfl, second⟩ := decodeFrom_inside read
    dsimp only at read
    rw [decodeFrom_more second] at read
    obtain ⟨c, rest, rfl, third⟩ := decodeFrom_inside read
    rw [decodeFrom_more third] at read
    obtain ⟨d, rest, rfl, fourth⟩ := decodeFrom_inside read
    have ranges := second_iff.mp second
    have range := next_iff.mp third
    have lastRange := next_iff.mp fourth
    refine ⟨(((a.toNat - 0xF0) * 64 + (b.toNat - 0x80)) * 64 + (c.toNat - 0x80)) * 64 +
      (d.toNat - 0x80), [a, b, c, d], rest, isValidChar_iff.mpr (by omega), ?_, rfl⟩
    apply Spells.four <;> omega

/-- The bytes of a character are read as that character. -/
theorem decodeFrom_encodeChar (c : Char) (rest : Bytes) :
    decodeFrom .start (encodeChar c ++ rest) = (decodeFrom .start rest).map (c :: ·) := by
  rw [(encodeChar_spells c).read c.valid, Char.ofNat_toNat]

/-- What is read begins with the bytes of a character. -/
theorem exists_encodeChar_append {a : UInt8} {bytes : Bytes} {cs : List Char}
    (read : decodeFrom .start (a :: bytes) = some cs) :
    ∃ c rest, a :: bytes = encodeChar c ++ rest := by
  obtain ⟨v, piece, rest, valid, spells, split⟩ := exists_spells read
  have value : (Char.ofNat v).toNat = v := by rw [Char.toNat_ofNat, if_pos valid]
  have written := encodeChar_spells (Char.ofNat v)
  rw [value] at written
  exact ⟨Char.ofNat v, rest, by rw [split, written.unique spells]⟩

theorem encodeChar_ne_nil (c : Char) : encodeChar c ≠ [] := by
  intro empty
  have spells := encodeChar_spells c
  rw [empty] at spells
  cases spells

@[simp] theorem encode_nil : encode [] = [] := rfl

@[simp] theorem encode_cons (c : Char) (cs : List Char) :
    encode (c :: cs) = encodeChar c ++ encode cs := rfl

theorem encode_append (cs ds : List Char) : encode (cs ++ ds) = encode cs ++ encode ds :=
  List.flatMap_append

theorem decode?_encode (cs : List Char) : decode? (encode cs) = some cs := by
  induction cs with
  | nil => rfl
  | cons c cs ih =>
    rw [decode?] at ih
    rw [decode?, encode_cons, decodeFrom_encodeChar, ih]
    rfl

theorem encode_of_decode? {bytes : Bytes} {cs : List Char} (read : decode? bytes = some cs) :
    bytes = encode cs := by
  rw [decode?] at read
  -- Every character takes a byte, so that fewer are left behind it.
  induction size : bytes.length using Nat.strong_induction_on generalizing bytes cs with
  | _ length ih =>
    cases bytes with
    | nil =>
      cases read
      rfl
    | cons a bytes =>
      obtain ⟨c, rest, split⟩ := exists_encodeChar_append read
      have shorter : rest.length < length := by
        have taken := List.length_pos_iff.mpr (encodeChar_ne_nil c)
        rw [← size, split, List.length_append]
        omega
      rw [split, decodeFrom_encodeChar, Option.map_eq_some_iff] at read
      obtain ⟨ds, behind, rfl⟩ := read
      rw [split, encode_cons, ← ih rest.length shorter behind rfl]

/-- Bytes are read as a text if and only if they are its encoding. -/
theorem decode?_eq_some_iff {bytes : Bytes} {cs : List Char} :
    decode? bytes = some cs ↔ bytes = encode cs := by
  constructor
  · exact encode_of_decode?
  · rintro rfl
    exact decode?_encode cs

/-- A byte string is valid if and only if it is the encoding of some text. -/
theorem valid_iff {bytes : Bytes} : valid bytes = true ↔ ∃ cs, bytes = encode cs := by
  simp only [valid, Option.isSome_iff_exists, decode?_eq_some_iff]

theorem ofString_injective : Function.Injective ofString := by
  intro text other same
  have read := decode?_encode text.toList
  rw [ofString, ofString] at same
  rw [same, decode?_encode] at read
  exact String.toList_inj.mp (Option.some.inj read).symm

end ThreeAddress.Utf8
