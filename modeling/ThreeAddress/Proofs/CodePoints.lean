import ThreeAddress.Proofs.Characters

set_option autoImplicit false

namespace ThreeAddress

namespace Text

theorem codePoint_encodeChar (c : Char) : codePoint (Utf8.encodeChar c) = c.toNat := by
  have read : Utf8.decode? (Utf8.encodeChar c) = some [c] := by
    rw [← Utf8.encode_singleton, Utf8.decode?_encode]
  simp only [codePoint, read]

/-- The code point of a byte that is a character by itself is its value, also where it is ASCII. -/
theorem codePoint_byte (b : UInt8) : codePoint [b] = b.toNat := by
  cases read : Utf8.decode? [b] with
  | none => simp only [codePoint, read]
  | some cs =>
    obtain ⟨c, -, one⟩ := Utf8.exists_char_of_encode (Utf8.decode?_eq_some_iff.mp read)
    have spells := Utf8.encodeChar_spells c
    rw [one] at spells
    cases spells with
    | one high first => rw [← one, codePoint_encodeChar, first]

end Text

namespace Operation

variable {bytes char : Bytes} {i n : Int64} {c : Char} {cs : List Char}

/-- A code point of a character: none of a surrogate, and none beyond the last. -/
def Scalar (n : Int64) : Prop :=
  (0 ≤ n ∧ n ≤ 0xD7FF) ∨ (0xE000 ≤ n ∧ n ≤ 0x10FFFF)

instance Scalar.decidable (n : Int64) : Decidable (Scalar n) :=
  inferInstanceAs (Decidable (_ ∨ _))

theorem scalar_iff_toInt : Scalar n ↔
    (0 ≤ n.toInt ∧ n.toInt ≤ 0xD7FF) ∨ (0xE000 ≤ n.toInt ∧ n.toInt ≤ 0x10FFFF) := by
  simp only [Scalar, Int64.le_iff_toInt_le]
  rfl

theorem scalar_iff : Scalar n ↔ ∃ c : Char, n.toInt = c.toNat := by
  rw [scalar_iff_toInt]
  constructor
  · intro range
    have valid : n.toInt.toNat.isValidChar := Utf8.isValidChar_iff.mpr (by omega)
    refine ⟨Char.ofNat n.toInt.toNat, ?_⟩
    rw [Char.toNat_ofNat, if_pos valid]
    omega
  · intro known
    obtain ⟨c, code⟩ := known
    have valid : c.toNat.isValidChar := c.valid
    have range := Utf8.isValidChar_iff.mp valid
    omega

theorem int2char_of_char (code : n.toInt = c.toNat) :
    int2char (.int n) = .ok (.str (Utf8.encodeChar c)) := by
  have nonneg : 0 ≤ n := Int64.le_iff_toInt_le.mpr (by rw [code]; exact Int.natCast_nonneg _)
  have value : n.toInt.toNat = c.toNat := by omega
  have valid : c.toNat.isValidChar := c.valid
  have found : char? n = some c := by
    rw [char?, value, if_pos ⟨nonneg, valid⟩, Char.ofNat_toNat]
  simp only [int2char, int, bind, Except.bind, found]
  rfl

theorem int2char_of_not_scalar (other : ¬ Scalar n) : Fails .stringOperation (int2char (.int n)) := by
  have absent : char? n = none := by
    rw [char?, if_neg]
    intro code
    apply other
    rw [scalar_iff_toInt]
    have low : 0 ≤ n.toInt := Int64.le_iff_toInt_le.mp code.1
    have range := Utf8.isValidChar_iff.mp code.2
    omega
  refine ⟨.badCodePoint n, ?_, rfl⟩
  simp only [int2char, int, bind, Except.bind, absent]
  rfl

theorem stri2int_of_some (found : character? bytes i = some char) :
    stri2int (.str bytes) (.int i) = .ok (.int (Int64.ofNat (Text.codePoint char))) := by
  rw [stri2int, charAt_str, found]
  rfl

/-- Code points are far from the greatest integer. -/
theorem code_lt (c : Char) : c.toNat < 2 ^ 63 := by
  have valid : c.toNat.isValidChar := c.valid
  have range := Utf8.isValidChar_iff.mp valid
  omega

theorem character?_encode (low : 0 ≤ i.toInt) :
    character? (Utf8.encode cs) i = cs[i.toInt.toNat]?.map Utf8.encodeChar := by
  rw [character?, if_pos low, Text.characters_encode, List.getElem?_map]

/-- A character of a text, and its code point. -/
theorem stri2int_encode (low : 0 ≤ i.toInt) (found : cs[i.toInt.toNat]? = some c) :
    stri2int (.str (Utf8.encode cs)) (.int i) = .ok (.int (Int64.ofNat c.toNat)) ∧
      getchar (.str (Utf8.encode cs)) (.int i) = .ok (.str (Utf8.encodeChar c)) := by
  have here : character? (Utf8.encode cs) i = some (Utf8.encodeChar c) := by
    rw [character?_encode low, found]
    rfl
  refine ⟨?_, getchar_of_some here⟩
  rw [stri2int_of_some here, Text.codePoint_encodeChar]

theorem stri2int_of_invalid (invalid : Utf8.valid bytes = false) (low : 0 ≤ i.toInt) {b : UInt8}
    (found : bytes[i.toInt.toNat]? = some b) :
    stri2int (.str bytes) (.int i) = .ok (.int (Int64.ofNat b.toNat)) := by
  have here : character? bytes i = some [b] := by
    rw [character?, if_pos low, Text.characters_of_invalid invalid, List.getElem?_map, found]
    rfl
  rw [stri2int_of_some here, Text.codePoint_byte]

theorem Storable.length_eq {other : Bytes} (storable : Storable bytes) (storableToo : Storable other)
    (same : Operation.strlen (.str bytes) = Operation.strlen (.str other)) :
    (Text.characters bytes).length = (Text.characters other).length := by
  obtain ⟨n, counted, value⟩ := storable.strlen
  obtain ⟨k, countedToo, valueToo⟩ := storableToo.strlen
  rw [counted, countedToo] at same
  have counts : n = k := Value.int.inj (Except.ok.inj same)
  rw [counts] at value
  omega

/-- As many characters with the same code points are the same characters. -/
theorem eq_of_stri2int {ds : List Char} (storable : Storable (Utf8.encode cs))
    (length : cs.length = ds.length)
    (same : ∀ i, stri2int (.str (Utf8.encode cs)) (.int i) =
      stri2int (.str (Utf8.encode ds)) (.int i)) : cs = ds := by
  have top : ((Utf8.encode cs).length : Int) ≤ 9223372036854775807 := storable
  have fewer := Utf8.length_le_encode cs
  apply List.ext_getElem length
  intro place inside insideToo
  have index : (Int64.ofNat place).toInt = place := Int64.toInt_ofNat_of_lt (by omega)
  have low : 0 ≤ (Int64.ofNat place).toInt := by omega
  have back : (Int64.ofNat place).toInt.toNat = place := by omega
  have here : cs[(Int64.ofNat place).toInt.toNat]? = some cs[place] := by
    rw [back, List.getElem?_eq_getElem inside]
  have there : ds[(Int64.ofNat place).toInt.toNat]? = some ds[place] := by
    rw [back, List.getElem?_eq_getElem insideToo]
  have codes := same (Int64.ofNat place)
  rw [(stri2int_encode low here).1, (stri2int_encode low there).1] at codes
  have values := congrArg Int64.toInt (Value.int.inj (Except.ok.inj codes))
  rw [Int64.toInt_ofNat_of_lt (code_lt _), Int64.toInt_ofNat_of_lt (code_lt _)] at values
  apply Char.toNat_inj.mp
  omega

/-- `int2char` and `stri2int` undo each other. A code point of a character gives a string of one character
with that code point, and any other integer is refused. In a text, the code point of a character gives
the character, so that texts with as many characters and the same code points are equal. In a string that
is no text, the code points are the values of the bytes. -/
theorem code_points_inverse :
    (∀ n : Int64,
      (Scalar n → ∃ s, int2char (.int n) = .ok (.str s) ∧ strlen (.str s) = .ok (.int 1) ∧
        stri2int (.str s) (.int 0) = .ok (.int n)) ∧
      (¬ Scalar n → Fails .stringOperation (int2char (.int n)))) ∧
    (∀ (s : Bytes) (i : Int64), Utf8.valid s = true → Inside s i →
      ∃ n c, stri2int (.str s) (.int i) = .ok n ∧ getchar (.str s) (.int i) = .ok c ∧
        int2char n = .ok c) ∧
    (∀ s t : Bytes, Utf8.valid s = true → Utf8.valid t = true → Storable s → Storable t →
      (s = t ↔ strlen (.str s) = strlen (.str t) ∧
        ∀ i, stri2int (.str s) (.int i) = stri2int (.str t) (.int i))) ∧
    ∀ (s : Bytes) (i : Int64) (b : UInt8), Utf8.valid s = false → 0 ≤ i →
      s[i.toInt.toNat]? = some b →
      ∃ n, stri2int (.str s) (.int i) = .ok (.int n) ∧ n.toInt = b.toNat := by
  refine ⟨?_, ?_, ?_, ?_⟩
  · intro n
    refine ⟨?_, int2char_of_not_scalar⟩
    intro scalar
    obtain ⟨c, code⟩ := scalar_iff.mp scalar
    have counted : strlen (.str (Utf8.encodeChar c)) = .ok (.int 1) := by
      rw [strlen_str, Text.characters_encodeChar]
      rfl
    have back : Int64.ofNat c.toNat = n := by
      apply Int64.toInt_inj.mp
      rw [Int64.toInt_ofNat_of_lt (code_lt c), code]
    have read : stri2int (.str (Utf8.encode [c])) (.int 0) = .ok (.int (Int64.ofNat c.toNat)) :=
      (stri2int_encode (by decide) rfl).1
    rw [Utf8.encode_singleton, back] at read
    exact ⟨_, int2char_of_char code, counted, read⟩
  · intro s i text inside
    obtain ⟨cs, rfl⟩ := Utf8.valid_iff.mp text
    have below : i.toInt.toNat < cs.length := by
      have low := inside.1
      have high := inside.2
      rw [Text.characters_encode, List.length_map] at high
      omega
    obtain ⟨read, here⟩ := stri2int_encode inside.1 (List.getElem?_eq_getElem below)
    exact ⟨_, _, read, here, int2char_of_char (Int64.toInt_ofNat_of_lt (code_lt _))⟩
  · intro s t textS textT storable storableToo
    obtain ⟨cs, rfl⟩ := Utf8.valid_iff.mp textS
    obtain ⟨ds, rfl⟩ := Utf8.valid_iff.mp textT
    constructor
    · intro same
      rw [same]
      exact ⟨rfl, fun _ => rfl⟩
    · intro alike
      have length := Storable.length_eq storable storableToo alike.1
      rw [Text.characters_encode, Text.characters_encode, List.length_map, List.length_map] at length
      rw [eq_of_stri2int storable length alike.2]
  · intro s i b invalid nonneg found
    have low : 0 ≤ i.toInt := Int64.le_iff_toInt_le.mp nonneg
    have small : b.toNat < 2 ^ 63 := Nat.lt_trans b.toNat_lt (by decide)
    exact ⟨_, stri2int_of_invalid invalid low found, Int64.toInt_ofNat_of_lt small⟩

/-- The last code point before the surrogates and the first of them, two texts that differ in one
character, and a string that is no text but for its last byte. -/
theorem code_points_inverse_edges :
    let s : Bytes := [97, 197, 190]
    let t : Bytes := [97, 198, 190]
    (Scalar 0xD7FF ∧ ∃ c, int2char (.int 0xD7FF) = .ok (.str c) ∧ strlen (.str c) = .ok (.int 1) ∧
      stri2int (.str c) (.int 0) = .ok (.int 0xD7FF)) ∧
    (¬ Scalar 0xD800 ∧ Fails .stringOperation (int2char (.int 0xD800))) ∧
    (Utf8.valid s = true ∧ Inside s 1 ∧ ∃ n c, stri2int (.str s) (.int 1) = .ok n ∧
      getchar (.str s) (.int 1) = .ok c ∧ int2char n = .ok c) ∧
    (Utf8.valid t = true ∧ Storable s ∧ Storable t ∧ strlen (.str s) = strlen (.str t) ∧
      ∃ i, stri2int (.str s) (.int i) ≠ stri2int (.str t) (.int i)) ∧
    Utf8.valid [255, 97] = false ∧
      ∃ n, stri2int (.str [255, 97]) (.int 1) = .ok (.int n) ∧ n.toInt = 97 := by
  intro s t
  have textS : Utf8.valid s = true := by decide
  have textT : Utf8.valid t = true := by decide
  have storableS : Storable s := by decide
  have storableT : Storable t := by decide
  have inside : Inside s 1 := by decide
  have scalar : Scalar 0xD7FF := by decide
  have surrogate : ¬ Scalar 0xD800 := by decide
  have two : strlen (.str s) = .ok (.int 2) := by decide
  have twoToo : strlen (.str t) = .ok (.int 2) := by decide
  have lengths : strlen (.str s) = strlen (.str t) := two.trans twoToo.symm
  have noText : Utf8.valid [255, 97] = false := by decide
  obtain ⟨codes, chars, determine, values⟩ := code_points_inverse
  refine ⟨⟨scalar, (codes 0xD7FF).1 scalar⟩, ⟨surrogate, (codes 0xD800).2 surrogate⟩,
    ⟨textS, inside, chars s 1 textS inside⟩, ⟨textT, storableS, storableT, lengths, ?_⟩, noText,
    values [255, 97] 1 97 noText (by decide) rfl⟩
  by_contra none
  have everywhere : ∀ i, stri2int (.str s) (.int i) = stri2int (.str t) (.int i) := by
    intro i
    by_contra other
    exact none ⟨i, other⟩
  have same := (determine s t textS textT storableS storableT).mpr ⟨lengths, everywhere⟩
  exact absurd same (by decide)

end Operation

end ThreeAddress
