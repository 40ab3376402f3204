import ThreeAddress.Proofs.Encoding
import ThreeAddress.Proofs.Refusals

set_option autoImplicit false

namespace ThreeAddress

namespace Utf8

theorem encode_singleton (c : Char) : encode [c] = encodeChar c := by
  rw [encode_cons, encode_nil, List.append_nil]

theorem encode_eq_nil_iff {cs : List Char} : encode cs = [] ↔ cs = [] := by
  cases cs with
  | nil => simp
  | cons c cs => simp [encodeChar_ne_nil]

/-- A text of one byte has one character. -/
theorem exists_char_of_encode {cs : List Char} {b : UInt8} (written : [b] = encode cs) :
    ∃ c, cs = [c] ∧ encodeChar c = [b] := by
  cases cs with
  | nil => cases written
  | cons c cs =>
    rw [encode_cons] at written
    rcases List.append_eq_singleton_iff.mp written.symm with ⟨empty, -⟩ | ⟨one, rest⟩
    · exact absurd empty (encodeChar_ne_nil c)
    · exact ⟨c, by rw [encode_eq_nil_iff.mp rest], one⟩

theorem length_le_encode (cs : List Char) : cs.length ≤ (encode cs).length := by
  induction cs with
  | nil => exact Nat.le_refl 0
  | cons c cs ih =>
    have taken := List.length_pos_iff.mpr (encodeChar_ne_nil c)
    rw [encode_cons, List.length_append, List.length_cons]
    omega

end Utf8

namespace Text

variable {bytes char : Bytes}

theorem characters_encode (cs : List Char) :
    characters (Utf8.encode cs) = cs.map Utf8.encodeChar := by
  simp only [characters, Utf8.decode?_encode]

/-- A string is a text and has the characters of the text, or it is none and has one for each byte. -/
theorem characters_cases (bytes : Bytes) :
    (∃ cs, bytes = Utf8.encode cs ∧ characters bytes = cs.map Utf8.encodeChar) ∨
      Utf8.valid bytes = false ∧ characters bytes = bytes.map ([·]) := by
  cases read : Utf8.decode? bytes with
  | none =>
    right
    rw [Utf8.valid, characters, read]
    exact ⟨rfl, rfl⟩
  | some cs =>
    left
    have written := Utf8.decode?_eq_some_iff.mp read
    exact ⟨cs, written, by rw [written, characters_encode]⟩

theorem characters_of_invalid (invalid : Utf8.valid bytes = false) :
    characters bytes = bytes.map ([·]) := by
  rcases characters_cases bytes with ⟨cs, written, -⟩ | ⟨-, chars⟩
  · rw [Utf8.valid_iff.mpr ⟨cs, written⟩] at invalid
    cases invalid
  · exact chars

theorem characters_encodeChar (c : Char) :
    characters (Utf8.encodeChar c) = [Utf8.encodeChar c] := by
  rw [← Utf8.encode_singleton, characters_encode, List.map_singleton, Utf8.encode_singleton]

theorem characters_byte (b : UInt8) : characters [b] = [[b]] := by
  rcases characters_cases [b] with ⟨cs, written, -⟩ | ⟨-, chars⟩
  · obtain ⟨c, -, one⟩ := Utf8.exists_char_of_encode written
    rw [← one, characters_encodeChar]
  · exact chars

/-- A string is made up of its characters. -/
theorem characters_flatten (bytes : Bytes) : (characters bytes).flatten = bytes := by
  rcases characters_cases bytes with ⟨cs, written, chars⟩ | ⟨-, chars⟩
  · rw [chars, written, ← List.flatMap_def]
    rfl
  · rw [chars, ← List.flatMap_def, List.flatMap_singleton']

/-- A character of a string is a string of one character. -/
theorem characters_of_mem (member : char ∈ characters bytes) : characters char = [char] := by
  rcases characters_cases bytes with ⟨cs, -, chars⟩ | ⟨-, chars⟩
  · rw [chars] at member
    obtain ⟨c, -, rfl⟩ := List.mem_map.mp member
    exact characters_encodeChar c
  · rw [chars] at member
    obtain ⟨b, -, rfl⟩ := List.mem_map.mp member
    exact characters_byte b

theorem length_characters_le (bytes : Bytes) : (characters bytes).length ≤ bytes.length := by
  rcases characters_cases bytes with ⟨cs, written, chars⟩ | ⟨-, chars⟩
  · rw [chars, written, List.length_map]
    exact Utf8.length_le_encode cs
  · rw [chars, List.length_map]

end Text

namespace Operation

/-- An index at which a string has a character. -/
def Inside (bytes : Bytes) (i : Int64) : Prop :=
  0 ≤ i.toInt ∧ i.toInt < (Text.characters bytes).length

instance Inside.decidable (bytes : Bytes) (i : Int64) : Decidable (Inside bytes i) :=
  inferInstanceAs (Decidable (_ ∧ _))

/-- The character of a string at an index, if there is one. -/
def character? (bytes : Bytes) (i : Int64) : Option Bytes :=
  if 0 ≤ i.toInt then (Text.characters bytes)[i.toInt.toNat]? else none

variable {bytes char : Bytes} {i : Int64}

theorem place?_of_inside (inside : Inside bytes i) :
    place? i (Text.characters bytes).length = some i.toInt.toNat := by
  obtain ⟨low, high⟩ := inside
  have below : i.toInt.toNat < (Text.characters bytes).length := by omega
  have nonneg : 0 ≤ i := Int64.le_iff_toInt_le.mpr low
  rw [place?, if_pos ⟨nonneg, below⟩]

theorem place?_of_outside (outside : ¬ Inside bytes i) :
    place? i (Text.characters bytes).length = none := by
  rw [place?, if_neg]
  intro inside
  have low : 0 ≤ i.toInt := Int64.le_iff_toInt_le.mp inside.1
  have high := inside.2
  apply outside
  constructor <;> omega

theorem inside_iff : Inside bytes i ↔ ∃ char, character? bytes i = some char := by
  rw [Inside, character?]
  by_cases low : 0 ≤ i.toInt
  · have below : (∃ char, (Text.characters bytes)[i.toInt.toNat]? = some char) ↔
        i.toInt.toNat < (Text.characters bytes).length := by
      simp [List.getElem?_eq_some_iff]
    rw [if_pos low, below]
    omega
  · simp [low]

theorem character?_of_outside (outside : ¬ Inside bytes i) : character? bytes i = none := by
  rw [Option.eq_none_iff_forall_ne_some]
  intro char found
  exact outside (inside_iff.mpr ⟨char, found⟩)

theorem mem_of_character? (found : character? bytes i = some char) : char ∈ Text.characters bytes := by
  rw [character?] at found
  split at found
  · exact List.mem_of_getElem? found
  · cases found

theorem charAt_str (op : Opcode) (bytes : Bytes) (i : Int64) :
    charAt op (.str bytes) (.int i) =
      (character? bytes i).elim (.error (.badIndex op i (Text.characters bytes).length)) .ok := by
  have found : (place? i (Text.characters bytes).length).bind ((Text.characters bytes)[·]?) =
      character? bytes i := by
    by_cases inside : Inside bytes i
    · rw [place?_of_inside inside, character?, if_pos inside.1]
      rfl
    · rw [place?_of_outside inside, character?_of_outside inside]
      rfl
  simp only [charAt, str, int, bind, Except.bind, found]
  cases character? bytes i <;> rfl

theorem getchar_of_some (found : character? bytes i = some char) :
    getchar (.str bytes) (.int i) = .ok (.str char) := by
  rw [getchar, charAt_str, found]
  rfl

/-- Strings with as many characters have the same at an index if they do not differ there. -/
theorem getchar_congr {other : Bytes}
    (length : (Text.characters other).length = (Text.characters bytes).length)
    (same : character? other i = character? bytes i) :
    getchar (.str other) (.int i) = getchar (.str bytes) (.int i) := by
  rw [getchar, getchar, charAt_str, charAt_str, length, same]

theorem strlen_str (bytes : Bytes) :
    strlen (.str bytes) = .ok (.int (Int64.ofNat (Text.characters bytes).length)) := rfl

/-- No longer than the greatest integer, as all strings are that a memory can hold. -/
def Storable (bytes : Bytes) : Prop :=
  (bytes.length : Int) ≤ Int64.maxValue.toInt

instance Storable.decidable (bytes : Bytes) : Decidable (Storable bytes) :=
  inferInstanceAs (Decidable (_ ≤ _))

/-- The length of a string is the number of its characters. -/
theorem Storable.strlen (storable : Storable bytes) :
    ∃ n, strlen (.str bytes) = .ok (.int n) ∧ n.toInt = (Text.characters bytes).length := by
  refine ⟨_, strlen_str bytes, ?_⟩
  have fewer := Text.length_characters_le bytes
  have bound : (bytes.length : Int) ≤ 9223372036854775807 := storable
  apply Int64.toInt_ofNat_of_lt
  omega

theorem inside_iff_of_length {n : Int64} (value : n.toInt = (Text.characters bytes).length) (i : Int64) :
    Inside bytes i ↔ 0 ≤ i ∧ i < n := by
  rw [Inside, Int64.le_iff_toInt_le, Int64.lt_iff_toInt_lt, value]
  rfl

theorem Storable.inside_iff (storable : Storable bytes) :
    ∃ n, Operation.strlen (.str bytes) = .ok (.int n) ∧ ∀ i, Inside bytes i ↔ 0 ≤ i ∧ i < n := by
  obtain ⟨n, counted, value⟩ := storable.strlen
  exact ⟨n, counted, inside_iff_of_length value⟩

theorem setchar_of_empty (bytes : Bytes) (i : Int64) :
    Fails .stringOperation (setchar (.str bytes) (.int i) (.str [])) :=
  ⟨.emptyReplacement, rfl, rfl⟩

section Replacement

variable {source : Bytes} {rest : List Bytes} (first : Text.characters source = char :: rest)

include first

theorem setchar_of_outside (outside : ¬ Inside bytes i) :
    Fails .stringOperation (setchar (.str bytes) (.int i) (.str source)) := by
  refine ⟨.badIndex .setchar i (Text.characters bytes).length, ?_, rfl⟩
  simp only [setchar, str, int, bind, Except.bind, first, place?_of_outside outside]
  rfl

theorem setchar_of_inside (inside : Inside bytes i) :
    setchar (.str bytes) (.int i) (.str source) =
      .ok (.str ((Text.characters bytes).set i.toInt.toNat char).flatten) := by
  simp only [setchar, str, int, bind, Except.bind, first, place?_of_inside inside]
  rfl

end Replacement

theorem exists_first_character (text : Utf8.valid bytes = true) (filled : bytes ≠ []) :
    ∃ c rest, Text.characters bytes = Utf8.encodeChar c :: rest := by
  obtain ⟨cs, rfl⟩ := Utf8.valid_iff.mp text
  cases cs with
  | nil => exact absurd rfl filled
  | cons c cs => exact ⟨c, cs.map Utf8.encodeChar, Text.characters_encode (c :: cs)⟩

/-- Where a character of a text is replaced by another one, all characters but that one stay. -/
theorem characters_set (text : Utf8.valid bytes = true) (place : Nat) (c : Char) :
    Utf8.valid ((Text.characters bytes).set place (Utf8.encodeChar c)).flatten = true ∧
      Text.characters ((Text.characters bytes).set place (Utf8.encodeChar c)).flatten =
        (Text.characters bytes).set place (Utf8.encodeChar c) := by
  obtain ⟨cs, rfl⟩ := Utf8.valid_iff.mp text
  have written : ((Text.characters (Utf8.encode cs)).set place (Utf8.encodeChar c)).flatten =
      Utf8.encode (cs.set place c) := by
    rw [Text.characters_encode, ← List.map_set, ← List.flatMap_def]
    rfl
  refine ⟨Utf8.valid_iff.mpr ⟨_, written⟩, ?_⟩
  rw [written, Text.characters_encode, Text.characters_encode, List.map_set]

theorem character?_of_set {other : Bytes} (inside : Inside bytes i)
    (replaced : Text.characters other = (Text.characters bytes).set i.toInt.toNat char) (j : Int64) :
    character? other j = if j = i then some char else character? bytes j := by
  obtain ⟨low, high⟩ := inside
  rw [character?, character?, replaced, List.getElem?_set]
  by_cases same : j = i
  · have below : i.toInt.toNat < (Text.characters bytes).length := by omega
    simp only [same, low, below, ↓reduceIte]
  · by_cases nonneg : 0 ≤ j.toInt
    · have apart : i.toInt.toNat ≠ j.toInt.toNat := by
        intro places
        apply same
        apply Int64.toInt_inj.mp
        omega
      simp only [same, nonneg, apart, ↓reduceIte]
    · simp only [same, nonneg, ↓reduceIte]

/-- `setchar` replaces exactly one character. In a text it fails if there is nothing to replace by, or
no character at the index. Otherwise the result is a text with as many characters, which has the first
character of the replacement at the index and the characters of the text elsewhere. In every string, a
character can be replaced by itself, and nothing changes. -/
theorem setchar_replaces_one :
    (∀ (s r : Bytes) (i : Int64), Utf8.valid s = true → Utf8.valid r = true →
      (Fails .stringOperation (setchar (.str s) (.int i) (.str r)) ↔ r = [] ∨ ¬ Inside s i) ∧
      (r ≠ [] → Inside s i →
        ∃ t, setchar (.str s) (.int i) (.str r) = .ok (.str t) ∧ Utf8.valid t = true ∧
          strlen (.str t) = strlen (.str s) ∧
          (∃ c, getchar (.str r) (.int 0) = .ok c ∧ getchar (.str t) (.int i) = .ok c) ∧
          ∀ j ≠ i, getchar (.str t) (.int j) = getchar (.str s) (.int j))) ∧
    (∀ (s : Bytes) (i : Int64), Inside s i →
      ∃ c, getchar (.str s) (.int i) = .ok c ∧ setchar (.str s) (.int i) c = .ok (.str s)) ∧
    ∀ s : Bytes, Storable s →
      ∃ n, strlen (.str s) = .ok (.int n) ∧ ∀ i, Inside s i ↔ 0 ≤ i ∧ i < n := by
  refine ⟨?_, ?_, fun s => Storable.inside_iff⟩
  · intro s r i textS textR
    by_cases empty : r = []
    · rw [empty]
      exact ⟨iff_of_true (setchar_of_empty s i) (Or.inl rfl), fun filled => absurd rfl filled⟩
    · obtain ⟨c, rest, first⟩ := exists_first_character textR empty
      by_cases inside : Inside s i
      · have replaced := setchar_of_inside first inside
        obtain ⟨text, chars⟩ := characters_set textS i.toInt.toNat c
        have length := congrArg List.length chars
        rw [List.length_set] at length
        have found := character?_of_set inside chars
        refine ⟨iff_of_false ?_ ?_, fun _ _ => ⟨_, replaced, text, ?_, ?_, ?_⟩⟩
        · intro failed
          obtain ⟨fault, came, -⟩ := failed
          rw [replaced] at came
          cases came
        · simp [empty, inside]
        · rw [strlen_str, strlen_str, length]
        · have here := found i
          rw [if_pos rfl] at here
          have there : character? r 0 = some (Utf8.encodeChar c) := by
            rw [character?, first]
            rfl
          exact ⟨_, getchar_of_some there, getchar_of_some here⟩
        · intro j other
          have elsewhere := found j
          rw [if_neg other] at elsewhere
          exact getchar_congr length elsewhere
      · refine ⟨iff_of_true (setchar_of_outside first inside) (Or.inr inside), ?_⟩
        intro _ within
        exact absurd within inside
  · intro s i inside
    obtain ⟨char, found⟩ := inside_iff.mp inside
    have one := Text.characters_of_mem (mem_of_character? found)
    refine ⟨.str char, getchar_of_some found, ?_⟩
    rw [character?, if_pos inside.1] at found
    obtain ⟨below, here⟩ := List.getElem?_eq_some_iff.mp found
    rw [setchar_of_inside one inside, ← here, List.set_getElem_self, Text.characters_flatten]

/-- A character of two bytes is replaced by one of three; in a string that is no text, the first byte is
replaced by itself. -/
theorem setchar_replaces_one_widened :
    let s : Bytes := [97, 197, 190, 98]
    let r : Bytes := [226, 130, 172, 120]
    (Utf8.valid s = true ∧ Utf8.valid r = true ∧ r ≠ [] ∧ Inside s 1 ∧ Storable s) ∧
      (∃ t, setchar (.str s) (.int 1) (.str r) = .ok (.str t) ∧ t = [97, 226, 130, 172, 98] ∧
        strlen (.str t) = strlen (.str s) ∧
        getchar (.str t) (.int 2) = getchar (.str s) (.int 2)) ∧
      Fails .stringOperation (setchar (.str s) (.int 3) (.str r)) ∧
      Utf8.valid [255, 97] = false ∧
      (∃ c, getchar (.str [255, 97]) (.int 0) = .ok c ∧
        setchar (.str [255, 97]) (.int 0) c = .ok (.str [255, 97])) ∧
      ∃ n, strlen (.str s) = .ok (.int n) ∧ (Inside s 1 ↔ 0 ≤ (1 : Int64) ∧ 1 < n) := by
  intro s r
  have textS : Utf8.valid s = true := by decide
  have textR : Utf8.valid r = true := by decide
  have filled : r ≠ [] := by decide
  have inside : Inside s 1 := by decide
  have storable : Storable s := by decide
  obtain ⟨replaces, keeps, counts⟩ := setchar_replaces_one
  obtain ⟨t, set, -, length, -, others⟩ := (replaces s r 1 textS textR).2 filled inside
  obtain ⟨n, counted, indices⟩ := counts s storable
  refine ⟨⟨textS, textR, filled, inside, storable⟩, ⟨t, set, ?_, length, others 2 (by decide)⟩,
    ((replaces s r 3 textS textR).1).mpr (Or.inr (by decide)), by decide,
    keeps [255, 97] 0 (by decide), n, counted, indices 1⟩
  have computed : setchar (.str s) (.int 1) (.str r) = .ok (.str [97, 226, 130, 172, 98]) := by decide
  rw [computed] at set
  cases set
  rfl

end Operation

end ThreeAddress
