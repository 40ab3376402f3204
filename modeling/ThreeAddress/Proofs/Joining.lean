import ThreeAddress.Proofs.CodePoints

set_option autoImplicit false

namespace ThreeAddress

namespace Utf8

/-- What follows a text is read as if it stood alone. -/
theorem decode?_encode_append (cs : List Char) (rest : Bytes) :
    decode? (encode cs ++ rest) = (decode? rest).map (cs ++ ·) := by
  induction cs with
  | nil => simp
  | cons c cs ih =>
    rw [decode?, decode?] at ih
    rw [decode?, decode?, encode_cons, List.append_assoc, decodeFrom_encodeChar, ih, Option.map_map]
    rfl

theorem valid_encode_append (cs : List Char) (rest : Bytes) :
    valid (encode cs ++ rest) = valid rest := by
  rw [valid, valid, decode?_encode_append, Option.isSome_map]

end Utf8

theorem Text.characters_append {a b : Bytes} (textA : Utf8.valid a = true)
    (textB : Utf8.valid b = true) : characters (a ++ b) = characters a ++ characters b := by
  obtain ⟨cs, rfl⟩ := Utf8.valid_iff.mp textA
  obtain ⟨ds, rfl⟩ := Utf8.valid_iff.mp textB
  rw [← Utf8.encode_append, characters_encode, characters_encode, characters_encode, List.map_append]

namespace Operation

variable {bytes char a b : Bytes} {i n : Int64}

theorem strlen_of_mem (member : char ∈ Text.characters bytes) :
    strlen (.str char) = .ok (.int 1) := by
  rw [strlen_str, Text.characters_of_mem member]
  rfl

theorem fails_bind_iff {α β : Type} {kind : ErrorKind} {result : Except Fault α} {make : α → β} :
    Fails kind (result >>= fun value => pure (make value)) ↔ Fails kind result := by
  cases result with
  | error fault => simp only [Fails, bind, Except.bind, Except.error.injEq]
  | ok value => exact iff_of_false (not_fails_ok _) (not_fails_ok _)

theorem fails_charAt_iff {op : Opcode} :
    Fails .stringOperation (charAt op (.str bytes) (.int i)) ↔ ¬ Inside bytes i := by
  rw [charAt_str]
  by_cases inside : Inside bytes i
  · obtain ⟨char, found⟩ := inside_iff.mp inside
    rw [found]
    exact iff_of_false (not_fails_ok _) (not_not.mpr inside)
  · rw [character?_of_outside inside]
    exact iff_of_true ⟨_, rfl, rfl⟩ inside

/-- Fetching a character, or its code point, fails where there is none. -/
theorem fails_fetch_iff :
    (Fails .stringOperation (getchar (.str bytes) (.int i)) ↔ ¬ Inside bytes i) ∧
      (Fails .stringOperation (stri2int (.str bytes) (.int i)) ↔ ¬ Inside bytes i) :=
  ⟨fails_bind_iff.trans fails_charAt_iff, fails_bind_iff.trans fails_charAt_iff⟩

theorem fetch_of_inside (inside : Inside bytes i) :
    ∃ c k, getchar (.str bytes) (.int i) = .ok c ∧ strlen c = .ok (.int 1) ∧
      stri2int (.str bytes) (.int i) = .ok (.int k) := by
  obtain ⟨char, found⟩ := inside_iff.mp inside
  exact ⟨_, _, getchar_of_some found, strlen_of_mem (mem_of_character? found), stri2int_of_some found⟩

/-- Strings that have the same character at two indices give the same there. -/
theorem fetch_congr {other : Bytes} {j : Int64} (inside : Inside bytes i)
    (same : character? other j = character? bytes i) :
    getchar (.str other) (.int j) = getchar (.str bytes) (.int i) ∧
      stri2int (.str other) (.int j) = stri2int (.str bytes) (.int i) := by
  obtain ⟨char, found⟩ := inside_iff.mp inside
  rw [found] at same
  rw [getchar_of_some found, getchar_of_some same, stri2int_of_some found, stri2int_of_some same]
  exact ⟨rfl, rfl⟩

/-- The first characters of a string, fetched one by one and joined. -/
def rejoined (a : Value) : Nat → Except Fault Value
  | 0 => .ok (.str [])
  | k + 1 => do
    let front ← rejoined a k
    let char ← getchar a (.int (Int64.ofNat k))
    concat front char

theorem Storable.character? (storable : Storable bytes) {place : Nat}
    (below : place < (Text.characters bytes).length) :
    Operation.character? bytes (Int64.ofNat place) = some (Text.characters bytes)[place] := by
  have top : (bytes.length : Int) ≤ 9223372036854775807 := storable
  have fewer := Text.length_characters_le bytes
  have index : (Int64.ofNat place).toInt = place := Int64.toInt_ofNat_of_lt (by omega)
  rw [Operation.character?, index, if_pos (Int.natCast_nonneg place), Int.toNat_natCast,
    List.getElem?_eq_getElem below]

/-- After some steps the characters in front are joined. -/
theorem Storable.rejoined (storable : Storable bytes) {k : Nat}
    (within : k ≤ (Text.characters bytes).length) :
    Operation.rejoined (.str bytes) k = .ok (.str ((Text.characters bytes).take k).flatten) := by
  induction k with
  | zero => rfl
  | succ k ih =>
    have front := ih (by omega)
    have below : k < (Text.characters bytes).length := by omega
    have next := getchar_of_some (storable.character? below)
    rw [Operation.rejoined, front, List.take_succ_eq_append_getElem below, List.flatten_append,
      List.flatten_singleton]
    simp only [bind, Except.bind, next]
    rfl

theorem Storable.left (storable : Storable (a ++ b)) : Storable a := by
  rw [Storable, List.length_append] at storable
  rw [Storable]
  omega

theorem Storable.right (storable : Storable (a ++ b)) : Storable b := by
  rw [Storable, List.length_append] at storable
  rw [Storable]
  omega

theorem character?_append_left
    (joined : Text.characters (a ++ b) = Text.characters a ++ Text.characters b)
    (inside : Inside a i) : character? (a ++ b) i = character? a i := by
  have below : i.toInt.toNat < (Text.characters a).length := by
    have low := inside.1
    have high := inside.2
    omega
  rw [character?, character?, joined, List.getElem?_append_left below]

theorem character?_append_right
    (joined : Text.characters (a ++ b) = Text.characters a ++ Text.characters b)
    (storable : Storable (a ++ b)) (length : n.toInt = (Text.characters a).length)
    (inside : Inside b i) : character? (a ++ b) (n + i) = character? b i := by
  obtain ⟨low, high⟩ := inside
  have top : ((a ++ b).length : Int) ≤ 9223372036854775807 := storable
  have fewer := Text.length_characters_le (a ++ b)
  rw [joined, List.length_append] at fewer
  -- The joined string is no longer than the greatest integer, so that the sum does not wrap around.
  have index : (n + i).toInt = (Text.characters a).length + i.toInt := by
    rw [Int64.toInt_add, length]
    apply Int.bmod_eq_of_le <;> omega
  have nonneg : 0 ≤ (n + i).toInt := by omega
  have behind : (n + i).toInt.toNat = (Text.characters a).length + i.toInt.toNat := by omega
  rw [character?, character?, if_pos nonneg, if_pos low, behind, joined,
    List.getElem?_append_right (Nat.le_add_right _ _), Nat.add_sub_cancel_left]

/-- The characters of a string partition it. Fetched one by one and joined, they give it back; each is a
string of one character; and fetching fails at the indices below zero and from the length on. What is put
behind a text is a text together with it if it is one alone. The two then have the characters of both, so
that the lengths add up and the indices behind the first go on in the second. -/
theorem characters_partition :
    (∀ s : Bytes, Storable s → ∃ n, strlen (.str s) = .ok (.int n) ∧
      rejoined (.str s) n.toInt.toNat = .ok (.str s) ∧
      ∀ i : Int64,
        (0 ≤ i → i < n → ∃ c k, getchar (.str s) (.int i) = .ok c ∧ strlen c = .ok (.int 1) ∧
          stri2int (.str s) (.int i) = .ok (.int k)) ∧
        (Fails .stringOperation (getchar (.str s) (.int i)) ↔ i < 0 ∨ n ≤ i) ∧
        (Fails .stringOperation (stri2int (.str s) (.int i)) ↔ i < 0 ∨ n ≤ i)) ∧
    ∀ a b : Bytes, Utf8.valid a = true → ∃ t, concat (.str a) (.str b) = .ok (.str t) ∧
      (Utf8.valid t = true ↔ Utf8.valid b = true) ∧
      (Utf8.valid b = true → Text.characters t = Text.characters a ++ Text.characters b ∧
        (Storable t → ∃ n m k, strlen (.str a) = .ok (.int n) ∧ strlen (.str b) = .ok (.int m) ∧
          strlen (.str t) = .ok (.int k) ∧ k.toInt = n.toInt + m.toInt ∧
          (∀ i, 0 ≤ i → i < n →
            getchar (.str t) (.int i) = getchar (.str a) (.int i) ∧
            stri2int (.str t) (.int i) = stri2int (.str a) (.int i)) ∧
          ∀ i, 0 ≤ i → i < m →
            getchar (.str t) (.int (n + i)) = getchar (.str b) (.int i) ∧
            stri2int (.str t) (.int (n + i)) = stri2int (.str b) (.int i))) := by
  constructor
  · intro s storable
    obtain ⟨n, counted, value⟩ := storable.strlen
    have whole : n.toInt.toNat = (Text.characters s).length := by omega
    refine ⟨n, counted, ?_, ?_⟩
    · rw [whole, storable.rejoined (Nat.le_refl _), List.take_length, Text.characters_flatten]
    · intro i
      have range := inside_iff_of_length value i
      have outside : ¬ Inside s i ↔ i < 0 ∨ n ≤ i := by
        rw [range, not_and_or, Int64.not_le, Int64.not_lt]
      refine ⟨?_, fails_fetch_iff.1.trans outside, fails_fetch_iff.2.trans outside⟩
      intro low high
      exact fetch_of_inside (range.mpr ⟨low, high⟩)
  · intro a b textA
    refine ⟨a ++ b, rfl, ?_, ?_⟩
    · obtain ⟨cs, rfl⟩ := Utf8.valid_iff.mp textA
      rw [Utf8.valid_encode_append]
    · intro textB
      have joined := Text.characters_append textA textB
      refine ⟨joined, ?_⟩
      intro storable
      obtain ⟨n, countedA, valueA⟩ := storable.left.strlen
      obtain ⟨m, countedB, valueB⟩ := storable.right.strlen
      obtain ⟨k, countedT, valueT⟩ := storable.strlen
      refine ⟨n, m, k, countedA, countedB, countedT, ?_, ?_, ?_⟩
      · rw [valueT, valueA, valueB, joined, List.length_append, Int.natCast_add]
      · intro i low high
        have inside := (inside_iff_of_length valueA i).mpr ⟨low, high⟩
        exact fetch_congr inside (character?_append_left joined inside)
      · intro i low high
        have inside := (inside_iff_of_length valueB i).mpr ⟨low, high⟩
        exact fetch_congr inside (character?_append_right joined storable valueA inside)

/-- A string that is no text, taken apart and joined; a text with characters of one and two bytes in front
of one with a character of three, and in front of the string. -/
theorem characters_partition_mixedStrings :
    let s : Bytes := [255, 97]
    let a : Bytes := [97, 197, 190]
    let b : Bytes := [226, 130, 172]
    (Storable s ∧ Utf8.valid s = false ∧ strlen (.str s) = .ok (.int 2) ∧
      rejoined (.str s) 2 = .ok (.str s) ∧
      (∃ c k, getchar (.str s) (.int 1) = .ok c ∧ strlen c = .ok (.int 1) ∧
        stri2int (.str s) (.int 1) = .ok (.int k)) ∧
      Fails .stringOperation (getchar (.str s) (.int 2)) ∧
      Fails .stringOperation (stri2int (.str s) (.int (-1)))) ∧
    (Utf8.valid a = true ∧ Utf8.valid b = true ∧ Storable (a ++ b) ∧
      Text.characters (a ++ b) = Text.characters a ++ Text.characters b ∧
      getchar (.str (a ++ b)) (.int 1) = getchar (.str a) (.int 1) ∧
      getchar (.str (a ++ b)) (.int 2) = getchar (.str b) (.int 0)) ∧
    ¬ Utf8.valid (a ++ s) = true := by
  intro s a b
  have storable : Storable s := by decide
  have noText : Utf8.valid s = false := by decide
  have textA : Utf8.valid a = true := by decide
  have textB : Utf8.valid b = true := by decide
  have storableToo : Storable (a ++ b) := by decide
  have two : strlen (.str s) = .ok (.int 2) := by decide
  have twoToo : strlen (.str a) = .ok (.int 2) := by decide
  have one : strlen (.str b) = .ok (.int 1) := by decide
  obtain ⟨parts, joins⟩ := characters_partition
  obtain ⟨n, counted, whole, indices⟩ := parts s storable
  cases two.symm.trans counted
  obtain ⟨t, joined, -, together⟩ := joins a b textA
  cases joined
  obtain ⟨chars, lengths⟩ := together textB
  obtain ⟨n, m, k, countedA, countedB, -, -, front, behind⟩ := lengths storableToo
  cases twoToo.symm.trans countedA
  cases one.symm.trans countedB
  obtain ⟨t, joined, valid, -⟩ := joins a s textA
  cases joined
  refine ⟨⟨storable, noText, two, whole, (indices 1).1 (by decide) (by decide),
    (indices 2).2.1.mpr (by decide), (indices (-1)).2.2.mpr (by decide)⟩,
    ⟨textA, textB, storableToo, chars, (front 1 (by decide) (by decide)).1,
      (behind 0 (by decide) (by decide)).1⟩, ?_⟩
  rw [valid, noText]
  decide

end Operation

end ThreeAddress
