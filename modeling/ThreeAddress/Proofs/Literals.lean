import ThreeAddress.Operand
import ThreeAddress.Proofs.Encoding

set_option autoImplicit false

namespace ThreeAddress

namespace Text

/-- A character that shows and is no blank: one of the ASCII characters above the space. -/
def Visible (c : Char) : Prop :=
  32 < c.toNat ∧ c.toNat < 127

instance (c : Char) : Decidable (Visible c) :=
  inferInstanceAs (Decidable (_ ∧ _))

theorem isBlank_of_visible {c : Char} (visible : Visible c) : isBlank c = false := by
  have low := visible.1
  have high := visible.2
  simp only [isBlank, Bool.or_eq_false_iff, Bool.and_eq_false_iff, decide_eq_false_iff_not,
    beq_eq_false_iff_ne]
  omega

/-- There is nothing to trim off a text without blanks. -/
theorem trim_of_visible {text : String} (visible : ∀ c ∈ text.toList, Visible c) :
    trim text = text := by
  have kept : ∀ cs : List Char, (∀ c ∈ cs, Visible c) → cs.dropWhile isBlank = cs := by
    intro cs shown
    cases cs with
    | nil => rfl
    | cons c cs =>
      apply List.dropWhile_cons_of_neg
      rw [isBlank_of_visible (shown c List.mem_cons_self)]
      exact Bool.false_ne_true
  have reversed : ∀ c ∈ text.toList.reverse, Visible c := by
    intro c member
    exact visible c (List.mem_reverse.mp member)
  rw [trim, trimBlank, kept _ visible, kept _ reversed, List.reverse_reverse, String.ofList_toList]

theorem isDigit_bounds {c : Char} (digit : c.isDigit = true) : '0' ≤ c ∧ c ≤ '9' := by
  simpa [Char.isDigit, Char.le_def] using digit

theorem visible_of_isDigit {c : Char} (digit : c.isDigit = true) : Visible c := by
  have bounds := isDigit_bounds digit
  have low : 48 ≤ c.toNat := bounds.1
  have high : c.toNat ≤ 57 := bounds.2
  constructor <;> omega

theorem visible_of_isAlpha {c : Char} (letter : c.isAlpha = true) : Visible c := by
  have ranges : (65 ≤ c.toNat ∧ c.toNat ≤ 90) ∨ (97 ≤ c.toNat ∧ c.toNat ≤ 122) := by
    simpa [Char.isAlpha, Char.isUpper, Char.isLower, UInt32.le_iff_toNat_le] using letter
  constructor <;> omega

theorem visible_of_isNameStart {c : Char} (starts : isNameStart c = true) : Visible c := by
  rw [isNameStart, Bool.or_eq_true, decide_eq_true_iff] at starts
  rcases starts with letter | mark
  · exact visible_of_isAlpha letter
  · have marks : ∀ c ∈ ['_', '-', '$', '&', '%', '*', '!', '?'], Visible c := by simp [Visible]
    exact marks c mark

theorem visible_of_isName {cs : List Char} (name : isName cs = true) : ∀ c ∈ cs, Visible c := by
  cases cs with
  | nil => simp
  | cons first rest =>
    rw [isName, Bool.and_eq_true, List.all_eq_true] at name
    rw [List.forall_mem_cons]
    refine ⟨visible_of_isNameStart name.1, ?_⟩
    intro c member
    have goesOn := name.2 c member
    rw [isNameRest, Bool.or_eq_true] at goesOn
    rcases goesOn with start | digit
    · exact visible_of_isNameStart start
    · exact visible_of_isDigit digit

theorem visible_append {front back : String} (first : ∀ c ∈ front.toList, Visible c)
    (second : ∀ c ∈ back.toList, Visible c) : ∀ c ∈ (front ++ back).toList, Visible c := by
  rw [String.toList_append, List.forall_mem_append]
  exact ⟨first, second⟩

end Text

namespace Numeral

theorem digit?_of_isDigit {c : Char} (digit : c.isDigit = true) :
    digit? 10 c = some (c.toNat - '0'.toNat) := by
  have bounds := Text.isDigit_bounds digit
  have below : c.toNat - '0'.toNat < 10 := by
    have high : c.toNat ≤ '9'.toNat := bounds.2
    simp only [Char.reduceToNat] at high ⊢
    omega
  simp only [digit?, bounds, and_self, ↓reduceIte, Option.filter_some, below, decide_true]

theorem le_ofDigitChars (cs : List Char) (value : Nat) : value ≤ Nat.ofDigitChars 10 cs value := by
  induction cs generalizing value with
  | nil => exact Nat.le_refl value
  | cons c rest ih =>
    rw [Nat.ofDigitChars_cons]
    have grown := ih (10 * value + (c.toNat - '0'.toNat))
    omega

theorem digitsFrom?_of_isDigit {cs : List Char} (digits : ∀ c ∈ cs, c.isDigit = true) {value : Nat}
    (bounded : Nat.ofDigitChars 10 cs value ≤ widest) :
    digitsFrom? 10 value cs = some (Nat.ofDigitChars 10 cs value) := by
  induction cs generalizing value with
  | nil => rfl
  | cons c rest ih =>
    rw [List.forall_mem_cons] at digits
    rw [Nat.ofDigitChars_cons, Nat.mul_comm] at bounded ⊢
    have within := Nat.le_trans (le_ofDigitChars rest _) bounded
    simp only [digitsFrom?, digit?_of_isDigit digits.1, if_pos within]
    exact ih digits.2 bounded

theorem digits?_of_isDigit {cs : List Char} (nonempty : cs ≠ [])
    (digits : ∀ c ∈ cs, c.isDigit = true) (bounded : Nat.ofDigitChars 10 cs 0 ≤ widest) :
    digits? 10 cs = some (Nat.ofDigitChars 10 cs 0) := by
  cases cs with
  | nil => exact absurd rfl nonempty
  | cons c rest => exact digitsFrom?_of_isDigit digits bounded

theorem digits?_repr {n : Nat} (bounded : n ≤ widest) : digits? 10 n.repr.toList = some n := by
  have digits : ∀ c ∈ Nat.toDigits 10 n, c.isDigit = true := by
    intro c member
    exact Nat.isDigit_of_mem_toDigits (by decide) (by decide) member
  have value : Nat.ofDigitChars 10 (Nat.toDigits 10 n) 0 = n :=
    Nat.ofDigitChars_toDigits (by decide) (by decide)
  have read := digits?_of_isDigit Nat.toDigits_ne_nil digits (by rwa [value])
  rwa [value, ← Nat.toList_repr] at read

theorem isDigit_of_mem_repr {n : Nat} {c : Char} (member : c ∈ n.repr.toList) : c.isDigit = true := by
  rw [Nat.toList_repr] at member
  exact Nat.isDigit_of_mem_toDigits (by decide) (by decide) member

/-- Digits alone have no mark of another base. -/
theorem magnitude?_of_isDigit {cs : List Char} (digits : ∀ c ∈ cs, c.isDigit = true) :
    magnitude? cs = digits? 10 cs := by
  fun_cases magnitude? cs with
  | case1 | case2 | case3 | case4 =>
    simp [Char.isDigit] at digits
  | case5 => rfl

theorem integer?_of_isDigit {cs : List Char} (digits : ∀ c ∈ cs, c.isDigit = true) :
    integer? cs = (digits? 10 cs).map Int.ofNat := by
  fun_cases integer? cs with
  | case1 | case2 =>
    simp [Char.isDigit] at digits
  | case3 => rw [magnitude?_of_isDigit digits]

theorem integer?_repr {n : Int} (bounded : n.natAbs ≤ widest) :
    integer? n.repr.toList = some n := by
  have digits (m : Nat) : ∀ c ∈ m.repr.toList, c.isDigit = true := fun c => isDigit_of_mem_repr
  cases n with
  | ofNat m =>
    show integer? m.repr.toList = some (Int.ofNat m)
    rw [integer?_of_isDigit (digits m), digits?_repr (n := m) bounded]
    rfl
  | negSucc m =>
    show integer? ("-" ++ m.succ.repr).toList = some (Int.negSucc m)
    rw [String.toList_append]
    show (magnitude? m.succ.repr.toList).map (fun k => -(k : Int)) = some (Int.negSucc m)
    rw [magnitude?_of_isDigit (digits m.succ), digits?_repr (n := m.succ) bounded]
    rfl

theorem fits_toInt (n : Int64) : fits n.toInt = true := by
  have low : Int64.minValue.toInt ≤ n.toInt := n.minValue_le_toInt
  have high : n.toInt ≤ Int64.maxValue.toInt := n.toInt_le
  rw [fits, Bool.and_eq_true, decide_eq_true_iff, decide_eq_true_iff]
  exact ⟨low, high⟩

/-- Decimal writing is undone by the reading of literals, over all of 64 bits. -/
theorem parse?_decimal (n : Int64) : parse? (decimal n) = some n := by
  have low : -2 ^ 63 ≤ n.toInt := n.minValue_le_toInt
  have high : n.toInt ≤ 2 ^ 63 - 1 := n.toInt_le
  have bounded : n.toInt.natAbs ≤ widest := by
    unfold widest
    omega
  rw [parse?, decimal, integer?_repr bounded, Option.filter_some, fits_toInt]
  simp

theorem visible_of_mem_repr {n : Nat} {c : Char} (member : c ∈ n.repr.toList) : Text.Visible c :=
  Text.visible_of_isDigit (isDigit_of_mem_repr member)

theorem visible_of_mem_decimal {n : Int64} {c : Char} (member : c ∈ (decimal n).toList) :
    Text.Visible c := by
  rw [decimal] at member
  generalize n.toInt = value at member
  cases value with
  | ofNat m => exact visible_of_mem_repr member
  | negSucc m =>
    have parts : c ∈ ("-" ++ m.succ.repr).toList := member
    rw [String.toList_append, List.mem_append] at parts
    rcases parts with sign | digit
    · rw [List.mem_singleton.mp sign]
      decide
    · exact visible_of_mem_repr digit

end Numeral

namespace Escape

theorem isPlain_iff {b : UInt8} :
    isPlain b = true ↔ 32 < b.toNat ∧ b.toNat < 127 ∧ b.toNat ≠ 35 ∧ b.toNat ≠ 92 := by
  simp only [isPlain, Bool.and_eq_true, decide_eq_true_eq, UInt8.lt_iff_toNat_lt, bne_iff_ne, ne_eq,
    ← UInt8.toNat_inj, backslash, UInt8.reduceToNat, and_assoc]

theorem encodeChar_ascii {b : UInt8} (ascii : b.toNat < 128) :
    Utf8.encodeChar (Char.ofNat b.toNat) = [b] := by
  have valid : b.toNat.isValidChar := by left; omega
  have spells := Utf8.encodeChar_spells (Char.ofNat b.toNat)
  rw [Char.toNat_ofNat, if_pos valid] at spells
  exact spells.unique (.one (by omega) rfl)

theorem visible_digitChar {n : Nat} (below : n < 10) : Text.Visible n.digitChar := by
  revert n
  decide

theorem visible_of_mem_encodeByte {b : UInt8} {c : Char} (member : c ∈ encodeByte b) :
    Text.Visible c := by
  by_cases plain : isPlain b = true
  · have range := isPlain_iff.mp plain
    have valid : b.toNat.isValidChar := by left; omega
    rw [encodeByte, if_pos plain, List.mem_singleton] at member
    rw [member, Text.Visible, Char.toNat_ofNat, if_pos valid]
    omega
  · have byte : b.toNat < 256 := b.toNat_lt
    simp only [encodeByte, plain, Bool.false_eq_true, ↓reduceIte, List.mem_cons, List.not_mem_nil,
      or_false] at member
    rcases member with rfl | rfl | rfl | rfl
    · decide
    · exact visible_digitChar (by omega)
    · exact visible_digitChar (by omega)
    · exact visible_digitChar (by omega)

theorem visible_of_mem_encode {bytes : Bytes} {c : Char} (member : c ∈ (encode bytes).toList) :
    Text.Visible c := by
  rw [encode, String.toList_ofList, List.mem_flatMap] at member
  obtain ⟨b, -, written⟩ := member
  exact visible_of_mem_encodeByte written

end Escape

end ThreeAddress
