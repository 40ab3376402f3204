import Mathlib
import ThreeAddress.Proofs.Literals

set_option autoImplicit false

namespace ThreeAddress.Numeral

inductive Sign where
  | absent
  | plus
  | minus
  deriving DecidableEq, Repr

/-- The base of a literal; the letter that marks it may be a capital. -/
inductive Radix where
  | decimal
  | hexadecimal (capital : Bool)
  | octal (capital : Bool)
  deriving DecidableEq, Repr

def Sign.text : Sign → List Char
  | .absent => []
  | .plus => ['+']
  | .minus => ['-']

/-- The integer with a sign and a magnitude. -/
def Sign.apply : Sign → Nat → Int
  | .absent, n => n
  | .plus, n => n
  | .minus, n => -n

def Radix.text : Radix → List Char
  | .decimal => []
  | .hexadecimal capital => ['0', if capital then 'X' else 'x']
  | .octal capital => ['0', if capital then 'O' else 'o']

def Radix.base : Radix → Nat
  | .decimal => 10
  | .hexadecimal _ => 16
  | .octal _ => 8

def Radix.alphabet : Radix → List Char
  | .decimal => "0123456789".toList
  | .hexadecimal _ => "0123456789abcdefABCDEF".toList
  | .octal _ => "01234567".toList

/-- What a digit counts: its place among the digits in lower case. -/
def worth (c : Char) : Nat :=
  "0123456789abcdef".toList.idxOf c.toLower

/-- An integer literal: a sign, the mark of a base and one or more digits of the base. -/
structure Literal where
  sign : Sign
  radix : Radix
  digits : List Char
  nonempty : digits ≠ []
  legal : ∀ c ∈ digits, c ∈ radix.alphabet

namespace Literal

def chars (literal : Literal) : List Char :=
  literal.sign.text ++ (literal.radix.text ++ literal.digits)

def text (literal : Literal) : String :=
  String.ofList literal.chars

/-- The number that the digits denote, the last of them being the least. -/
def magnitude (literal : Literal) : Nat :=
  Nat.ofDigits literal.radix.base (literal.digits.reverse.map worth)

def value (literal : Literal) : Int :=
  literal.sign.apply literal.magnitude

/-- The literal with zeros in front of its digits. -/
def padded (literal : Literal) (zeros : Nat) : Literal where
  sign := literal.sign
  radix := literal.radix
  digits := List.replicate zeros '0' ++ literal.digits
  nonempty := by
    intro empty
    exact literal.nonempty (List.append_eq_nil_iff.mp empty).2
  legal := by
    intro c member
    rcases List.mem_append.mp member with zero | digit
    · rw [List.eq_of_mem_replicate zero]
      cases literal.radix <;> decide +revert
    · exact literal.legal c digit

end Literal

variable {radix : Radix} {c : Char} {cs : List Char}

theorem digit?_of_mem (digit : c ∈ radix.alphabet) : digit? radix.base c = some (worth c) := by
  have table : radix.alphabet.all (fun c => digit? radix.base c == some (worth c)) = true := by
    rcases radix with _ | (_ | _) | (_ | _) <;> decide
  exact beq_iff_eq.mp (List.all_eq_true.mp table c digit)

theorem digit?_of_not_ascii (base : Nat) (high : 128 ≤ c.toNat) : digit? base c = none := by
  have apart (low top : Char) (below : top.toNat < 128) : ¬ (low ≤ c ∧ c ≤ top) := by
    rintro ⟨-, le⟩
    have bound : c.toNat ≤ top.toNat := le
    omega
  simp only [digit?, apart '0' '9' (by decide), apart 'a' 'f' (by decide), apart 'A' 'F' (by decide),
    ↓reduceIte, Option.filter_none]

theorem mem_of_digit? {d : Nat} (read : digit? radix.base c = some d) : c ∈ radix.alphabet := by
  have table : ∀ n < 128, digit? radix.base (Char.ofNat n) ≠ none →
      Char.ofNat n ∈ radix.alphabet := by
    clear read
    rcases radix with _ | (_ | _) | (_ | _) <;> decide
  have ascii : c.toNat < 128 := by
    by_contra high
    rw [digit?_of_not_ascii radix.base (by omega)] at read
    cases read
  have digit := table c.toNat ascii
  rw [Char.ofNat_toNat] at digit
  exact digit (by rw [read]; nofun)

theorem Radix.base_pos (radix : Radix) : 0 < radix.base := by
  cases radix <;> exact Nat.succ_pos _

theorem digit?_of_not_mem (other : c ∉ radix.alphabet) : digit? radix.base c = none := by
  rw [Option.eq_none_iff_forall_ne_some]
  intro d read
  exact other (mem_of_digit? read)

/-- Digits behind a number move it up and fill the places below it. No number on the way is larger than
the last, so that the bound asks nothing but of the last. -/
theorem digitsFrom?_eq_some_iff {value n : Nat} (within : value ≤ widest) :
    digitsFrom? radix.base value cs = some n ↔
      (∀ c ∈ cs, c ∈ radix.alphabet) ∧
        n = value * radix.base ^ cs.length + Nat.ofDigits radix.base (cs.reverse.map worth) ∧
        n ≤ widest := by
  induction cs generalizing value with
  | nil =>
    simp only [digitsFrom?, Option.some.injEq, List.not_mem_nil, false_implies, implies_true,
      List.length_nil, Nat.pow_zero, Nat.mul_one, List.reverse_nil, List.map_nil, Nat.ofDigits_nil,
      Nat.add_zero, true_and]
    constructor
    · rintro rfl
      exact ⟨rfl, within⟩
    · exact fun same => same.1.symm
  | cons c cs ih =>
    have places : Nat.ofDigits radix.base ((c :: cs).reverse.map worth) =
        Nat.ofDigits radix.base (cs.reverse.map worth) + radix.base ^ cs.length * worth c := by
      rw [List.reverse_cons, List.map_append, Nat.ofDigits_append, List.map_singleton,
        Nat.ofDigits_singleton, List.length_map, List.length_reverse]
    have moved : value * radix.base ^ (cs.length + 1) + (Nat.ofDigits radix.base
          (cs.reverse.map worth) + radix.base ^ cs.length * worth c) =
        (value * radix.base + worth c) * radix.base ^ cs.length +
          Nat.ofDigits radix.base (cs.reverse.map worth) := by
      ring
    rw [List.forall_mem_cons, places, List.length_cons, moved]
    by_cases digit : c ∈ radix.alphabet
    · by_cases next : value * radix.base + worth c ≤ widest
      · simp only [digitsFrom?, digit?_of_mem digit, if_pos next, ih next, digit, true_and]
      · have grown : value * radix.base + worth c ≤
            (value * radix.base + worth c) * radix.base ^ cs.length :=
          Nat.le_mul_of_pos_right _ (Nat.pow_pos radix.base_pos)
        simp only [digitsFrom?, digit?_of_mem digit, if_neg next, reduceCtorEq, false_iff, not_and]
        intro _ same
        omega
    · simp [digitsFrom?, digit?_of_not_mem digit, digit]

theorem digits?_eq_some_iff {n : Nat} :
    digits? radix.base cs = some n ↔
      cs ≠ [] ∧ (∀ c ∈ cs, c ∈ radix.alphabet) ∧
        n = Nat.ofDigits radix.base (cs.reverse.map worth) ∧ n ≤ widest := by
  cases cs with
  | nil => simp [digits?]
  | cons c cs =>
    show digitsFrom? radix.base 0 (c :: cs) = some n ↔ _
    rw [digitsFrom?_eq_some_iff (Nat.zero_le widest), Nat.zero_mul, Nat.zero_add]
    simp

theorem isDigit_of_decimal (digit : c ∈ Radix.decimal.alphabet) : c.isDigit = true := by
  have table : Radix.decimal.alphabet.all Char.isDigit = true := by decide
  exact List.all_eq_true.mp table c digit

theorem exists_radix {n : Nat} :
    magnitude? cs = some n → ∃ (radix : Radix) (digits : List Char),
      cs = radix.text ++ digits ∧ digits? radix.base digits = some n := by
  fun_cases magnitude? cs with
  | case1 digits => exact fun read => ⟨.hexadecimal false, digits, rfl, read⟩
  | case2 digits => exact fun read => ⟨.hexadecimal true, digits, rfl, read⟩
  | case3 digits => exact fun read => ⟨.octal false, digits, rfl, read⟩
  | case4 digits => exact fun read => ⟨.octal true, digits, rfl, read⟩
  | case5 => exact fun read => ⟨.decimal, cs, rfl, read⟩

theorem integer?_of_unsigned (noMinus : cs.head? ≠ some '-') (noPlus : cs.head? ≠ some '+') :
    integer? cs = (magnitude? cs).map Int.ofNat := by
  fun_cases integer? cs with
  | case1 => exact absurd rfl noMinus
  | case2 => exact absurd rfl noPlus
  | case3 => rfl

namespace Literal

theorem digits?_eq_some (literal : Literal) {n : Nat} :
    digits? literal.radix.base literal.digits = some n ↔ n = literal.magnitude ∧ n ≤ widest := by
  rw [digits?_eq_some_iff]
  exact ⟨fun read => read.2.2, fun same => ⟨literal.nonempty, literal.legal, same⟩⟩

theorem magnitude?_eq_some (literal : Literal) {n : Nat} :
    magnitude? (literal.radix.text ++ literal.digits) = some n ↔
      n = literal.magnitude ∧ n ≤ widest := by
  rw [← literal.digits?_eq_some]
  have legal := literal.legal
  cases radix : literal.radix with
  | decimal =>
    rw [radix] at legal
    have decimal : ∀ c ∈ literal.digits, c.isDigit = true :=
      fun c member => isDigit_of_decimal (legal c member)
    rw [Radix.text, List.nil_append, magnitude?_of_isDigit decimal]
    rfl
  | hexadecimal capital => cases capital <;> rfl
  | octal capital => cases capital <;> rfl

/-- Behind the sign, a literal begins with a digit. -/
theorem head_isDigit (literal : Literal) :
    ∀ c, (literal.radix.text ++ literal.digits).head? = some c → c.isDigit = true := by
  intro c head
  have legal := literal.legal
  cases radix : literal.radix with
  | decimal =>
    rw [radix, Radix.text, List.nil_append] at head
    rw [radix] at legal
    exact isDigit_of_decimal (legal c (List.mem_of_head? head))
  | hexadecimal capital | octal capital =>
    rw [radix] at head
    cases head
    rfl

theorem integer?_chars (literal : Literal) :
    integer? literal.chars =
      (magnitude? (literal.radix.text ++ literal.digits)).map literal.sign.apply := by
  cases sign : literal.sign with
  | absent =>
    have digit := literal.head_isDigit
    have unsigned : integer? (literal.radix.text ++ literal.digits) =
        (magnitude? (literal.radix.text ++ literal.digits)).map Int.ofNat := by
      apply integer?_of_unsigned
      · intro minus
        cases digit '-' minus
      · intro plus
        cases digit '+' plus
    rw [chars, sign, Sign.text, List.nil_append, unsigned]
    rfl
  | plus =>
    rw [chars, sign]
    rfl
  | minus =>
    rw [chars, sign]
    simp only [Sign.text, List.singleton_append, integer?]
    cases magnitude? (literal.radix.text ++ literal.digits) <;> rfl

theorem integer?_chars_eq_some (literal : Literal) {n : Int} :
    integer? literal.chars = some n ↔ n = literal.value ∧ literal.magnitude ≤ widest := by
  simp only [integer?_chars, Option.map_eq_some_iff, magnitude?_eq_some]
  constructor
  · rintro ⟨m, ⟨rfl, within⟩, rfl⟩
    exact ⟨rfl, within⟩
  · rintro ⟨rfl, within⟩
    exact ⟨literal.magnitude, ⟨rfl, within⟩, rfl⟩

end Literal

/-- What is read as an integer is a literal. -/
theorem exists_literal {n : Int} :
    integer? cs = some n → ∃ literal : Literal, literal.chars = cs := by
  have literalOf (sign : Sign) {rest : List Char} {m : Nat} (denoted : magnitude? rest = some m) :
      ∃ literal : Literal, literal.chars = sign.text ++ rest := by
    obtain ⟨radix, digits, rfl, found⟩ := exists_radix denoted
    obtain ⟨nonempty, legal, -⟩ := digits?_eq_some_iff.mp found
    exact ⟨⟨sign, radix, digits, nonempty, legal⟩, rfl⟩
  fun_cases integer? cs with
  | case1 rest =>
    intro read
    cases denoted : magnitude? rest with
    | none =>
      rw [denoted] at read
      cases read
    | some m => exact literalOf .minus denoted
  | case2 rest =>
    intro read
    obtain ⟨m, denoted, -⟩ := Option.map_eq_some_iff.mp read
    exact literalOf .plus denoted
  | case3 =>
    intro read
    obtain ⟨m, denoted, -⟩ := Option.map_eq_some_iff.mp read
    exact literalOf .absent denoted

theorem fits_iff {n : Int} : fits n = true ↔ -2 ^ 63 ≤ n ∧ n ≤ 2 ^ 63 - 1 := by
  rw [fits, Bool.and_eq_true, decide_eq_true_iff, decide_eq_true_iff]
  rfl

theorem parse?_eq_some_iff {text : String} {n : Int64} :
    parse? text = some n ↔ integer? text.toList = some n.toInt := by
  rw [parse?, Option.map_eq_some_iff]
  constructor
  · rintro ⟨value, read, rfl⟩
    obtain ⟨found, fit⟩ := Option.filter_eq_some_iff.mp read
    have range := fits_iff.mp fit
    rw [found, Int64.toInt_ofInt_of_le range.1 (by omega)]
  · intro read
    refine ⟨n.toInt, Option.filter_eq_some_iff.mpr ⟨read, fits_toInt n⟩, Int64.ofInt_toInt n⟩

theorem Literal.toList_text (literal : Literal) : literal.text.toList = literal.chars :=
  String.toList_ofList

theorem parse_int_eq_ok_iff {text : String} {operand : Operand} :
    Operand.parse "int" text = .ok operand ↔
      ∃ n, operand = .int n ∧ integer? text.toList = some n.toInt := by
  simp only [Operand.parse, ← parse?_eq_some_iff]
  cases parse? text with
  | none => simp
  | some n => simp [eq_comm]

theorem parse_int_of_not_ok {text : String}
    (refused : ∀ operand, Operand.parse "int" text ≠ .ok operand) :
    Operand.parse "int" text = .error (.badInt text) := by
  simp only [Operand.parse] at refused ⊢
  cases read : parse? text with
  | none => rfl
  | some n =>
    rw [read] at refused
    exact absurd rfl (refused _)

/-- The integers of 64 bits are those in the range. -/
theorem exists_toInt_iff {n : Int} : (∃ k : Int64, k.toInt = n) ↔ -2 ^ 63 ≤ n ∧ n ≤ 2 ^ 63 - 1 := by
  constructor
  · rintro ⟨k, rfl⟩
    exact fits_iff.mp (fits_toInt k)
  · rintro ⟨low, high⟩
    exact ⟨Int64.ofInt n, Int64.toInt_ofInt_of_le low (by omega)⟩

/-- A literal of an integer of 64 bits is read within 128 bits. -/
theorem Literal.magnitude_le (literal : Literal)
    (range : -2 ^ 63 ≤ literal.value ∧ literal.value ≤ 2 ^ 63 - 1) : literal.magnitude ≤ widest := by
  unfold widest
  rw [value] at range
  cases sign : literal.sign <;> rw [sign] at range <;> simp only [Sign.apply] at range <;> omega

/-- A literal is read as the integer that it denotes. -/
theorem Literal.parse_text (literal : Literal) (operand : Operand) :
    Operand.parse "int" literal.text = .ok operand ↔
      ∃ n : Int64, operand = .int n ∧ n.toInt = literal.value := by
  simp only [parse_int_eq_ok_iff, toList_text, integer?_chars_eq_some]
  refine exists_congr fun n => and_congr_right fun _ => and_iff_left_of_imp ?_
  intro value
  exact literal.magnitude_le (exists_toInt_iff.mp ⟨n, value⟩)

theorem Literal.padded_value (literal : Literal) (zeros : Nat) :
    (literal.padded zeros).value = literal.value := by
  have zero : worth '0' = 0 := by decide
  have same : (literal.padded zeros).magnitude = literal.magnitude := by
    simp only [magnitude, padded, List.reverse_append, List.reverse_replicate, List.map_append,
      List.map_replicate, zero, Nat.ofDigits_append_replicate_zero]
  rw [value, value, same]
  rfl

/-- Integer literals. A text is read as an integer operand exactly if it is a literal of an integer of 64
bits, and is read as that integer; a literal of any other integer is refused. Zeros in front of the
digits change nothing. The number that is kept while digits are read never leaves 128 bits for a literal
of such an integer, and where it does the digits denote a larger one. -/
theorem integer_literals (text : String) :
    ((∃ operand, Operand.parse "int" text = .ok operand) ↔
        ∃ literal : Literal, literal.text = text ∧
          -2 ^ 63 ≤ literal.value ∧ literal.value ≤ 2 ^ 63 - 1) ∧
      ∀ literal : Literal, literal.text = text →
        (∀ operand, Operand.parse "int" text = .ok operand ↔
          ∃ n : Int64, operand = .int n ∧ n.toInt = literal.value) ∧
        (literal.value < -2 ^ 63 ∨ 2 ^ 63 - 1 < literal.value →
          Operand.parse "int" text = .error (.badInt text)) ∧
        (∀ zeros, ∀ operand, Operand.parse "int" (literal.padded zeros).text = .ok operand ↔
          Operand.parse "int" text = .ok operand) ∧
        (-2 ^ 63 ≤ literal.value ∧ literal.value ≤ 2 ^ 63 - 1 →
          digits? literal.radix.base literal.digits = some literal.magnitude) ∧
        ∀ n, digits? literal.radix.base literal.digits = some n ↔
          n = literal.magnitude ∧ n ≤ 2 ^ 127 - 1 := by
  refine ⟨⟨?_, ?_⟩, ?_⟩
  · rintro ⟨operand, read⟩
    obtain ⟨n, -, found⟩ := parse_int_eq_ok_iff.mp read
    obtain ⟨literal, chars⟩ := exists_literal found
    rw [← chars, literal.integer?_chars_eq_some] at found
    refine ⟨literal, ?_, exists_toInt_iff.mp ⟨n, found.1⟩⟩
    rw [Literal.text, chars, String.ofList_toList]
  · rintro ⟨literal, rfl, range⟩
    obtain ⟨n, value⟩ := exists_toInt_iff.mpr range
    exact ⟨.int n, (literal.parse_text _).mpr ⟨n, rfl, value⟩⟩
  · rintro literal rfl
    refine ⟨literal.parse_text, ?_, ?_, ?_, fun n => literal.digits?_eq_some⟩
    · intro outside
      apply parse_int_of_not_ok
      intro operand read
      obtain ⟨n, -, value⟩ := (literal.parse_text operand).mp read
      have range := exists_toInt_iff.mp ⟨n, value⟩
      omega
    · intro zeros operand
      rw [Literal.parse_text, Literal.parse_text, Literal.padded_value]
    · intro range
      exact literal.digits?_eq_some.mpr ⟨rfl, literal.magnitude_le range⟩

theorem legal_of_all (legal : cs.all radix.alphabet.contains = true) :
    ∀ c ∈ cs, c ∈ radix.alphabet :=
  fun c member => List.contains_iff_mem.mp (List.all_eq_true.mp legal c member)

/-- The least integer, in hexadecimal. -/
def leastHex : Literal where
  sign := .minus
  radix := .hexadecimal true
  digits := "8000000000000000".toList
  nonempty := by decide
  legal := legal_of_all (by decide)

def belowLeast : Literal where
  sign := .minus
  radix := .decimal
  digits := "9223372036854775809".toList
  nonempty := by decide
  legal := legal_of_all (by decide)

/-- The least integer is read, behind zeros too, and the one below it is not. -/
theorem integer_literals_least :
    leastHex.text = "-0X8000000000000000" ∧
      Operand.parse "int" "-0X8000000000000000" = .ok (.int Int64.minValue) ∧
      Operand.parse "int" "-0X008000000000000000" = .ok (.int Int64.minValue) ∧
      belowLeast.text = "-9223372036854775809" ∧
      Operand.parse "int" "-9223372036854775809" = .error (.badInt "-9223372036854775809") := by
  have value : leastHex.value = -2 ^ 63 := by decide
  have valueToo : belowLeast.value = -2 ^ 63 - 1 := by decide
  obtain ⟨read, -, zeros, -⟩ := (integer_literals "-0X8000000000000000").2 leastHex rfl
  obtain ⟨-, refused, -⟩ := (integer_literals "-9223372036854775809").2 belowLeast rfl
  have least := (read _).mpr ⟨Int64.minValue, rfl, value.symm⟩
  exact ⟨rfl, least, (zeros 2 _).mpr least, rfl, refused (by omega)⟩

end ThreeAddress.Numeral
