import Mathlib
import ThreeAddress.Proofs.Characters

set_option autoImplicit false

namespace ThreeAddress

namespace Operation

/-- The word is the integer up to a multiple of `2 ^ 64`. -/
def StandsFor (n : Int64) (z : Int) : Prop :=
  n.toInt ≡ z [ZMOD 2 ^ 64]

section Words

variable {n m : Int64} {z w : Int}

theorem standsFor_of_bmod (wrapped : n.toInt = z.bmod (2 ^ 64)) : StandsFor n z := by
  rw [StandsFor, wrapped]
  exact Int.bmod_emod

theorem StandsFor.congr (stands : StandsFor n z) (same : z ≡ w [ZMOD 2 ^ 64]) : StandsFor n w :=
  Int.ModEq.trans stands same

/-- An integer that is no larger than words are is the word that stands for it. -/
theorem StandsFor.toInt_eq (stands : StandsFor n z) (low : -9223372036854775808 ≤ z)
    (high : z ≤ 9223372036854775807) : n.toInt = z := by
  have least := n.le_toInt
  have greatest := n.toInt_lt
  have same : n.toInt % 2 ^ 64 = z % 2 ^ 64 := stands
  omega

theorem StandsFor.unique (stands : StandsFor n z) (again : StandsFor m z) : n = m := by
  have same : StandsFor n m.toInt := stands.congr again.symm
  have least := m.le_toInt
  have greatest := m.toInt_lt
  apply Int64.toInt_inj.mp
  apply same.toInt_eq <;> omega

theorem StandsFor.iff_eq (stands : StandsFor n z) (m : Int64) : StandsFor m z ↔ m = n := by
  constructor
  · intro again
    exact again.unique stands
  · intro same
    rw [same]
    exact stands

end Words

/-- The operation on integers of any size that an instruction is for. A quotient is truncated toward
zero. -/
inductive Exact : Opcode → (Int → Int → Int) → Prop
  | add : Exact .add (· + ·)
  | sub : Exact .sub (· - ·)
  | mul : Exact .mul (· * ·)
  | idiv : Exact .idiv Int.tdiv

variable {op : Opcode} {f : Int → Int → Int} {a b : Value}

theorem Exact.arithmetic (exact : Exact op f) (x y : Int64) (divisible : ¬ (op = .idiv ∧ y = 0)) :
    ∃ n, Operation.arithmetic op (.int x) (.int y) = .ok (.int n) ∧
      StandsFor n (f x.toInt y.toInt) := by
  cases exact with
  | add => exact ⟨x + y, rfl, standsFor_of_bmod (Int64.toInt_add x y)⟩
  | sub => exact ⟨x - y, rfl, standsFor_of_bmod (Int64.toInt_sub x y)⟩
  | mul => exact ⟨x * y, rfl, standsFor_of_bmod (Int64.toInt_mul x y)⟩
  | idiv =>
    have nonzero : y ≠ 0 := fun zero => divisible ⟨rfl, zero⟩
    refine ⟨x / y, ?_, standsFor_of_bmod (Int64.toInt_div x y)⟩
    simp only [Operation.arithmetic, int, bind, Except.bind, nonzero, ↓reduceIte]
    rfl

theorem exists_int (kind : a.kind? = some .int) : ∃ x, a = .int x := by
  cases a with
  | int x => exact ⟨x, rfl⟩
  | _ => cases kind

theorem int_of_not_int (other : a.kind? ≠ some .int) :
    int op a = .error (.wrongKind op .int a) := by
  cases a with
  | int x => exact absurd rfl other
  | _ => rfl

theorem arithmetic_of_not_int (other : a.kind? ≠ some .int ∨ b.kind? ≠ some .int) :
    Fails .operandType (arithmetic op a b) := by
  by_cases first : a.kind? = some .int
  · have second : b.kind? ≠ some .int := other.resolve_left (not_not.mpr first)
    obtain ⟨x, rfl⟩ := exists_int first
    refine ⟨.wrongKind op .int b, ?_, rfl⟩
    rw [arithmetic, int_of_not_int second]
    rfl
  · refine ⟨.wrongKind op .int a, ?_, rfl⟩
    rw [arithmetic, int_of_not_int first]
    rfl

/-- The kinds of the operands are wrong, or the divisor is zero, or there is a result. -/
theorem Exact.outcome (exact : Exact op f) (a b : Value) :
    ((a.kind? ≠ some .int ∨ b.kind? ≠ some .int) ∧
      Fails .operandType (Operation.arithmetic op a b)) ∨
    (∃ x, a = .int x ∧ b = .int 0 ∧ op = .idiv ∧
      Fails .operandValue (Operation.arithmetic op a b)) ∨
    ∃ x y n, a = .int x ∧ b = .int y ∧ ¬ (op = .idiv ∧ y = 0) ∧
      Operation.arithmetic op a b = .ok (.int n) := by
  by_cases kinds : a.kind? = some .int ∧ b.kind? = some .int
  · obtain ⟨x, rfl⟩ := exists_int kinds.1
    obtain ⟨y, rfl⟩ := exists_int kinds.2
    right
    by_cases zero : op = .idiv ∧ y = 0
    · left
      rw [zero.1, zero.2]
      exact ⟨x, rfl, rfl, rfl, .divisionByZero, rfl, rfl⟩
    · right
      obtain ⟨n, computed, -⟩ := exact.arithmetic x y zero
      exact ⟨x, y, n, rfl, rfl, zero, computed⟩
  · left
    have other := not_and_or.mp kinds
    exact ⟨other, arithmetic_of_not_int other⟩

theorem Exact.fails_operandType_iff (exact : Exact op f) :
    Fails .operandType (Operation.arithmetic op a b) ↔
      a.kind? ≠ some .int ∨ b.kind? ≠ some .int := by
  refine ⟨?_, arithmetic_of_not_int⟩
  intro failed
  rcases exact.outcome a b with ⟨other, -⟩ | ⟨x, -, -, -, again⟩ | ⟨x, y, n, -, -, -, computed⟩
  · exact other
  · cases failed.kind_eq again
  · rw [computed] at failed
    exact absurd failed (not_fails_ok _)

theorem Exact.fails_operandValue_iff (exact : Exact op f) :
    Fails .operandValue (Operation.arithmetic op a b) ↔
      (a.kind? = some .int ∧ b.kind? = some .int) ∧ op = .idiv ∧ b = .int 0 := by
  constructor
  · intro failed
    rcases exact.outcome a b with ⟨-, again⟩ | ⟨x, first, second, divides, -⟩ |
      ⟨x, y, n, -, -, -, computed⟩
    · cases failed.kind_eq again
    · rw [first, second]
      exact ⟨⟨rfl, rfl⟩, divides, rfl⟩
    · rw [computed] at failed
      exact absurd failed (not_fails_ok _)
  · intro zero
    obtain ⟨⟨kind, -⟩, divides, second⟩ := zero
    obtain ⟨x, first⟩ := exists_int kind
    rw [first, second, divides]
    exact ⟨.divisionByZero, rfl, rfl⟩

theorem eq_of_sum {x y s d : Int64} (sum : StandsFor s (x.toInt + y.toInt))
    (difference : StandsFor d (s.toInt - y.toInt)) : d = x := by
  have back : StandsFor d x.toInt := by
    apply difference.congr
    calc s.toInt - y.toInt
        ≡ x.toInt + y.toInt - y.toInt [ZMOD 2 ^ 64] := Int.ModEq.sub_right y.toInt sum
      _ = x.toInt := Int.add_sub_cancel x.toInt y.toInt
  exact back.unique (Int.ModEq.refl x.toInt)

/-- Multiplying and subtracting modulo `2 ^ 64` leaves the exact remainder, whatever the quotient and the
product lost. -/
theorem standsFor_tmod {x y q p r : Int64} (quotient : StandsFor q (x.toInt.tdiv y.toInt))
    (product : StandsFor p (q.toInt * y.toInt)) (rest : StandsFor r (x.toInt - p.toInt)) :
    StandsFor r (x.toInt.tmod y.toInt) := by
  have whole : StandsFor p (x.toInt.tdiv y.toInt * y.toInt) :=
    product.congr (Int.ModEq.mul_right y.toInt quotient)
  apply rest.congr
  calc x.toInt - p.toInt
      ≡ x.toInt - x.toInt.tdiv y.toInt * y.toInt [ZMOD 2 ^ 64] := Int.ModEq.sub_left x.toInt whole
    _ = x.toInt.tmod y.toInt := by rw [Int.tmod_def, Int.mul_comm]

theorem remainder_bounds {x y r : Int64} (nonzero : y ≠ 0)
    (stands : StandsFor r (x.toInt.tmod y.toInt)) :
    (r = 0 ∨ r.toInt.sign = x.toInt.sign) ∧ r.toInt.natAbs < y.toInt.natAbs := by
  have divisor : y.toInt ≠ 0 := fun zero => nonzero (Int64.toInt_inj.mp zero)
  have smaller : (x.toInt.tmod y.toInt).natAbs < y.toInt.natAbs := by
    rw [Int.natAbs_tmod]
    apply Nat.mod_lt
    omega
  -- The remainder is smaller than a word, so that nothing of it is lost.
  have least := y.le_toInt
  have greatest := y.toInt_lt
  have exact : r.toInt = x.toInt.tmod y.toInt := by
    apply stands.toInt_eq <;> omega
  refine ⟨?_, by rw [exact]; exact smaller⟩
  by_cases divides : y.toInt ∣ x.toInt
  · left
    apply Int64.toInt_inj.mp
    rw [exact]
    exact Int.tmod_eq_zero_of_dvd divides
  · right
    rw [exact, Int.sign_tmod, if_neg divides]

/-- Arithmetic is exact modulo `2 ^ 64`. An instruction fails because of the kinds of its operands if one
of them is no integer, and because of their values if it would divide by zero. Otherwise its result is the
one word that stands for the exact result. So subtraction takes back what was added, and the remainder
that a quotient leaves is smaller than the divisor and has the sign of the dividend if it is not zero. -/
theorem arithmetic_modulo :
    (∀ op f, Exact op f → ∀ a b : Value,
      (Fails .operandType (arithmetic op a b) ↔ a.kind? ≠ some .int ∨ b.kind? ≠ some .int) ∧
      (Fails .operandValue (arithmetic op a b) ↔
        (a.kind? = some .int ∧ b.kind? = some .int) ∧ op = .idiv ∧ b = .int 0) ∧
      ∀ x y, a = .int x → b = .int y → ¬ (op = .idiv ∧ y = 0) →
        ∃ n, arithmetic op a b = .ok (.int n) ∧ ∀ m, StandsFor m (f x.toInt y.toInt) ↔ m = n) ∧
    (∀ x y : Int64, ∃ s, arithmetic .add (.int x) (.int y) = .ok s ∧
      arithmetic .sub s (.int y) = .ok (.int x)) ∧
    ∀ x y : Int64, y ≠ 0 → ∃ q p r, arithmetic .idiv (.int x) (.int y) = .ok q ∧
      arithmetic .mul q (.int y) = .ok p ∧ arithmetic .sub (.int x) p = .ok (.int r) ∧
      (r = 0 ∨ r.toInt.sign = x.toInt.sign) ∧ r.toInt.natAbs < y.toInt.natAbs := by
  refine ⟨?_, ?_, ?_⟩
  · intro op f exact a b
    refine ⟨exact.fails_operandType_iff, exact.fails_operandValue_iff, ?_⟩
    intro x y first second divisible
    rw [first, second]
    obtain ⟨n, computed, stands⟩ := exact.arithmetic x y divisible
    exact ⟨n, computed, stands.iff_eq⟩
  · intro x y
    obtain ⟨s, added, sum⟩ := Exact.add.arithmetic x y (by simp)
    obtain ⟨d, subtracted, difference⟩ := Exact.sub.arithmetic s y (by simp)
    refine ⟨.int s, added, ?_⟩
    rw [subtracted, eq_of_sum sum difference]
  · intro x y nonzero
    obtain ⟨q, divided, quotient⟩ := Exact.idiv.arithmetic x y (by simp [nonzero])
    obtain ⟨p, multiplied, product⟩ := Exact.mul.arithmetic q y (by simp)
    obtain ⟨r, subtracted, rest⟩ := Exact.sub.arithmetic x p (by simp)
    exact ⟨.int q, .int p, r, divided, multiplied, subtracted,
      remainder_bounds nonzero (standsFor_tmod quotient product rest)⟩

/-- The greatest word and one more, the least word divided by minus one, and operands that cannot be
divided. -/
theorem arithmetic_modulo_overflowing :
    (∃ n, arithmetic .add (.int Int64.maxValue) (.int 1) = .ok (.int n) ∧ n = Int64.minValue ∧
      ∀ m, StandsFor m (Int64.maxValue.toInt + 1) ↔ m = n) ∧
    (∃ n, arithmetic .idiv (.int Int64.minValue) (.int (-1)) = .ok (.int n) ∧ n = Int64.minValue ∧
      ∀ m, StandsFor m (Int64.minValue.toInt.tdiv (-1)) ↔ m = n) ∧
    ((-1 : Int64) ≠ 0 ∧ ∃ q p r, arithmetic .idiv (.int Int64.minValue) (.int (-1)) = .ok q ∧
      arithmetic .mul q (.int (-1)) = .ok p ∧
      arithmetic .sub (.int Int64.minValue) p = .ok (.int r) ∧
      (r = 0 ∨ r.toInt.sign = Int64.minValue.toInt.sign) ∧ r.toInt.natAbs < 1) ∧
    Fails .operandValue (arithmetic .idiv (.int 7) (.int 0)) ∧
    Fails .operandType (arithmetic .idiv (.int 7) (.str [48])) := by
  obtain ⟨words, -, remainders⟩ := arithmetic_modulo
  have sums := words .add (· + ·) .add (.int Int64.maxValue) (.int 1)
  have quotients := words .idiv Int.tdiv .idiv
  obtain ⟨s, added, sum⟩ := sums.2.2 Int64.maxValue 1 rfl rfl (by decide)
  obtain ⟨q, divided, quotient⟩ :=
    (quotients (.int Int64.minValue) (.int (-1))).2.2 Int64.minValue (-1) rfl rfl (by decide)
  have wrapped : arithmetic .add (.int Int64.maxValue) (.int 1) = .ok (.int Int64.minValue) := by
    decide
  have least :
      arithmetic .idiv (.int Int64.minValue) (.int (-1)) = .ok (.int Int64.minValue) := by decide
  refine ⟨⟨s, added, ?_, sum⟩, ⟨q, divided, ?_, quotient⟩,
    ⟨by decide, remainders Int64.minValue (-1) (by decide)⟩,
    (quotients (.int 7) (.int 0)).2.1.mpr (by decide),
    (quotients (.int 7) (.str [48])).1.mpr (by decide)⟩
  · exact Value.int.inj (Except.ok.inj (added.symm.trans wrapped))
  · exact Value.int.inj (Except.ok.inj (divided.symm.trans least))

end Operation

end ThreeAddress
