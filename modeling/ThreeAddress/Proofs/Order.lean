import Mathlib.Data.List.Permutation
import ThreeAddress.Proofs.Checks

set_option autoImplicit false

namespace ThreeAddress.Program

/-- Instructions with distinct numbers can be put in ascending order in one way. -/
theorem sortInstructions_eq_of_perm {instructions permuted : List Instruction}
    (same : instructions.Perm permuted) (distinct : (instructions.map Instruction.order).Nodup) :
    sortInstructions instructions = sortInstructions permuted := by
  have distinctPermuted := (same.map Instruction.order).nodup_iff.mp distinct
  have permuted := (sortInstructions_perm instructions).trans
    (same.trans (sortInstructions_perm permuted).symm)
  refine permuted.eq_of_pairwise ?_ (sortInstructions_ascending distinct)
    (sortInstructions_ascending distinctPermuted)
  intro a b memberA memberB less greater
  exact absurd greater (UInt64.lt_asymm less)

/-- Whether a program can be made of instructions does not depend on their order. -/
theorem exists_build_iff (instructions : List Instruction) :
    (∃ program, build instructions = .ok program) ↔
      (∀ ins ∈ instructions, ins.WellFormed) ∧ (instructions.map Instruction.order).Nodup ∧
        (instructions.filterMap Instruction.definedLabel?).Nodup ∧
        ∀ ins ∈ instructions, ∀ label, ins.targetLabel? = some label →
          ∃ mark ∈ instructions, mark.definedLabel? = some label := by
  have labels := (sortInstructions_perm instructions).filterMap Instruction.definedLabel?
  simp only [← List.mem_filterMap, ← labels.nodup_iff, ← labels.mem_iff]
  constructor
  · rintro ⟨program, built⟩
    obtain ⟨distinct, formed, unique, known, sorted⟩ := (build_ok_iff instructions program).mp built
    simp only [Program.labels, definedLabels, sorted] at unique known
    exact ⟨formed, distinct, unique, known⟩
  · rintro ⟨formed, distinct, unique, known⟩
    have arranged : arrange instructions = .ok (sortInstructions instructions) :=
      (arrange_ok_iff _ _).mpr ⟨distinct, formed, unique, known, rfl⟩
    exact ⟨⟨_, checked_of_arrange arranged⟩, build_eq_ok_iff.mpr arranged⟩

section

variable {program : Program} {i j : Nat}

theorem order_lt_of_lt {a b : Instruction} (foundA : program.get? i = some a)
    (foundB : program.get? j = some b) (before : i < j) : a.order < b.order := by
  rw [get?_eq_getElem?] at foundA foundB
  obtain ⟨insideA, rfl⟩ := List.getElem?_eq_some_iff.mp foundA
  obtain ⟨insideB, rfl⟩ := List.getElem?_eq_some_iff.mp foundB
  exact List.pairwise_iff_getElem.mp program.checked.ascending i j insideA insideB before

/-- Indices are ordered as the numbers of their instructions are. -/
theorem order_lt_iff {a b : Instruction} (foundA : program.get? i = some a)
    (foundB : program.get? j = some b) : a.order < b.order ↔ i < j := by
  refine ⟨?_, order_lt_of_lt foundA foundB⟩
  intro less
  rcases Nat.lt_trichotomy i j with before | rfl | behind
  · exact before
  · rw [foundA] at foundB
    cases foundB
    exact absurd less (UInt64.lt_irrefl a.order)
  · exact absurd less (UInt64.lt_asymm (order_lt_of_lt foundB foundA behind))

theorem index_unique {ins : Instruction} (found : program.get? i = some ins)
    (again : program.get? j = some ins) : i = j := by
  rcases Nat.lt_trichotomy i j with before | same | behind
  · exact absurd (order_lt_of_lt found again before) (UInt64.lt_irrefl ins.order)
  · exact same
  · exact absurd (order_lt_of_lt again found behind) (UInt64.lt_irrefl ins.order)

end

end ThreeAddress.Program
