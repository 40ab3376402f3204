import Mathlib.Data.List.Nodup
import ThreeAddress.Proofs.Checks

set_option autoImplicit false

namespace ThreeAddress

namespace Opcode

theorem mem_all (op : Opcode) : op ∈ all := by
  cases op <;> decide

theorem names_nodup : (all.map name).Nodup := by
  decide

theorem lower_name (op : Opcode) : Text.asciiLower op.name = op.name := by
  cases op <;> rfl

theorem ofName?_eq_some_iff {text : String} {op : Opcode} :
    ofName? text = some op ↔ Text.asciiLower text = Text.asciiLower op.name := by
  rw [lower_name, ofName?, ofExactName?]
  constructor
  · intro found
    have same := List.find?_some found
    exact (beq_iff_eq.mp same).symm
  · intro same
    cases found : all.find? fun op => op.name == Text.asciiLower text with
    | none =>
      have other := List.find?_eq_none.mp found op (mem_all op)
      simp [same] at other
    | some other =>
      have otherName := List.find?_some found
      rw [List.inj_on_of_nodup_map names_nodup (mem_all other) (mem_all op)
        ((beq_iff_eq.mp otherName).trans same)]

end Opcode

/-- Reading one thing after the other succeeds if each can be read. -/
theorem collect_ok_iff {α β ε : Type} (one : α → Except ε β) (all : List α → Except ε (List β))
    (nil : all [] = .ok [])
    (cons : ∀ x xs, all (x :: xs) = (one x).bind fun y => (all xs).map (y :: ·))
    (xs : List α) (ys : List β) :
    all xs = .ok ys ↔ List.Forall₂ (fun x y => one x = .ok y) xs ys := by
  induction xs generalizing ys with
  | nil =>
    rw [List.forall₂_nil_left_iff, nil, Except.ok.injEq]
    exact eq_comm
  | cons x xs ih =>
    simp only [List.forall₂_cons_left_iff, ← ih, cons]
    cases one x with
    | error error => simp [Except.bind]
    | ok y =>
      cases all xs with
      | error error => simp [Except.bind, Except.map]
      | ok rest => simp [Except.bind, Except.map, eq_comm]

namespace Argument

/-- The names of the elements that may stand inside an argument: all but two, in any ASCII case. -/
def Unforbidden (arg : Argument) : Prop :=
  ∀ name ∈ arg.nested,
    Text.asciiLower name ≠ "instruction" ∧ Text.asciiLower name ≠ "program"

theorem unforbidden_iff {arg : Argument} :
    arg.Unforbidden ↔ arg.nested.find? isForbidden = none := by
  simp [Unforbidden, List.find?_eq_none, isForbidden]

theorem checkFrom_ok_iff (order : Int64) (seen : List UInt8) (args : List Argument) :
    checkFrom order seen args = .ok () ↔
      (∀ arg ∈ args, arg.Unforbidden ∧ (1 ≤ arg.index ∧ arg.index ≤ 3) ∧ arg.index ∉ seen) ∧
        (args.map Argument.index).Nodup := by
  induction args generalizing seen with
  | nil => simp [checkFrom]
  | cons arg rest ih =>
    rw [checkFrom]
    cases found : arg.nested.find? isForbidden with
    | some element =>
      have forbidden : ¬ arg.Unforbidden := by simp [unforbidden_iff, found]
      simp [forbidden]
    | none =>
      have unforbidden := unforbidden_iff.mpr found
      by_cases inRange : 1 ≤ arg.index ∧ arg.index ≤ 3
      · by_cases known : arg.index ∈ seen
        · simp [inRange, known]
        · simp only [inRange, and_self, not_true_eq_false, ↓reduceIte, known, ih, List.mem_cons,
            not_or, List.map_cons, List.nodup_cons, List.mem_map, forall_eq_or_imp, unforbidden,
            not_false_eq_true, true_and]
          -- Both sides say that the index of `arg` is not in `rest` and no index of `rest` is seen.
          grind
      · simp [inRange]

end Argument

namespace Record

variable {record : Record} {ins : Instruction}

/-- The name of the operation is this one's, but for blanks around it and ASCII case. -/
def Names (record : Record) (op : Opcode) : Prop :=
  Text.asciiLower (Text.trim record.opcode) = Text.asciiLower op.name

/-- The argument with an index reads as an operand. -/
def Gives (record : Record) (index : Nat) (operand : Operand) : Prop :=
  ∃ arg ∈ record.args, arg.index.toNat = index ∧ arg.operand = .ok operand

/-- What can be said of the arguments without reading them: there are at most three, they are numbered
from 1 on in some order, and no forbidden element stands in one. -/
structure Shaped (record : Record) : Prop where
  nested : ∀ arg ∈ record.args, arg.Unforbidden
  few : record.args.length ≤ 3
  indices : (record.args.map fun arg => arg.index.toNat).Perm (List.range' 1 record.args.length)

/-- The instruction that a record stands for. -/
structure Denotes (record : Record) (ins : Instruction) : Prop where
  order : (ins.order.toNat : Int) = record.order.toInt
  op : record.Names ins.op
  count : ins.operands.length = record.args.length
  operands : ∀ place operand,
    ins.operands[place]? = some operand ↔ record.Gives (place + 1) operand

theorem Names.unique {op other : Opcode} (names : record.Names op) (again : record.Names other) :
    op = other := by
  have found := Opcode.ofName?_eq_some_iff.mpr names
  rw [Opcode.ofName?_eq_some_iff.mpr again] at found
  exact (Option.some.inj found).symm

theorem sortedArgs_perm (record : Record) : record.sortedArgs.Perm record.args :=
  List.mergeSort_perm record.args _

theorem sortedArgs_ascending (record : Record) :
    record.sortedArgs.Pairwise fun a b => a.index.toNat ≤ b.index.toNat := by
  have sorted : record.sortedArgs.Pairwise fun a b => decide (a.index ≤ b.index) = true := by
    apply List.pairwise_mergeSort
    · intro a b c first second
      exact decide_eq_true (UInt8.le_trans (of_decide_eq_true first) (of_decide_eq_true second))
    · intro a b
      rw [Bool.or_eq_true, decide_eq_true_eq, decide_eq_true_eq]
      exact UInt8.le_total a.index b.index
  exact sorted.imp fun le => UInt8.le_iff_toNat_le.mp (of_decide_eq_true le)

/-- Sorted arguments are numbered from 1 on if the arguments are, in some order. -/
theorem isNumbered_iff (record : Record) :
    record.isNumbered = true ↔
      (record.args.map fun arg => arg.index.toNat).Perm (List.range' 1 record.args.length) := by
  rw [isNumbered, beq_iff_eq]
  have perm := record.sortedArgs_perm.map fun arg => arg.index.toNat
  constructor
  · intro numbered
    rw [← numbered]
    exact perm.symm
  · intro numbered
    refine (perm.trans numbered).eq_of_pairwise ?_ (List.pairwise_map.mpr record.sortedArgs_ascending)
      (List.pairwise_le_range' 1)
    intro a b _ _
    exact Nat.le_antisymm

theorem checkShape_ok_iff (record : Record) :
    record.checkShape = .ok () ↔ 0 ≤ record.order.toInt ∧ record.Shaped := by
  have negative : record.order < 0 ↔ record.order.toInt < 0 := Int64.lt_iff_toInt_lt
  have numbered := record.isNumbered_iff
  have arguments := Argument.checkFrom_ok_iff record.order [] record.args
  constructor
  · intro passed
    unfold checkShape at passed
    split at passed
    · cases passed
    · rename_i nonnegative
      split at passed
      · cases passed
      · rename_i checked
        split at passed
        · rename_i inOrder
          obtain ⟨each, -⟩ := arguments.mp checked
          have indices := numbered.mp inOrder
          have nonnegative : 0 ≤ record.order.toInt := by
            rw [negative] at nonnegative
            omega
          refine ⟨nonnegative, fun arg member => (each arg member).1, ?_, indices⟩
          -- A fourth argument would have the index 4.
          by_contra many
          have four : 4 ∈ List.range' 1 record.args.length := by
            rw [List.mem_range'_1]
            omega
          obtain ⟨arg, member, index⟩ := List.mem_map.mp (indices.mem_iff.mpr four)
          have le := UInt8.le_iff_toNat_le.mp (each arg member).2.1.2
          change arg.index.toNat ≤ 3 at le
          omega
        · cases passed
  · rintro ⟨nonnegative, shaped⟩
    have distinct : (record.args.map Argument.index).Nodup := by
      have distinct := shaped.indices.nodup_iff.mpr List.nodup_range'
      apply List.Nodup.of_map UInt8.toNat
      rwa [List.map_map]
    have inRange : ∀ arg ∈ record.args, 1 ≤ arg.index ∧ arg.index ≤ 3 := by
      intro arg member
      have index := shaped.indices.mem_iff.mp (List.mem_map_of_mem member)
      have few := shaped.few
      rw [List.mem_range'_1] at index
      rw [UInt8.le_iff_toNat_le, UInt8.le_iff_toNat_le]
      change 1 ≤ arg.index.toNat ∧ arg.index.toNat ≤ 3
      omega
    have checked := arguments.mpr
      ⟨fun arg member => ⟨shaped.nested arg member, inRange arg member, List.not_mem_nil⟩, distinct⟩
    have notNegative : ¬ record.order < 0 := by
      rw [negative]
      omega
    simp only [checkShape, notNegative, ↓reduceIte, checked, numbered.mpr shaped.indices]

/-- The arguments of a shaped record stand at the places that their indices give. -/
theorem Shaped.sortedArgs_getElem? (shaped : record.Shaped) {place : Nat} {arg : Argument} :
    record.sortedArgs[place]? = some arg ↔ arg ∈ record.args ∧ arg.index.toNat = place + 1 := by
  have numbered := beq_iff_eq.mp (record.isNumbered_iff.mpr shaped.indices)
  have index : ∀ {place arg}, record.sortedArgs[place]? = some arg →
      arg.index.toNat = place + 1 := by
    intro place arg found
    obtain ⟨inside, -⟩ := List.getElem?_eq_some_iff.mp found
    rw [record.sortedArgs_perm.length_eq] at inside
    have same := congrArg (fun indices => indices[place]?) numbered
    simp only [List.getElem?_map, found, Option.map_some, List.getElem?_range' inside,
      Option.some.injEq] at same
    omega
  constructor
  · intro found
    exact ⟨record.sortedArgs_perm.mem_iff.mp (List.mem_of_getElem? found), index found⟩
  · rintro ⟨member, here⟩
    obtain ⟨other, found⟩ := List.mem_iff_getElem?.mp (record.sortedArgs_perm.mem_iff.mpr member)
    have there := index found
    obtain rfl : other = place := by omega
    exact found

theorem operands_ok_iff (args : List Argument) (values : List Operand) :
    operands args = .ok values ↔
      List.Forall₂ (fun arg value => arg.operand = .ok value) args values := by
  refine collect_ok_iff Argument.operand operands rfl ?_ args values
  intro arg rest
  rw [operands]
  cases arg.operand <;> rfl

/-- The operands that are read in the order of the indices are those that the record gives. -/
theorem Shaped.operands_ok_iff (shaped : record.Shaped) (values : List Operand) :
    operands record.sortedArgs = .ok values ↔
      values.length = record.args.length ∧
        ∀ place value, values[place]? = some value ↔ record.Gives (place + 1) value := by
  have length := record.sortedArgs_perm.length_eq
  rw [Record.operands_ok_iff, List.forall₂_iff_get]
  constructor
  · rintro ⟨same, each⟩
    refine ⟨by omega, ?_⟩
    intro place value
    constructor
    · intro found
      obtain ⟨inside, rfl⟩ := List.getElem?_eq_some_iff.mp found
      have insideArgs : place < record.sortedArgs.length := by omega
      obtain ⟨member, index⟩ :=
        shaped.sortedArgs_getElem?.mp (List.getElem?_eq_getElem insideArgs)
      exact ⟨_, member, index, each place insideArgs inside⟩
    · rintro ⟨arg, member, index, read⟩
      obtain ⟨insideArgs, rfl⟩ :=
        List.getElem?_eq_some_iff.mp (shaped.sortedArgs_getElem?.mpr ⟨member, index⟩)
      have inside : place < values.length := by omega
      have here := each place insideArgs inside
      rw [List.get_eq_getElem, read] at here
      rw [List.getElem?_eq_getElem inside, Except.ok.inj here]
      rfl
  · rintro ⟨same, each⟩
    refine ⟨by omega, ?_⟩
    intro place insideArgs inside
    obtain ⟨arg, member, index, read⟩ :=
      (each place _).mp (List.getElem?_eq_getElem inside)
    obtain ⟨_, rfl⟩ :=
      List.getElem?_eq_some_iff.mp (shaped.sortedArgs_getElem?.mpr ⟨member, index⟩)
    exact read

theorem lower_ok_iff (record : Record) (ins : Instruction) :
    record.lower = .ok ins ↔
      record.Names ins.op ∧ operands record.sortedArgs = .ok ins.operands ∧
        ins.order = record.number := by
  unfold Names
  rw [← Opcode.ofName?_eq_some_iff, lower]
  cases Opcode.ofName? (Text.trim record.opcode) with
  | none => simp
  | some op =>
    cases operands record.sortedArgs with
    | error error => simp
    | ok values =>
      rcases ins with ⟨order, other, operands⟩
      simp only [Except.ok.injEq, Instruction.mk.injEq, Option.some.injEq]
      constructor
      · rintro ⟨rfl, rfl, rfl⟩
        exact ⟨rfl, rfl, rfl⟩
      · rintro ⟨rfl, rfl, rfl⟩
        exact ⟨rfl, rfl, rfl⟩

theorem number_iff (record : Record) (order : UInt64) :
    0 ≤ record.order.toInt ∧ order = record.number ↔ (order.toNat : Int) = record.order.toInt := by
  have number : record.number.toNat = record.order.toBitVec.toNat := rfl
  have value : record.order.toInt = record.order.toBitVec.toInt := rfl
  have bound := record.order.toBitVec.isLt
  have orderBound := order.toNat_lt
  rw [value, BitVec.toInt_eq_toNat_cond, ← UInt64.toNat_inj, number]
  split <;> omega

/-- A record passes the checks of its shape and is lowered to an instruction if it is shaped and stands
for the instruction. -/
theorem reads_iff (record : Record) (ins : Instruction) :
    record.checkShape = .ok () ∧ record.lower = .ok ins ↔ record.Shaped ∧ record.Denotes ins := by
  rw [checkShape_ok_iff, lower_ok_iff]
  constructor
  · rintro ⟨⟨nonnegative, shaped⟩, names, read, number⟩
    obtain ⟨count, places⟩ := (shaped.operands_ok_iff ins.operands).mp read
    exact ⟨shaped, (record.number_iff ins.order).mp ⟨nonnegative, number⟩, names, count, places⟩
  · rintro ⟨shaped, denotes⟩
    obtain ⟨nonnegative, number⟩ := (record.number_iff ins.order).mpr denotes.order
    have read := (shaped.operands_ok_iff ins.operands).mpr ⟨denotes.count, denotes.operands⟩
    exact ⟨⟨nonnegative, shaped⟩, denotes.op, read, number⟩

end Record

end ThreeAddress
