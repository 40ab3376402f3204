import Mathlib.Data.List.Forall2
import ThreeAddress.Serial.Record

set_option autoImplicit false

namespace ThreeAddress

namespace Operand

theorem fits_var {operand : Operand} (fit : operand.fits .var = true) :
    ∃ v, operand = .var v := by
  cases operand with
  | var v => exact ⟨v, rfl⟩
  | _ => simp [fits] at fit

theorem fits_label {operand : Operand} (fit : operand.fits .label = true) :
    ∃ label, operand = .label label := by
  cases operand with
  | label label => exact ⟨label, rfl⟩
  | _ => simp [fits] at fit

theorem fits_kind {operand : Operand} (fit : operand.fits .kind = true) :
    ∃ kind, operand = .kind kind := by
  cases operand with
  | kind kind => exact ⟨kind, rfl⟩
  | _ => simp [fits] at fit

theorem label?_eq_some {operand : Operand} {name : String} :
    operand.label? = some name ↔ operand = .label name := by
  cases operand <;> simp [label?]

/-- A variable or constant is a variable or has a value of its own. -/
theorem fits_symb {operand : Operand} (fit : operand.fits .symb = true) :
    (∃ v, operand = .var v) ∨
      ∃ value kind, operand.literal? = some value ∧ value.kind? = some kind := by
  cases operand with
  | var v => exact Or.inl ⟨v, rfl⟩
  | kind | label => simp [fits] at fit
  | _ => exact Or.inr ⟨_, _, rfl, rfl⟩

end Operand

namespace Instruction

variable {ins : Instruction}

theorem wellFormed_iff_forall₂ :
    ins.WellFormed ↔
      List.Forall₂ (fun operand slot => operand.fits slot = true) ins.operands ins.op.signature := by
  rw [← ins.wellFormed_iff, List.forall₂_iff_zip]
  refine and_congr_right fun _ => ⟨fun fit operand slot member => fit (operand, slot) member, ?_⟩
  rintro fit ⟨operand, slot⟩ member
  exact fit member

theorem WellFormed.forall₂ (formed : ins.WellFormed) :
    List.Forall₂ (fun operand slot => operand.fits slot = true) ins.operands ins.op.signature :=
  wellFormed_iff_forall₂.mp formed

theorem WellFormed.one (formed : ins.WellFormed) {slot : Slot}
    (signature : ins.op.signature = [slot]) :
    ∃ a, ins.operands = [a] ∧ a.fits slot = true := by
  have fill := formed.forall₂
  rw [signature] at fill
  obtain ⟨a, rest, fit, empty, operands⟩ := List.forall₂_cons_right_iff.mp fill
  rw [List.forall₂_nil_right_iff.mp empty] at operands
  exact ⟨a, operands, fit⟩

theorem WellFormed.two (formed : ins.WellFormed) {first second : Slot}
    (signature : ins.op.signature = [first, second]) :
    ∃ a b, ins.operands = [a, b] ∧ a.fits first = true ∧ b.fits second = true := by
  have fill := formed.forall₂
  rw [signature] at fill
  obtain ⟨a, rest, fitFirst, fillRest, operands⟩ := List.forall₂_cons_right_iff.mp fill
  obtain ⟨b, rest, fitSecond, empty, rfl⟩ := List.forall₂_cons_right_iff.mp fillRest
  rw [List.forall₂_nil_right_iff.mp empty] at operands
  exact ⟨a, b, operands, fitFirst, fitSecond⟩

theorem WellFormed.three (formed : ins.WellFormed) {first second third : Slot}
    (signature : ins.op.signature = [first, second, third]) :
    ∃ a b c, ins.operands = [a, b, c] ∧ a.fits first = true ∧ b.fits second = true ∧
      c.fits third = true := by
  have fill := formed.forall₂
  rw [signature] at fill
  obtain ⟨a, rest, fitFirst, fillRest, operands⟩ := List.forall₂_cons_right_iff.mp fill
  obtain ⟨b, rest, fitSecond, fillLast, rfl⟩ := List.forall₂_cons_right_iff.mp fillRest
  obtain ⟨c, rest, fitThird, empty, rfl⟩ := List.forall₂_cons_right_iff.mp fillLast
  rw [List.forall₂_nil_right_iff.mp empty] at operands
  exact ⟨a, b, c, operands, fitFirst, fitSecond, fitThird⟩

theorem definedLabel?_eq_some_head? {label : String} :
    ins.definedLabel? = some label ↔
      ins.op = .label ∧ ins.operands.head? = some (.label label) := by
  by_cases op : ins.op = .label <;>
    simp [definedLabel?, label?, op, Option.bind_eq_some_iff, Operand.label?_eq_some]

theorem definedLabel?_eq_some (formed : ins.WellFormed) {label : String} :
    ins.definedLabel? = some label ↔ ins.op = .label ∧ ins.operands = [.label label] := by
  rw [definedLabel?_eq_some_head?]
  refine and_congr_right ?_
  intro op
  obtain ⟨a, operands, -⟩ := formed.one (show ins.op.signature = [.label] by rw [op]; rfl)
  simp [operands]

theorem targetLabel?_eq_some_head? {label : String} :
    ins.targetLabel? = some label ↔
      ins.op.targetsLabel = true ∧ ins.operands.head? = some (.label label) := by
  by_cases targets : ins.op.targetsLabel = true <;>
    simp [targetLabel?, label?, targets, Option.bind_eq_some_iff, Operand.label?_eq_some]

theorem targetLabel?_of_head? {label : String} (targets : ins.op.targetsLabel = true)
    (first : ins.operands.head? = some (.label label)) : ins.targetLabel? = some label :=
  targetLabel?_eq_some_head?.mpr ⟨targets, first⟩

end Instruction

namespace Program

variable {program : Program} {instructions : List Instruction} {ins : Instruction} {index : Nat}
  {label : String}

theorem build_eq_ok_iff :
    build instructions = .ok program ↔ arrange instructions = .ok program.instructions.toList := by
  unfold build
  split
  · rename_i failed
    simp [failed]
  · rename_i sorted arranged
    simp only [arranged, Except.ok.injEq]
    constructor
    · rintro rfl
      rfl
    · rintro rfl
      rfl

theorem build_eq_error_iff {error : BuildError} :
    build instructions = .error error ↔ arrange instructions = .error error := by
  unfold build
  split
  · rename_i failed
    rw [failed, Except.error.injEq, Except.error.injEq]
  · rename_i arranged
    simp [arranged]

theorem build_congr {others : List Instruction} (same : arrange instructions = arrange others) :
    build instructions = build others := by
  cases built : build others with
  | error error => exact build_eq_error_iff.mpr (same.trans (build_eq_error_iff.mp built))
  | ok program => exact build_eq_ok_iff.mpr (same.trans (build_eq_ok_iff.mp built))

theorem build_of_defect {defect : Defect} (failed : checkInstructions [] instructions = .error defect) :
    build instructions = .error (.structural defect) := by
  rw [build_eq_error_iff, arrange, failed]

theorem build_ok_iff (instructions : List Instruction) (program : Program) :
    build instructions = .ok program ↔
      (instructions.map Instruction.order).Nodup ∧ (∀ ins ∈ instructions, ins.WellFormed) ∧
        program.labels.Nodup ∧
        (∀ ins ∈ instructions, ∀ label, ins.targetLabel? = some label → label ∈ program.labels) ∧
        program.instructions.toList = sortInstructions instructions := by
  rw [build_eq_ok_iff, arrange_ok_iff]
  rfl

theorem nodup_orders (program : Program) :
    (program.instructions.toList.map Instruction.order).Nodup := by
  rw [List.Nodup, List.pairwise_map]
  exact program.checked.ascending.imp fun less => UInt64.ne_of_lt less

/-- There are no programs but those that are built. -/
theorem build_toList (program : Program) : build program.instructions.toList = .ok program := by
  rw [build_ok_iff]
  refine ⟨program.nodup_orders, program.checked.formed, program.checked.unique,
    program.checked.defined, ?_⟩
  symm
  apply List.mergeSort_of_pairwise
  exact program.checked.ascending.imp fun less => decide_eq_true (UInt64.le_of_lt less)

theorem ofRecords_eq_ok {records : List Record} (shaped : checkShapes records = .ok ())
    (arranged : (lowerAll records).bind arrange = .ok program.instructions.toList) :
    ofRecords records = .ok program := by
  cases lowered : lowerAll records with
  | error error =>
    rw [lowered] at arranged
    cases arranged
  | ok instructions =>
    rw [lowered] at arranged
    simp only [ofRecords, shaped, lowered, build_eq_ok_iff.mpr arranged]

theorem ofRecords_of_parse {text : String} (parsed : parse text = .ok program) :
    ∃ records, ofRecords records = .ok program := by
  unfold parse at parsed
  split at parsed
  · cases parsed
  · exact ⟨_, parsed⟩

theorem get?_eq_getElem? (program : Program) (index : Nat) :
    program.get? index = program.instructions.toList[index]? := by
  simp [get?]

theorem mem_iff_get? : ins ∈ program.instructions.toList ↔ ∃ index, program.get? index = some ins := by
  simp only [List.mem_iff_getElem?, get?_eq_getElem?]

theorem get?_lt (found : program.get? index = some ins) : index < program.size :=
  (Array.getElem?_eq_some_iff.mp found).1

theorem get?_of_lt (inside : index < program.size) : ∃ ins, program.get? index = some ins :=
  ⟨_, Array.getElem?_eq_getElem inside⟩

theorem formed (found : program.get? index = some ins) : ins.WellFormed :=
  program.checked.formed ins (mem_iff_get?.mpr ⟨index, found⟩)

theorem defined (found : program.get? index = some ins) (targets : ins.targetLabel? = some label) :
    label ∈ program.labels :=
  program.checked.defined ins (mem_iff_get?.mpr ⟨index, found⟩) label targets

/-- A label is defined at one index only. -/
theorem unique {i j : Nat} {a b : Instruction} (foundA : program.get? i = some a)
    (foundB : program.get? j = some b) (labelA : a.definedLabel? = some label)
    (labelB : b.definedLabel? = some label) : i = j := by
  have apart := List.pairwise_iff_getElem.mp (List.pairwise_filterMap.mp program.checked.unique)
  rw [get?_eq_getElem?] at foundA foundB
  obtain ⟨insideA, rfl⟩ := List.getElem?_eq_some_iff.mp foundA
  obtain ⟨insideB, rfl⟩ := List.getElem?_eq_some_iff.mp foundB
  rcases Nat.lt_trichotomy i j with before | same | behind
  · exact absurd rfl (apart i j insideA insideB before label labelA label labelB)
  · exact same
  · exact absurd rfl (apart j i insideB insideA behind label labelB label labelA)

theorem labelPosition?_some (found : program.labelPosition? label = some index) :
    ∃ ins, program.get? index = some ins ∧ ins.definedLabel? = some label := by
  obtain ⟨inside, here, -⟩ := Array.findIdx?_eq_some_iff_getElem.mp found
  exact ⟨_, Array.getElem?_eq_getElem inside, by simpa using here⟩

theorem labelPosition?_of_mem (defined : label ∈ program.labels) :
    ∃ index, program.labelPosition? label = some index := by
  obtain ⟨ins, member, here⟩ := List.mem_filterMap.mp defined
  cases found : program.labelPosition? label with
  | some index => exact ⟨index, rfl⟩
  | none =>
    have absent := Array.findIdx?_eq_none_iff.mp found ins (Array.mem_toList_iff.mp member)
    simp [here] at absent

/-- The place of a label is the one where it is defined. -/
theorem labelPosition?_eq_some_iff :
    program.labelPosition? label = some index ↔
      ∃ ins, program.get? index = some ins ∧ ins.definedLabel? = some label := by
  refine ⟨labelPosition?_some, ?_⟩
  rintro ⟨ins, here, defined⟩
  have known : label ∈ program.labels :=
    List.mem_filterMap.mpr ⟨ins, mem_iff_get?.mpr ⟨index, here⟩, defined⟩
  obtain ⟨other, found⟩ := labelPosition?_of_mem known
  obtain ⟨mark, there, otherDefined⟩ := labelPosition?_some found
  rw [found, unique there here otherDefined defined]

theorem target_found (found : program.get? index = some ins) (targets : ins.op.targetsLabel = true)
    (first : ins.operands.head? = some (.label label)) :
    ∃ target, program.labelPosition? label = some target :=
  labelPosition?_of_mem (defined found (Instruction.targetLabel?_of_head? targets first))

end Program

end ThreeAddress
