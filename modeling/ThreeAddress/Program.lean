import ThreeAddress.Record

set_option autoImplicit false

namespace ThreeAddress

namespace Instruction

/-- The operands of an instruction fill the slots of its operation, one each. -/
structure WellFormed (ins : Instruction) : Prop where
  count : ins.operands.length = ins.op.arity
  fit : ∀ entry ∈ ins.operands.zip ins.op.signature, entry.1.fits entry.2 = true

theorem wellFormed_iff (ins : Instruction) :
    ins.operands.length = ins.op.arity ∧
        (∀ entry ∈ ins.operands.zip ins.op.signature, entry.1.fits entry.2 = true) ↔
      ins.WellFormed :=
  ⟨fun ⟨count, fit⟩ => ⟨count, fit⟩, fun formed => ⟨formed.count, formed.fit⟩⟩

instance decidableWellFormed (ins : Instruction) : Decidable ins.WellFormed :=
  decidable_of_iff _ ins.wellFormed_iff

end Instruction

namespace Program

def checkOperands (ins : Instruction) : Nat → List Operand → List Slot → Except Defect Unit
  | place, operand :: operands, slot :: slots =>
    if operand.fits slot then checkOperands ins (place + 1) operands slots
    else .error (.operandMisfit ins.order ins.op place operand)
  | _, _, _ => .ok ()

/-- The count of the operands goes before what they are. -/
def checkSignature (ins : Instruction) : Except Defect Unit :=
  if ins.operands.length ≠ ins.op.arity then
    .error (.operandCount ins.order ins.op ins.operands.length)
  else checkOperands ins 1 ins.operands ins.op.signature

/-- Checks numbers and operands of the instructions behind those whose numbers were `seen`. -/
def checkInstructions (seen : List UInt64) : List Instruction → Except Defect Unit
  | [] => .ok ()
  | ins :: rest =>
    if ins.order ∈ seen then .error (.duplicateOrder ins.order)
    else
      match checkSignature ins with
      | .error defect => .error defect
      | .ok () => checkInstructions (ins.order :: seen) rest

/-- Checks that no label is defined twice; `seen` holds the labels before, with their numbers. -/
def checkLabels (seen : List (String × UInt64)) : List Instruction → Except BuildError Unit
  | [] => .ok ()
  | ins :: rest =>
    match ins.definedLabel? with
    | none => checkLabels seen rest
    | some label =>
      match seen.find? (fun entry => entry.1 == label) with
      | some (_, first) => .error (.duplicateLabel label first ins.order)
      | none => checkLabels ((label, ins.order) :: seen) rest

def checkTargets (labels : List String) : List Instruction → Except BuildError Unit
  | [] => .ok ()
  | ins :: rest =>
    match ins.targetLabel? with
    | none => checkTargets labels rest
    | some label =>
      if label ∈ labels then checkTargets labels rest else .error (.unknownLabel ins.order label)

def sortInstructions (instructions : List Instruction) : List Instruction :=
  instructions.mergeSort fun a b => a.order ≤ b.order

def definedLabels (instructions : List Instruction) : List String :=
  instructions.filterMap Instruction.definedLabel?

/-- The instructions in the order of their numbers, if they pass the static checks. -/
def arrange (instructions : List Instruction) : Except BuildError (List Instruction) :=
  match checkInstructions [] instructions with
  | .error defect => .error (.structural defect)
  | .ok () =>
    let sorted := sortInstructions instructions
    match checkLabels [] sorted with
    | .error error => .error error
    | .ok () =>
      match checkTargets (definedLabels sorted) sorted with
      | .error error => .error error
      | .ok () => .ok sorted

theorem checkOperands_ok_iff (ins : Instruction) (place : Nat) (operands : List Operand)
    (slots : List Slot) :
    checkOperands ins place operands slots = .ok () ↔
      ∀ entry ∈ operands.zip slots, entry.1.fits entry.2 = true := by
  induction operands generalizing place slots with
  | nil => simp [checkOperands]
  | cons operand operands ih =>
    cases slots with
    | nil => simp [checkOperands]
    | cons slot slots =>
      rw [checkOperands, List.zip_cons_cons, List.forall_mem_cons]
      by_cases fit : operand.fits slot = true
      · simp only [fit, ↓reduceIte, true_and]
        exact ih (place + 1) slots
      · simp [fit]

theorem checkSignature_ok_iff (ins : Instruction) :
    checkSignature ins = .ok () ↔ ins.WellFormed := by
  rw [← ins.wellFormed_iff, checkSignature]
  by_cases same : ins.operands.length = ins.op.arity
  · simp only [same, ne_eq, not_true_eq_false, ↓reduceIte, true_and]
    exact checkOperands_ok_iff ins 1 ins.operands ins.op.signature
  · simp [same]

/-- The checks before sorting: numbers are distinct and operands fill their slots. -/
theorem checkInstructions_ok_iff (seen : List UInt64) (instructions : List Instruction) :
    checkInstructions seen instructions = .ok () ↔
      (instructions.map Instruction.order).Nodup ∧
        (∀ ins ∈ instructions, ins.order ∉ seen) ∧ ∀ ins ∈ instructions, ins.WellFormed := by
  induction instructions generalizing seen with
  | nil => simp [checkInstructions]
  | cons ins rest ih =>
    rw [checkInstructions]
    by_cases known : ins.order ∈ seen
    · simp [known]
    · have formed := checkSignature_ok_iff ins
      cases checked : checkSignature ins with
      | error defect =>
        have wrong : ¬ ins.WellFormed := by simpa [checked] using formed
        simp [known, wrong]
      | ok =>
        have right : ins.WellFormed := by simpa [checked] using formed
        simp only [known, ↓reduceIte, ih, List.map_cons, List.nodup_cons, List.mem_map,
          List.mem_cons, not_or, forall_eq_or_imp, not_false_eq_true, true_and, right]
        -- Both sides say that the number of `ins` is not in `rest` and no number of `rest` is seen.
        grind

theorem checkLabels_ok_iff (seen : List (String × UInt64)) (instructions : List Instruction) :
    checkLabels seen instructions = .ok () ↔
      (definedLabels instructions).Nodup ∧
        ∀ label ∈ definedLabels instructions, label ∉ seen.map Prod.fst := by
  rw [definedLabels]
  induction instructions generalizing seen with
  | nil => simp [checkLabels]
  | cons ins rest ih =>
    rw [checkLabels]
    cases defined : ins.definedLabel? with
    | none => simpa [defined] using ih seen
    | some label =>
      rw [List.filterMap_cons_some defined]
      dsimp only
      have unseen : seen.find? (fun entry => entry.1 == label) = none ↔
          label ∉ seen.map Prod.fst := by
        simp only [List.find?_eq_none, beq_iff_eq, List.mem_map, not_exists, not_and]
      cases found : seen.find? (fun entry => entry.1 == label) with
      | some entry =>
        have known : label ∈ seen.map Prod.fst := by simpa [found] using unseen
        simp only [reduceCtorEq, false_iff]
        rintro ⟨-, unknown⟩
        exact unknown label List.mem_cons_self known
      | none =>
        have fresh := unseen.mp found
        simp only [ih, List.nodup_cons, List.mem_cons, forall_eq_or_imp, fresh, not_false_eq_true,
          true_and, List.map_cons, not_or]
        grind

theorem checkTargets_ok_iff (labels : List String) (instructions : List Instruction) :
    checkTargets labels instructions = .ok () ↔
      ∀ ins ∈ instructions, ∀ label, ins.targetLabel? = some label → label ∈ labels := by
  induction instructions with
  | nil => simp [checkTargets]
  | cons ins rest ih =>
    rw [checkTargets, List.forall_mem_cons]
    cases targeted : ins.targetLabel? with
    | none => simpa using ih
    | some label =>
      by_cases known : label ∈ labels
      · simp [known, ih]
      · simp [known]

theorem sortInstructions_perm (instructions : List Instruction) :
    (sortInstructions instructions).Perm instructions :=
  List.mergeSort_perm instructions _

theorem sortInstructions_ascending {instructions : List Instruction}
    (distinct : (instructions.map Instruction.order).Nodup) :
    (sortInstructions instructions).Pairwise fun a b => a.order < b.order := by
  have sorted : (sortInstructions instructions).Pairwise fun a b =>
      decide (a.order ≤ b.order) = true := by
    apply List.pairwise_mergeSort
    · intro a b c first second
      exact decide_eq_true (UInt64.le_trans (of_decide_eq_true first) (of_decide_eq_true second))
    · intro a b
      rw [Bool.or_eq_true, decide_eq_true_eq, decide_eq_true_eq]
      exact UInt64.le_total a.order b.order
  have apart : (sortInstructions instructions).Pairwise fun a b => a.order ≠ b.order := by
    rw [← List.pairwise_map]
    exact ((sortInstructions_perm instructions).map Instruction.order).nodup_iff.mpr distinct
  refine (sorted.and apart).imp ?_
  rintro a b ⟨le, ne⟩
  exact UInt64.lt_of_le_of_ne (of_decide_eq_true le) ne

/-- What the static checks ensure of instructions in the order of their numbers. -/
structure Checked (instructions : List Instruction) : Prop where
  ascending : instructions.Pairwise fun a b => a.order < b.order
  formed : ∀ ins ∈ instructions, ins.WellFormed
  unique : (definedLabels instructions).Nodup
  defined : ∀ ins ∈ instructions, ∀ label, ins.targetLabel? = some label →
    label ∈ definedLabels instructions

theorem checked_iff (instructions : List Instruction) :
    (instructions.Pairwise fun a b => a.order < b.order) ∧
        (∀ ins ∈ instructions, ins.WellFormed) ∧ (definedLabels instructions).Nodup ∧
        (∀ label ∈ instructions.filterMap Instruction.targetLabel?,
          label ∈ definedLabels instructions) ↔
      Checked instructions := by
  simp only [List.mem_filterMap, forall_exists_index, and_imp]
  constructor
  · rintro ⟨ascending, formed, unique, defined⟩
    exact ⟨ascending, formed, unique, fun ins member label => defined label ins member⟩
  · rintro ⟨ascending, formed, unique, defined⟩
    exact ⟨ascending, formed, unique, fun label ins member => defined ins member label⟩

instance decidableChecked (instructions : List Instruction) : Decidable (Checked instructions) :=
  decidable_of_iff _ (checked_iff instructions)

theorem arrange_ok_iff (instructions sorted : List Instruction) :
    arrange instructions = .ok sorted ↔
      (instructions.map Instruction.order).Nodup ∧ (∀ ins ∈ instructions, ins.WellFormed) ∧
        (definedLabels sorted).Nodup ∧
        (∀ ins ∈ instructions, ∀ label, ins.targetLabel? = some label →
          label ∈ definedLabels sorted) ∧
        sorted = sortInstructions instructions := by
  have numbers := checkInstructions_ok_iff [] instructions
  have names := checkLabels_ok_iff [] (sortInstructions instructions)
  have targets := checkTargets_ok_iff (definedLabels (sortInstructions instructions))
    (sortInstructions instructions)
  simp only [List.not_mem_nil, not_false_eq_true, implies_true, true_and, List.map_nil, and_true,
    (sortInstructions_perm instructions).mem_iff] at numbers names targets
  constructor
  · intro arranged
    unfold arrange at arranged
    split at arranged
    · cases arranged
    · rename_i numbered
      dsimp only at arranged
      split at arranged
      · cases arranged
      · rename_i named
        split at arranged
        · cases arranged
        · rename_i targeted
          cases arranged
          exact ⟨(numbers.mp numbered).1, (numbers.mp numbered).2, names.mp named,
            targets.mp targeted, rfl⟩
  · rintro ⟨distinct, formed, unique, known, rfl⟩
    simp only [arrange, numbers.mpr ⟨distinct, formed⟩, names.mpr unique, targets.mpr known]

theorem checked_of_arrange {instructions sorted : List Instruction}
    (arranged : arrange instructions = .ok sorted) : Checked sorted := by
  obtain ⟨distinct, formed, unique, known, rfl⟩ := (arrange_ok_iff instructions sorted).mp arranged
  have member {ins : Instruction} := (sortInstructions_perm instructions).mem_iff (a := ins)
  exact ⟨sortInstructions_ascending distinct, fun ins there => formed ins (member.mp there), unique,
    fun ins there => known ins (member.mp there)⟩

end Program

/-- Instructions that passed the static checks, in the order of their numbers. -/
@[ext]
structure Program where
  instructions : Array Instruction
  checked : Program.Checked instructions.toList
  deriving DecidableEq, Repr

namespace Program

/-- Builds a program from instructions in any order. -/
def build (instructions : List Instruction) : Except BuildError Program :=
  match arranged : arrange instructions with
  | .error error => .error error
  | .ok sorted => .ok ⟨sorted.toArray, checked_of_arrange arranged⟩

def checkShapes : List Record → Except Defect Unit
  | [] => .ok ()
  | record :: rest =>
    match record.checkShape with
    | .error defect => .error defect
    | .ok () => checkShapes rest

def lowerAll : List Record → Except BuildError (List Instruction)
  | [] => .ok []
  | record :: rest =>
    match record.lower with
    | .error error => .error error
    | .ok ins => (lowerAll rest).map (ins :: ·)

/-- Builds a program from records: the shape of all of them is checked before any is read. -/
def ofRecords (records : List Record) : Except BuildError Program :=
  match checkShapes records with
  | .error defect => .error (.structural defect)
  | .ok () =>
    match lowerAll records with
    | .error error => .error error
    | .ok instructions => build instructions

def size (program : Program) : Nat :=
  program.instructions.size

def get? (program : Program) (index : Nat) : Option Instruction :=
  program.instructions[index]?

/-- The index of the instruction that defines a label. -/
def labelPosition? (program : Program) (label : String) : Option Nat :=
  program.instructions.findIdx? fun ins => ins.definedLabel? == some label

/-- The labels that are defined, in the order of the program. -/
def labels (program : Program) : List String :=
  definedLabels program.instructions.toList

def listing (program : Program) : List String :=
  program.instructions.toList.map Instruction.display

end Program

end ThreeAddress
