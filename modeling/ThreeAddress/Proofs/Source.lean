import Mathlib
import ThreeAddress.Proofs.Order
import ThreeAddress.Proofs.Records

set_option autoImplicit false

namespace ThreeAddress

section Correspondence

variable {α β : Type} {R : α → β → Prop} {xs : List α} {ys : List β}

theorem exists_forall₂ (each : ∀ x ∈ xs, ∃ y, R x y) : ∃ ys, List.Forall₂ R xs ys := by
  induction xs with
  | nil => exact ⟨[], .nil⟩
  | cons x xs ih =>
    obtain ⟨y, here⟩ := each x List.mem_cons_self
    obtain ⟨ys, rest⟩ := ih fun x member => each x (List.mem_cons_of_mem _ member)
    exact ⟨y :: ys, .cons here rest⟩

theorem forall_mem_iff {p : α → Prop} {q : β → Prop} (same : ∀ {x y}, R x y → (p x ↔ q y))
    (related : List.Forall₂ R xs ys) : (∀ x ∈ xs, p x) ↔ ∀ y ∈ ys, q y := by
  induction related with
  | nil => simp
  | cons here rest ih => rw [List.forall_mem_cons, List.forall_mem_cons, same here, ih]

theorem exists_mem_iff {p : α → Prop} {q : β → Prop} (same : ∀ {x y}, R x y → (p x ↔ q y))
    (related : List.Forall₂ R xs ys) : (∃ x ∈ xs, p x) ↔ ∃ y ∈ ys, q y := by
  have none := forall_mem_iff (fun related => not_congr (same related)) related
  simpa using not_congr none

theorem pairwise_iff {p : α → α → Prop} {q : β → β → Prop}
    (same : ∀ {a b x y}, R a x → R b y → (p a b ↔ q x y)) (related : List.Forall₂ R xs ys) :
    xs.Pairwise p ↔ ys.Pairwise q := by
  induction related with
  | nil => simp
  | cons here rest ih =>
    rw [List.pairwise_cons, List.pairwise_cons]
    exact and_congr (forall_mem_iff (fun there => same here there) rest) ih

theorem forall₂_iff_of_forall₂ {γ : Type} {S : α → γ → Prop} {T : γ → β → Prop} {zs : List γ}
    (same : ∀ {x z y}, S x z → (R x y ↔ T z y)) (related : List.Forall₂ S xs zs) :
    List.Forall₂ R xs ys ↔ List.Forall₂ T zs ys := by
  induction related generalizing ys with
  | nil => rw [List.forall₂_nil_left_iff, List.forall₂_nil_left_iff]
  | cons here rest ih =>
    simp only [List.forall₂_cons_left_iff, same here, ih]

theorem forall₂_map {write : α → β} (each : ∀ x ∈ xs, R x (write x)) :
    List.Forall₂ R xs (xs.map write) := by
  rw [List.forall₂_map_right_iff, List.forall₂_same]
  exact each

theorem mapM_of_forall₂ {read : β → Option α} (related : List.Forall₂ (fun x y => read y = some x) xs ys) :
    ys.mapM read = some xs := by
  induction related with
  | nil => rfl
  | cons here rest ih =>
    rw [List.mapM_cons, here, ih]
    rfl

end Correspondence

namespace Opcode

theorem arity_le (op : Opcode) : op.arity ≤ 3 := by
  cases op <;> decide

theorem targetsLabel_iff {op : Opcode} :
    op.targetsLabel = true ↔ op ∈ [.jump, .jumpIfEq, .jumpIfNeq, .call] := by
  cases op <;> decide

end Opcode

namespace Record

variable {record : Record} {ins : Instruction} {op : Opcode} {label : String}

/-- An instruction of this operation can be made of the record. -/
structure WellFormed (record : Record) (op : Opcode) : Prop where
  order : 0 ≤ record.order
  named : record.Names op
  indices : (record.args.map fun arg => arg.index.toNat).Perm (List.range' 1 op.arity)
  nested : ∀ arg ∈ record.args, arg.Unforbidden
  operands : ∀ arg ∈ record.args, ∃ operand slot, arg.operand = .ok operand ∧
    op.signature[arg.index.toNat - 1]? = some slot ∧ operand.fits slot = true

/-- The record makes an instruction that defines a label. -/
def Defines (record : Record) (label : String) : Prop :=
  record.Names .label ∧ record.Gives 1 (.label label)

/-- The record makes an instruction that goes to a label. -/
def Targets (record : Record) (label : String) : Prop :=
  (∃ op ∈ [Opcode.jump, .jumpIfEq, .jumpIfNeq, .call], record.Names op) ∧
    record.Gives 1 (.label label)

theorem WellFormed.shaped (formed : record.WellFormed op) : record.Shaped := by
  have count : record.args.length = op.arity := by
    simpa using formed.indices.length_eq
  have indices := formed.indices
  rw [← count] at indices
  exact ⟨formed.nested, count ▸ op.arity_le, indices⟩

theorem WellFormed.denotes (formed : record.WellFormed op) :
    ∃ ins, record.Denotes ins ∧ ins.WellFormed := by
  have count : record.args.length = op.arity := by
    simpa using formed.indices.length_eq
  have shaped := formed.shaped
  have nonnegative : 0 ≤ record.order.toInt := Int64.le_iff_toInt_le.mp formed.order
  obtain ⟨values, read⟩ : ∃ values, Record.operands record.sortedArgs = .ok values := by
    simp only [Record.operands_ok_iff]
    apply exists_forall₂
    intro arg member
    obtain ⟨operand, -, read, -⟩ := formed.operands arg (record.sortedArgs_perm.mem_iff.mp member)
    exact ⟨operand, read⟩
  obtain ⟨length, places⟩ := (shaped.operands_ok_iff values).mp read
  have number := (record.number_iff record.number).mp ⟨nonnegative, rfl⟩
  refine ⟨⟨record.number, op, values⟩, ⟨number, formed.named, length, places⟩, ?_⟩
  refine Instruction.wellFormed_iff_forall₂.mpr (List.forall₂_iff_get.mpr ⟨length.trans count, ?_⟩)
  intro place inside insideSlots
  obtain ⟨arg, member, index, read⟩ := (places place _).mp (List.getElem?_eq_getElem inside)
  obtain ⟨operand, slot, sameRead, sameSlot, fit⟩ := formed.operands arg member
  rw [read] at sameRead
  rw [index, Nat.add_sub_cancel] at sameSlot
  obtain ⟨_, rfl⟩ := List.getElem?_eq_some_iff.mp sameSlot
  rw [← Except.ok.inj sameRead] at fit
  exact fit

theorem Denotes.wellFormed (denotes : record.Denotes ins) (shaped : record.Shaped)
    (formed : ins.WellFormed) : record.WellFormed ins.op := by
  obtain ⟨nonnegative, -⟩ := (record.number_iff ins.order).mpr denotes.order
  have count : record.args.length = ins.op.arity := denotes.count.symm.trans formed.count
  have indices := shaped.indices
  rw [count] at indices
  refine ⟨Int64.le_iff_toInt_le.mpr nonnegative, denotes.op, indices, shaped.nested, ?_⟩
  intro arg member
  have index := indices.mem_iff.mp (List.mem_map_of_mem member)
  rw [List.mem_range'_1] at index
  obtain ⟨place, here⟩ : ∃ place, arg.index.toNat = place + 1 := ⟨arg.index.toNat - 1, by omega⟩
  have insideSlots : place < ins.op.signature.length := by
    change place < ins.op.arity
    omega
  have inside : place < ins.operands.length := by
    rw [denotes.count]
    omega
  obtain ⟨other, otherMember, otherIndex, read⟩ :=
    (denotes.operands place _).mp (List.getElem?_eq_getElem inside)
  -- The argument with this index is the only one.
  have found := shaped.sortedArgs_getElem?.mpr ⟨member, here⟩
  rw [shaped.sortedArgs_getElem?.mpr ⟨otherMember, otherIndex⟩] at found
  obtain rfl := Option.some.inj found
  refine ⟨_, _, read, ?_, (List.forall₂_iff_get.mp formed.forall₂).2 place inside insideSlots⟩
  rw [here, Nat.add_sub_cancel]
  exact List.getElem?_eq_getElem insideSlots

theorem Denotes.unique {other : Instruction} (denotes : record.Denotes ins)
    (again : record.Denotes other) : ins = other := by
  have orders := denotes.order.trans again.order.symm
  have operands : ins.operands = other.operands := by
    apply List.ext_getElem?
    intro place
    apply Option.ext
    intro operand
    rw [denotes.operands, again.operands]
  rcases ins with ⟨order, op, values⟩
  rcases other with ⟨_, _, _⟩
  rw [Instruction.mk.injEq]
  exact ⟨UInt64.toNat_inj.mp (Int.ofNat.inj orders), denotes.op.unique again.op, operands⟩

/-- What is asked of a record is what is asked of the instruction that it stands for. -/
theorem Denotes.wellFormed_iff (denotes : record.Denotes ins) (shaped : record.Shaped) :
    (∃ op, record.WellFormed op) ↔ ins.WellFormed := by
  constructor
  · rintro ⟨op, formed⟩
    obtain ⟨other, again, otherFormed⟩ := formed.denotes
    rwa [denotes.unique again]
  · intro formed
    exact ⟨ins.op, denotes.wellFormed shaped formed⟩

theorem Denotes.order_eq_iff {other : Record} {twin : Instruction} (denotes : record.Denotes ins)
    (also : other.Denotes twin) : record.order = other.order ↔ ins.order = twin.order := by
  have here := denotes.order
  have there := also.order
  rw [← Int64.toInt_inj, ← UInt64.toNat_inj]
  omega

theorem Denotes.definedLabel?_iff (denotes : record.Denotes ins) :
    record.Defines label ↔ ins.definedLabel? = some label := by
  rw [Instruction.definedLabel?_eq_some_head?, List.head?_eq_getElem?, denotes.operands]
  refine and_congr ?_ Iff.rfl
  constructor
  · intro named
    exact denotes.op.unique named
  · intro op
    exact op ▸ denotes.op

theorem Denotes.targetLabel?_iff (denotes : record.Denotes ins) :
    record.Targets label ↔ ins.targetLabel? = some label := by
  rw [Instruction.targetLabel?_eq_some_head?, List.head?_eq_getElem?, denotes.operands]
  refine and_congr ?_ Iff.rfl
  constructor
  · rintro ⟨op, member, named⟩
    rw [denotes.op.unique named]
    exact Opcode.targetsLabel_iff.mpr member
  · intro targets
    exact ⟨ins.op, Opcode.targetsLabel_iff.mp targets, denotes.op⟩

end Record

/-- A program can be made of the records. -/
structure WellFormedSource (records : List Record) : Prop where
  formed : ∀ record ∈ records, ∃ op, record.WellFormed op
  orders : (records.map Record.order).Nodup
  labels : records.Pairwise fun a b => ∀ label, a.Defines label → ¬ b.Defines label
  targets : ∀ record ∈ records, ∀ label, record.Targets label →
    ∃ mark ∈ records, mark.Defines label

namespace Program

variable {records : List Record} {instructions : List Instruction} {program : Program}

theorem checkShapes_ok_iff (records : List Record) :
    checkShapes records = .ok () ↔ ∀ record ∈ records, record.checkShape = .ok () := by
  induction records with
  | nil => simp [checkShapes]
  | cons record rest ih =>
    rw [checkShapes, List.forall_mem_cons]
    cases record.checkShape with
    | error defect => simp
    | ok => simpa using ih

theorem lowerAll_ok_iff (records : List Record) (instructions : List Instruction) :
    lowerAll records = .ok instructions ↔
      List.Forall₂ (fun record ins => record.lower = .ok ins) records instructions := by
  refine collect_ok_iff Record.lower lowerAll rfl ?_ records instructions
  intro record rest
  rw [lowerAll]
  cases record.lower <;> rfl

/-- A program is made of records by making it of the instructions that they stand for. -/
theorem ofRecords_ok_iff (records : List Record) (program : Program) :
    ofRecords records = .ok program ↔
      ∃ instructions,
        List.Forall₂ (fun record ins => record.Shaped ∧ record.Denotes ins) records instructions ∧
          build instructions = .ok program := by
  have shapes := checkShapes_ok_iff records
  have lowers := lowerAll_ok_iff records
  simp only [← Record.reads_iff, List.forall₂_and_left, ← shapes, ← lowers]
  unfold ofRecords
  cases checkShapes records with
  | error defect => simp
  | ok =>
    cases lowerAll records with
    | error error => simp
    | ok instructions => simp

theorem orders_nodup_iff (denoted : List.Forall₂ Record.Denotes records instructions) :
    (records.map Record.order).Nodup ↔ (instructions.map Instruction.order).Nodup := by
  rw [List.Nodup, List.Nodup, List.pairwise_map, List.pairwise_map]
  exact pairwise_iff (fun here there => not_congr (here.order_eq_iff there)) denoted

/-- What is asked of records together is what is asked of the instructions that they stand for. -/
theorem wellFormedSource_iff (denoted : List.Forall₂
      (fun record ins => record.Shaped ∧ record.Denotes ins) records instructions) :
    WellFormedSource records ↔ ∃ program, build instructions = .ok program := by
  have formed : (∀ record ∈ records, ∃ op, record.WellFormed op) ↔
      ∀ ins ∈ instructions, ins.WellFormed :=
    forall_mem_iff (fun ⟨shaped, denotes⟩ => denotes.wellFormed_iff shaped) denoted
  have orders := orders_nodup_iff (denoted.imp fun _ _ here => here.2)
  have defines : ∀ label, (∃ mark ∈ records, mark.Defines label) ↔
      ∃ mark ∈ instructions, mark.definedLabel? = some label := fun label =>
    exists_mem_iff (fun here => here.2.definedLabel?_iff) denoted
  have labels : (records.Pairwise fun a b => ∀ label, a.Defines label → ¬ b.Defines label) ↔
      (instructions.filterMap Instruction.definedLabel?).Nodup := by
    rw [List.Nodup, List.pairwise_filterMap]
    refine pairwise_iff ?_ denoted
    intro a b x y here there
    simp only [here.2.definedLabel?_iff, there.2.definedLabel?_iff]
    -- Both sides say that no label is defined by both.
    grind
  have targets : (∀ record ∈ records, ∀ label, record.Targets label →
        ∃ mark ∈ records, mark.Defines label) ↔
      ∀ ins ∈ instructions, ∀ label, ins.targetLabel? = some label →
        ∃ mark ∈ instructions, mark.definedLabel? = some label := by
    simp only [defines]
    refine forall_mem_iff ?_ denoted
    intro record ins here
    simp only [here.2.targetLabel?_iff]
  rw [exists_build_iff, ← formed, ← orders, ← labels, ← targets]
  exact ⟨fun ⟨a, b, c, d⟩ => ⟨a, b, c, d⟩, fun ⟨a, b, c, d⟩ => ⟨a, b, c, d⟩⟩

/-- A program is made of records exactly if they are well formed. It then holds one instruction for each
record, the one that the record stands for, in strictly ascending order, and the position of a label is
the index of the instruction that defines it. -/
theorem ofRecords_accepts (records : List Record) :
    ((∃ program, ofRecords records = .ok program) ↔ WellFormedSource records) ∧
      ∀ program, ofRecords records = .ok program →
        (∃ arranged, arranged.Perm records ∧
          List.Forall₂ Record.Denotes arranged program.instructions.toList) ∧
        (program.instructions.toList.Pairwise fun a b => a.order < b.order) ∧
        ∀ label index, program.labelPosition? label = some index ↔
          ∃ ins, program.get? index = some ins ∧ ins.op = .label ∧ ins.operands = [.label label] := by
  refine ⟨⟨?_, ?_⟩, ?_⟩
  · rintro ⟨program, read⟩
    obtain ⟨instructions, denoted, built⟩ := (ofRecords_ok_iff records program).mp read
    exact (wellFormedSource_iff denoted).mpr ⟨program, built⟩
  · intro formed
    obtain ⟨instructions, denoted⟩ : ∃ instructions, List.Forall₂
        (fun record ins => record.Shaped ∧ record.Denotes ins) records instructions := by
      apply exists_forall₂
      intro record member
      obtain ⟨op, formed⟩ := formed.formed record member
      obtain ⟨ins, denotes, -⟩ := formed.denotes
      exact ⟨ins, formed.shaped, denotes⟩
    obtain ⟨program, built⟩ := (wellFormedSource_iff denoted).mp formed
    exact ⟨program, (ofRecords_ok_iff records program).mpr ⟨instructions, denoted, built⟩⟩
  · intro program read
    obtain ⟨instructions, denoted, built⟩ := (ofRecords_ok_iff records program).mp read
    refine ⟨?_, program.checked.ascending, ?_⟩
    · obtain ⟨-, -, -, -, sorted⟩ := (build_ok_iff instructions program).mp built
      rw [sorted]
      -- Sorting the instructions arranges the records that they come from in the same way.
      have arranged : Relation.Comp (List.Forall₂ Record.Denotes) List.Perm records
          (sortInstructions instructions) :=
        ⟨instructions, denoted.imp fun _ _ here => here.2, (sortInstructions_perm instructions).symm⟩
      rw [List.forall₂_comp_perm_eq_perm_comp_forall₂] at arranged
      obtain ⟨arranged, perm, denotes⟩ := arranged
      exact ⟨arranged, perm.symm, denotes⟩
    · intro label index
      rw [Program.labelPosition?_eq_some_iff]
      constructor
      · rintro ⟨ins, here, defined⟩
        exact ⟨ins, here,
          (Instruction.definedLabel?_eq_some (Program.formed here)).mp defined⟩
      · rintro ⟨ins, here, shape⟩
        exact ⟨ins, here,
          (Instruction.definedLabel?_eq_some (Program.formed here)).mpr shape⟩

/-- Records that jump over an assignment, out of order and with the arguments of one swapped. -/
def jumpOver : List Record :=
  [⟨30, " Label\n", [⟨1, "label", "end", []⟩]⟩,
    ⟨20, "MOVE", [⟨2, "int", "7", []⟩, ⟨1, "var", " lf@x", ["b"]⟩]⟩,
    ⟨10, "jump", [⟨1, "label ", "end", []⟩]⟩]

theorem ofRecords_accepts_jumpOver :
    let program : Program :=
      ⟨#[⟨10, .jump, [.label "end"]⟩, ⟨20, .move, [.var ⟨.localTop, "x"⟩, .int 7]⟩,
        ⟨30, .label, [.label "end"]⟩], by decide⟩
    ofRecords jumpOver = .ok program ∧ WellFormedSource jumpOver ∧
      program.labelPosition? "end" = some 2 := by
  intro program
  have read : ofRecords jumpOver = .ok program := ofRecords_eq_ok (by cbv) (by cbv)
  obtain ⟨accepts, holds⟩ := ofRecords_accepts jumpOver
  obtain ⟨-, -, positions⟩ := holds program read
  exact ⟨read, accepts.mp ⟨program, read⟩, (positions "end" 2).mpr ⟨_, rfl, rfl, rfl⟩⟩

end Program

end ThreeAddress
