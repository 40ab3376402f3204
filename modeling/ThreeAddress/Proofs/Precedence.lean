import Mathlib
import ThreeAddress.Proofs.Source

set_option autoImplicit false

namespace ThreeAddress

namespace Record

variable {record : Record}

/-- The name of the operation is none that is known. -/
def Nameless (record : Record) : Prop :=
  ∀ op, ¬ record.Names op

theorem nameless_iff : record.Nameless ↔ Opcode.ofName? (Text.trim record.opcode) = none := by
  rw [Option.eq_none_iff_forall_ne_some]
  apply forall_congr'
  intro op
  rw [Ne, Opcode.ofName?_eq_some_iff]
  rfl

theorem lower_of_nameless (nameless : record.Nameless) :
    record.lower = .error (.notImplemented record.number record.opcode) := by
  simp only [lower, nameless_iff.mp nameless]

/-- A record that names an operation and cannot be read has an operand that cannot. -/
theorem lower_error_of_names (named : ¬ record.Nameless) {error : BuildError}
    (failed : record.lower = .error error) : ∃ defect, error = .structural defect := by
  rw [nameless_iff] at named
  unfold lower at failed
  split at failed
  · rename_i unknown
    exact absurd unknown named
  · split at failed
    · cases failed
      exact ⟨_, rfl⟩
    · cases failed

end Record

namespace Program

variable {records : List Record}

/-- What is reported when records are read is what is wrong with the first that cannot be. -/
theorem lowerAll_error_iff {error : BuildError} :
    lowerAll records = .error error ↔
      ∃ front record back, records = front ++ record :: back ∧
        (∀ earlier ∈ front, ∃ ins, earlier.lower = .ok ins) ∧ record.lower = .error error := by
  induction records with
  | nil => simp [lowerAll]
  | cons first rest ih =>
    rw [lowerAll]
    cases lowered : first.lower with
    | error problem =>
      constructor
      · intro same
        cases same
        exact ⟨[], first, rest, rfl, by simp, lowered⟩
      · rintro ⟨front, record, back, split, earlier, failed⟩
        cases front with
        | nil =>
          cases split
          cases lowered.symm.trans failed
          rfl
        | cons head front =>
          cases split
          obtain ⟨ins, succeeded⟩ := earlier first List.mem_cons_self
          rw [lowered] at succeeded
          cases succeeded
    | ok ins =>
      have later : (lowerAll rest).map (ins :: ·) = .error error ↔ lowerAll rest = .error error := by
        cases lowerAll rest <;> simp [Except.map]
      rw [later, ih]
      constructor
      · rintro ⟨front, record, back, rfl, earlier, failed⟩
        refine ⟨first :: front, record, back, rfl, ?_, failed⟩
        rw [List.forall_mem_cons]
        exact ⟨⟨ins, lowered⟩, earlier⟩
      · rintro ⟨front, record, back, split, earlier, failed⟩
        cases front with
        | nil =>
          cases split
          rw [lowered] at failed
          cases failed
        | cons head front =>
          cases split
          rw [List.forall_mem_cons] at earlier
          exact ⟨front, record, back, rfl, earlier.2, failed⟩

/-- A record that names no operation stands behind records that can all be read. -/
def FirstNameless (records : List Record) (record : Record) : Prop :=
  ∃ front back, records = front ++ record :: back ∧
    (∀ earlier ∈ front, ∃ ins, earlier.Denotes ins) ∧ record.Nameless

/-- Every record has an order that is not negative, arguments numbered from 1 on and no forbidden
element in them. -/
def WellShaped (records : List Record) : Prop :=
  ∀ record ∈ records, 0 ≤ record.order ∧ record.Shaped

theorem wellShaped_iff : WellShaped records ↔ checkShapes records = .ok () := by
  rw [checkShapes_ok_iff]
  apply forall₂_congr
  intro record member
  rw [Record.checkShape_ok_iff, Int64.le_iff_toInt_le]
  rfl

theorem WellShaped.lower_ok_iff (shaped : WellShaped records) {record : Record} (member : record ∈ records)
    (ins : Instruction) : record.lower = .ok ins ↔ record.Denotes ins := by
  have passed := (checkShapes_ok_iff records).mp (wellShaped_iff.mp shaped) record member
  have reads := record.reads_iff ins
  constructor
  · intro lowered
    exact (reads.mp ⟨passed, lowered⟩).2
  · intro denotes
    exact (reads.mpr ⟨(shaped record member).2, denotes⟩).2

theorem ofRecords_of_misshapen (misshapen : ¬ WellShaped records) :
    ∃ defect, ofRecords records = .error (.structural defect) := by
  rw [wellShaped_iff] at misshapen
  unfold ofRecords
  cases checked : checkShapes records with
  | error defect => exact ⟨defect, rfl⟩
  | ok => exact absurd checked misshapen

theorem WellShaped.ofRecords_eq (shaped : WellShaped records) :
    ofRecords records = (lowerAll records).bind build := by
  rw [wellShaped_iff] at shaped
  simp only [ofRecords, shaped]
  cases lowerAll records <;> rfl

theorem ofRecords_of_firstNameless (shaped : WellShaped records) {record : Record}
    (first : FirstNameless records record) :
    ofRecords records = .error (.notImplemented record.number record.opcode) := by
  obtain ⟨front, back, rfl, earlier, nameless⟩ := first
  have failed : lowerAll (front ++ record :: back) =
      .error (.notImplemented record.number record.opcode) := by
    apply lowerAll_error_iff.mpr
    refine ⟨front, record, back, rfl, ?_, Record.lower_of_nameless nameless⟩
    intro other member
    obtain ⟨ins, denotes⟩ := earlier other member
    exact ⟨ins, (shaped.lower_ok_iff (List.mem_append_left _ member) ins).mpr denotes⟩
  rw [shaped.ofRecords_eq, failed]
  rfl

/-- Instructions that share a number are refused for their structure. -/
theorem build_of_shared {instructions : List Instruction}
    (shared : ¬ (instructions.map Instruction.order).Nodup) :
    ∃ defect, build instructions = .error (.structural defect) := by
  cases checked : checkInstructions [] instructions with
  | error defect => exact ⟨defect, build_of_defect checked⟩
  | ok => exact absurd ((checkInstructions_ok_iff [] instructions).mp checked).1 shared

theorem ofRecords_of_shared (shaped : WellShaped records) (shared : ¬ (records.map Record.order).Nodup)
    (named : ∀ record, ¬ FirstNameless records record) :
    ∃ defect, ofRecords records = .error (.structural defect) := by
  rw [shaped.ofRecords_eq]
  cases lowered : lowerAll records with
  | error error =>
    obtain ⟨front, record, back, rfl, earlier, failed⟩ := lowerAll_error_iff.mp lowered
    have names : ¬ record.Nameless := by
      intro nameless
      apply named record
      refine ⟨front, back, rfl, ?_, nameless⟩
      intro other member
      obtain ⟨ins, read⟩ := earlier other member
      exact ⟨ins, (shaped.lower_ok_iff (List.mem_append_left _ member) ins).mp read⟩
    obtain ⟨defect, rfl⟩ := Record.lower_error_of_names names failed
    exact ⟨defect, rfl⟩
  | ok instructions =>
    have lowers := (lowerAll_ok_iff records instructions).mp lowered
    have denoted : List.Forall₂ Record.Denotes records instructions := by
      have listed := (List.forall₂_and_left records instructions).mpr ⟨fun _ member => member, lowers⟩
      apply listed.imp
      intro record ins here
      exact (shaped.lower_ok_iff here.1 ins).mp here.2
    apply build_of_shared
    rwa [← orders_nodup_iff denoted]

/-- What the structure of records is: their shapes, and that no two share an order. -/
def Structured (records : List Record) : Prop :=
  WellShaped records ∧ (records.map Record.order).Nodup

/-- Records whose structure is wrong make no program. If a shape is wrong, the structure is reported
whatever else is wrong with any record. If only an order is shared, the structure is reported exactly if
no record that names no operation stands behind records that can all be read; the first such record is
reported instead. -/
theorem structure_reported (records : List Record) (wrong : ¬ Structured records) :
    (¬ WellShaped records → ∃ defect, ofRecords records = .error (.structural defect)) ∧
      (WellShaped records →
        ((∃ defect, ofRecords records = .error (.structural defect)) ↔
          ∀ record, ¬ FirstNameless records record) ∧
        ∀ record, FirstNameless records record →
          ofRecords records = .error (.notImplemented record.number record.opcode)) := by
  refine ⟨ofRecords_of_misshapen, ?_⟩
  intro shaped
  refine ⟨⟨?_, ?_⟩, ?_⟩
  · rintro ⟨defect, reported⟩ record first
    rw [ofRecords_of_firstNameless shaped first] at reported
    cases reported
  · intro named
    apply ofRecords_of_shared shaped
    · intro distinct
      exact wrong ⟨shaped, distinct⟩
    · exact named
  · intro record first
    exact ofRecords_of_firstNameless shaped first

/-- A record with a fault in an argument, and two that share an order. -/
def sharedOrder : List Record :=
  [⟨3, "write", [⟨1, "int", "3x", []⟩]⟩, ⟨7, " Break", []⟩, ⟨7, "bogus", []⟩]

/-- An operand that cannot be read is reported before the operation that has no name. -/
theorem structure_reported_sharedOrder :
    ¬ Structured sharedOrder ∧ WellShaped sharedOrder ∧
      (∃ defect, ofRecords sharedOrder = .error (.structural defect)) ∧
      ∀ record, ¬ FirstNameless sharedOrder record := by
  have wrong : ¬ Structured sharedOrder := by
    intro structured
    exact absurd structured.2 (by decide)
  have shaped : WellShaped sharedOrder := wellShaped_iff.mpr (by cbv)
  have reported : ofRecords sharedOrder =
      .error (.structural (.badOperand 3 (.badInt "3x"))) := by cbv
  have named := ((structure_reported sharedOrder wrong).2 shaped).1.mp ⟨_, reported⟩
  exact ⟨wrong, shaped, ⟨_, reported⟩, named⟩

/-- That two records share an order is not reported if the first of them names no operation. -/
theorem nameless_hides_shared_order :
    ¬ ∀ records, ¬ Structured records →
      ∃ error, ofRecords records = .error error ∧ error.kind = .structural := by
  intro always
  let records : List Record := [⟨1, "bogus", []⟩, ⟨1, "break", []⟩]
  have wrong : ¬ Structured records := by
    intro structured
    exact absurd structured.2 (by decide)
  have reported : ofRecords records = .error (.notImplemented 1 "bogus") := by cbv
  obtain ⟨error, said, kind⟩ := always records wrong
  rw [reported] at said
  cases said
  cases kind

end Program

end ThreeAddress
