import Mathlib.Data.List.Find
import ThreeAddress.Proofs.Order
import ThreeAddress.Proofs.Rules
import ThreeAddress.Proofs.Runs

set_option autoImplicit false

namespace ThreeAddress

def Operand.renamed (rename : String → String) : Operand → Operand
  | .label name => .label (rename name)
  | operand => operand

/-- The instruction with another number and its labels renamed. -/
def Instruction.renamed (number : UInt64 → UInt64) (rename : String → String)
    (ins : Instruction) : Instruction :=
  ⟨number ins.order, ins.op, ins.operands.map (Operand.renamed rename)⟩

/-- One program is another with other numbers and its labels renamed. -/
def Program.Twins (program twin : Program) (number : UInt64 → UInt64) (rename : String → String) :
    Prop :=
  twin.instructions.toList = program.instructions.toList.map (Instruction.renamed number rename)

/-- The defect as one of renamed instructions. -/
def Defect.renamed (number : UInt64 → UInt64) (rename : String → String) : Defect → Defect
  | .duplicateOrder order => .duplicateOrder (number order)
  | .operandCount order op found => .operandCount (number order) op found
  | .operandMisfit order op place operand =>
    .operandMisfit (number order) op place (operand.renamed rename)
  | defect => defect

/-- The error as one of renamed instructions. -/
def BuildError.renamed (number : UInt64 → UInt64) (rename : String → String) :
    BuildError → BuildError
  | .structural defect => .structural (defect.renamed number rename)
  | .notImplemented order opcode => .notImplemented (number order) opcode
  | .duplicateLabel label first second =>
    .duplicateLabel (rename label) (number first) (number second)
  | .unknownLabel order label => .unknownLabel (number order) (rename label)

def RuntimeError.renumbered (number : UInt64 → UInt64) (error : RuntimeError) : RuntimeError :=
  { error with site := error.site.map fun site => { site with order := number site.order } }

/-- What a step comes to, with another number at which it fails. -/
def StepResult.renumbered (number : UInt64 → UInt64) : StepResult → StepResult
  | .failed error => .failed (error.renumbered number)
  | result => result

/-- Numbers keep their order, and labels that differ are renamed to labels that differ. -/
structure Faithful (instructions : List Instruction) (number : UInt64 → UInt64)
    (rename : String → String) : Prop where
  increasing : ∀ a ∈ instructions, ∀ b ∈ instructions,
    a.order < b.order → number a.order < number b.order
  injective : ∀ a ∈ instructions, ∀ b ∈ instructions, ∀ x y,
    a.label? = some x → b.label? = some y → rename x = rename y → x = y

variable {number : UInt64 → UInt64} {rename : String → String} {instructions : List Instruction}

@[simp] theorem Operand.renamed_fits (operand : Operand) (slot : Slot) :
    (operand.renamed rename).fits slot = operand.fits slot := by
  cases operand <;> rfl

theorem Operand.renamed_of_fits {operand : Operand} {slot : Slot} (fit : operand.fits slot = true)
    (other : slot ≠ .label) : operand.renamed rename = operand := by
  cases operand with
  | label name =>
    rw [fits, beq_iff_eq] at fit
    exact absurd fit other
  | _ => rfl

theorem Operand.renamed_label? (operand : Operand) :
    (operand.renamed rename).label? = operand.label?.map rename := by
  cases operand <;> rfl

theorem BuildError.renamed_kind (error : BuildError) :
    (error.renamed number rename).kind = error.kind := by
  cases error <;> rfl

namespace Instruction

@[simp] theorem renamed_order (ins : Instruction) :
    (ins.renamed number rename).order = number ins.order := rfl

@[simp] theorem renamed_op (ins : Instruction) : (ins.renamed number rename).op = ins.op := rfl

theorem renamed_label? (ins : Instruction) :
    (ins.renamed number rename).label? = ins.label?.map rename := by
  have head : (ins.renamed number rename).operands.head?.bind Operand.label? =
      (ins.operands.head?.bind Operand.label?).map rename := by
    rw [renamed]
    cases ins.operands with
    | nil => rfl
    | cons operand rest => exact operand.renamed_label?
  rw [label?, label?, renamed_op, head]
  by_cases labelled : ins.op = .label ∨ ins.op.targetsLabel = true
  · rw [if_pos labelled, if_pos labelled]
  · rw [if_neg labelled, if_neg labelled]
    rfl

theorem renamed_definedLabel? (ins : Instruction) :
    (ins.renamed number rename).definedLabel? = ins.definedLabel?.map rename := by
  rw [definedLabel?, definedLabel?, renamed_op, renamed_label?]
  split <;> rfl

theorem renamed_targetLabel? (ins : Instruction) :
    (ins.renamed number rename).targetLabel? = ins.targetLabel?.map rename := by
  rw [targetLabel?, targetLabel?, renamed_op, renamed_label?]
  split <;> rfl

theorem label?_of_definedLabel? {ins : Instruction} {label : String}
    (defined : ins.definedLabel? = some label) : ins.label? = some label := by
  rw [definedLabel?] at defined
  split at defined
  · exact defined
  · cases defined

theorem label?_of_targetLabel? {ins : Instruction} {label : String}
    (targets : ins.targetLabel? = some label) : ins.label? = some label := by
  rw [targetLabel?] at targets
  split at targets
  · exact targets
  · cases targets

end Instruction

namespace Faithful

variable (faithful : Faithful instructions number rename)

include faithful

theorem order_le_iff {a b : Instruction} (memberA : a ∈ instructions) (memberB : b ∈ instructions) :
    number a.order ≤ number b.order ↔ a.order ≤ b.order := by
  constructor
  · intro le
    apply UInt64.not_lt.mp
    intro less
    exact UInt64.not_lt.mpr le (faithful.increasing b memberB a memberA less)
  · intro le
    rcases UInt64.lt_or_eq_of_le le with less | same
    · exact UInt64.le_of_lt (faithful.increasing a memberA b memberB less)
    · rw [same]
      exact UInt64.le_refl _

theorem order_eq_iff {a b : Instruction} (memberA : a ∈ instructions) (memberB : b ∈ instructions) :
    number a.order = number b.order ↔ a.order = b.order := by
  have forth := faithful.order_le_iff memberA memberB
  have back := faithful.order_le_iff memberB memberA
  constructor
  · intro same
    rw [same] at forth back
    exact UInt64.le_antisymm (forth.mp (UInt64.le_refl _)) (back.mp (UInt64.le_refl _))
  · intro same
    rw [same]

theorem label_eq_iff {a b : Instruction} {x y : String} (memberA : a ∈ instructions)
    (memberB : b ∈ instructions) (labelA : a.label? = some x) (labelB : b.label? = some y) :
    rename x = rename y ↔ x = y :=
  ⟨faithful.injective a memberA b memberB x y labelA labelB, congrArg rename⟩

theorem of_perm {permuted : List Instruction} (perm : permuted.Perm instructions) :
    Faithful permuted number rename := by
  refine ⟨?_, ?_⟩
  · intro a memberA b memberB
    exact faithful.increasing a (perm.mem_iff.mp memberA) b (perm.mem_iff.mp memberB)
  · intro a memberA b memberB
    exact faithful.injective a (perm.mem_iff.mp memberA) b (perm.mem_iff.mp memberB)

end Faithful

namespace Program

theorem checkOperands_renamed (ins : Instruction) (place : Nat) (operands : List Operand)
    (slots : List Slot) :
    checkOperands (ins.renamed number rename) place (operands.map (Operand.renamed rename)) slots =
      (checkOperands ins place operands slots).mapError (Defect.renamed number rename) := by
  induction operands generalizing place slots with
  | nil => rfl
  | cons operand operands ih =>
    cases slots with
    | nil => rfl
    | cons slot slots =>
      rw [List.map_cons, checkOperands, checkOperands, Operand.renamed_fits]
      split
      · exact ih (place + 1) slots
      · rfl

theorem checkSignature_renamed (ins : Instruction) :
    checkSignature (ins.renamed number rename) =
      (checkSignature ins).mapError (Defect.renamed number rename) := by
  have length : (ins.renamed number rename).operands.length = ins.operands.length :=
    List.length_map _
  rw [checkSignature, checkSignature, length, Instruction.renamed_op]
  split
  · rfl
  · exact checkOperands_renamed ins 1 ins.operands ins.op.signature

/-- The numbers that were seen before are those of some of the instructions. -/
theorem checkInstructions_renamed (faithful : Faithful instructions number rename)
    (seen rest : List Instruction) (split : ∀ ins ∈ seen ++ rest, ins ∈ instructions) :
    checkInstructions ((seen.map Instruction.order).map number)
        (rest.map (Instruction.renamed number rename)) =
      (checkInstructions (seen.map Instruction.order) rest).mapError
        (Defect.renamed number rename) := by
  induction rest generalizing seen with
  | nil => rfl
  | cons ins rest ih =>
    have member : ins ∈ instructions := split ins (by simp)
    have known : number ins.order ∈ (seen.map Instruction.order).map number ↔
        ins.order ∈ seen.map Instruction.order := by
      simp only [List.mem_map, exists_exists_and_eq_and]
      refine exists_congr fun other => and_congr_right fun earlier => ?_
      exact faithful.order_eq_iff (split other (by simp [earlier])) member
    rw [List.map_cons, checkInstructions, checkInstructions, Instruction.renamed_order,
      checkSignature_renamed]
    by_cases repeated : ins.order ∈ seen.map Instruction.order
    · rw [if_pos repeated, if_pos (known.mpr repeated)]
      rfl
    · rw [if_neg repeated, if_neg (fun again => repeated (known.mp again))]
      cases checkSignature ins with
      | error defect => rfl
      | ok =>
        refine ih (ins :: seen) ?_
        intro other there
        refine split other ?_
        simp only [List.cons_append, List.mem_cons, List.mem_append] at there ⊢
        exact or_left_comm.mp there

theorem sortInstructions_renamed (faithful : Faithful instructions number rename) :
    sortInstructions (instructions.map (Instruction.renamed number rename)) =
      (sortInstructions instructions).map (Instruction.renamed number rename) := by
  refine (List.map_mergeSort ?_).symm
  intro a memberA b memberB
  simp only [Instruction.renamed_order, faithful.order_le_iff memberA memberB]

/-- The labels that were seen before are defined by some of the instructions. -/
theorem checkLabels_renamed (faithful : Faithful instructions number rename)
    (seen : List (String × UInt64)) (rest : List Instruction)
    (known : ∀ entry ∈ seen, ∃ ins ∈ instructions, ins.label? = some entry.1)
    (inside : ∀ ins ∈ rest, ins ∈ instructions) :
    checkLabels (seen.map fun entry => (rename entry.1, number entry.2))
        (rest.map (Instruction.renamed number rename)) =
      (checkLabels seen rest).mapError (BuildError.renamed number rename) := by
  induction rest generalizing seen with
  | nil => rfl
  | cons ins rest ih =>
    have behind : ∀ other ∈ rest, other ∈ instructions :=
      fun other member => inside other (List.mem_cons_of_mem _ member)
    have member : ins ∈ instructions := inside ins List.mem_cons_self
    rw [List.map_cons, checkLabels, checkLabels, Instruction.renamed_definedLabel?]
    cases defined : ins.definedLabel? with
    | none => exact ih seen known behind
    | some label =>
      have here := Instruction.label?_of_definedLabel? defined
      have found : (seen.map fun entry => (rename entry.1, number entry.2)).find?
            (fun entry => entry.1 == rename label) =
          (seen.find? fun entry => entry.1 == label).map
            fun entry => (rename entry.1, number entry.2) := by
        rw [List.find?_map]
        refine congrArg _ (List.find?_congr ?_)
        intro entry earlier
        obtain ⟨other, there, label?⟩ := known entry earlier
        have same := faithful.label_eq_iff there member label? here
        rw [Function.comp_apply, Bool.eq_iff_iff, beq_iff_eq, beq_iff_eq, same]
      simp only [Option.map_some, found]
      cases seen.find? fun entry => entry.1 == label with
      | some entry => rfl
      | none =>
        refine ih ((label, ins.order) :: seen) ?_ behind
        intro entry earlier
        rcases List.mem_cons.mp earlier with rfl | earlier
        · exact ⟨ins, member, here⟩
        · exact known entry earlier

theorem checkTargets_renamed (faithful : Faithful instructions number rename)
    (labels : List String) (rest : List Instruction)
    (known : ∀ label ∈ labels, ∃ ins ∈ instructions, ins.label? = some label)
    (inside : ∀ ins ∈ rest, ins ∈ instructions) :
    checkTargets (labels.map rename) (rest.map (Instruction.renamed number rename)) =
      (checkTargets labels rest).mapError (BuildError.renamed number rename) := by
  induction rest with
  | nil => rfl
  | cons ins rest ih =>
    have behind := ih fun other member => inside other (List.mem_cons_of_mem _ member)
    rw [List.map_cons, checkTargets, checkTargets, Instruction.renamed_targetLabel?]
    cases targets : ins.targetLabel? with
    | none => exact behind
    | some label =>
      have here := Instruction.label?_of_targetLabel? targets
      have defined : rename label ∈ labels.map rename ↔ label ∈ labels := by
        constructor
        · intro member
          obtain ⟨other, there, same⟩ := List.mem_map.mp member
          obtain ⟨mark, marked, label?⟩ := known other there
          rwa [← faithful.injective mark marked ins (inside ins List.mem_cons_self) other label
            label? here same]
        · exact List.mem_map_of_mem
      simp only [Option.map_some, defined]
      split
      · exact behind
      · rfl

/-- Renamed instructions are arranged as before, or fail with the renamed error. -/
theorem arrange_renamed (faithful : Faithful instructions number rename) :
    arrange (instructions.map (Instruction.renamed number rename)) =
      ((arrange instructions).mapError (BuildError.renamed number rename)).map
        (List.map (Instruction.renamed number rename)) := by
  have faithfulSorted := faithful.of_perm (sortInstructions_perm instructions)
  have labelled : ∀ label ∈ definedLabels (sortInstructions instructions),
      ∃ ins ∈ sortInstructions instructions, ins.label? = some label := by
    intro label member
    obtain ⟨ins, there, defined⟩ := List.mem_filterMap.mp member
    exact ⟨ins, there, Instruction.label?_of_definedLabel? defined⟩
  have numbers := checkInstructions_renamed faithful [] instructions (by simp)
  have names := checkLabels_renamed faithfulSorted [] _ (by simp) fun _ member => member
  have targets := checkTargets_renamed faithfulSorted _ _ labelled fun _ member => member
  have defined : definedLabels ((sortInstructions instructions).map
        (Instruction.renamed number rename)) =
      (definedLabels (sortInstructions instructions)).map rename := by
    rw [definedLabels, definedLabels, List.filterMap_map, List.map_filterMap]
    exact List.filterMap_congr fun ins _ => ins.renamed_definedLabel?
  simp only [List.map_nil] at numbers names
  simp only [arrange, numbers, sortInstructions_renamed faithful, names, defined, targets]
  cases checkInstructions [] instructions with
  | error defect => rfl
  | ok =>
    cases checkLabels [] (sortInstructions instructions) with
    | error error => rfl
    | ok =>
      cases checkTargets (definedLabels (sortInstructions instructions))
          (sortInstructions instructions) with
      | error error => rfl
      | ok => rfl

/-- Renamed instructions make the renamed program. -/
theorem build_renamed {program : Program} (faithful : Faithful instructions number rename)
    (built : build instructions = .ok program) :
    ∃ twin, build (instructions.map (Instruction.renamed number rename)) = .ok twin ∧
      program.Twins twin number rename := by
  have arranged := arrange_renamed faithful
  rw [build_eq_ok_iff.mp built] at arranged
  exact ⟨⟨_, checked_of_arrange arranged⟩, build_eq_ok_iff.mpr arranged, rfl⟩

theorem build_renamed_error {error : BuildError} (faithful : Faithful instructions number rename)
    (failed : build instructions = .error error) :
    build (instructions.map (Instruction.renamed number rename)) =
      .error (error.renamed number rename) := by
  have arranged := arrange_renamed faithful
  rw [build_eq_error_iff.mp failed] at arranged
  exact build_eq_error_iff.mpr arranged

section

variable {program twin : Program} (twins : program.Twins twin number rename)

include twins

theorem Twins.size_eq : twin.size = program.size := by
  have same := congrArg List.length twins
  rwa [List.length_map] at same

theorem Twins.get?_eq (index : Nat) :
    twin.get? index = (program.get? index).map (Instruction.renamed number rename) := by
  rw [get?_eq_getElem?, get?_eq_getElem?, twins, List.getElem?_map]

/-- A label has the place that it had under its old name. -/
theorem Twins.labelPosition? {label : String} {place : Nat}
    (found : program.labelPosition? label = some place) :
    twin.labelPosition? (rename label) = some place := by
  obtain ⟨mark, there, defined⟩ := labelPosition?_some found
  rw [labelPosition?_eq_some_iff]
  refine ⟨mark.renamed number rename, ?_, ?_⟩
  · rw [twins.get?_eq, there]
    rfl
  · rw [Instruction.renamed_definedLabel?, defined]
    rfl

end

end Program

namespace Machine

variable {program : Program} {limit : Option Nat} {ins : Instruction} {m : Machine}

/-- Operands for slots that take no label are not renamed. -/
theorem renamed_operands {operands : List Operand} {slots : List Slot}
    (fill : List.Forall₂ (fun operand slot => operand.fits slot = true) operands slots)
    (free : Slot.label ∉ slots) : operands.map (Operand.renamed rename) = operands := by
  induction fill with
  | nil => rfl
  | cons fit rest ih =>
    rw [List.mem_cons, not_or] at free
    rw [List.map_cons, Operand.renamed_of_fits fit (fun same => free.1 same.symm), ih free.2]

/-- An instruction without a label looks neither at its number nor at the program. -/
theorem execute_unlabelled (twin : Program) (formed : ins.WellFormed)
    (free : Slot.label ∉ ins.op.signature) :
    execute twin (ins.renamed number rename) m = execute program ins m := by
  rcases ins with ⟨order, op, operands⟩
  rw [Instruction.renamed, renamed_operands formed.forall₂ free]
  cases op with
  | call | label | jump | jumpIfEq | jumpIfNeq => simp [Opcode.signature] at free
  | _ => rfl

/-- A renamed instruction does what it did, if its label has the place that it had. -/
theorem execute_renamed {twin : Program} (formed : ins.WellFormed)
    (moved : ∀ label, ins.targetLabel? = some label → ∃ place,
      program.labelPosition? label = some place ∧
        twin.labelPosition? (rename label) = some place) :
    execute twin (ins.renamed number rename) m = execute program ins m := by
  have place : ins.op.targetsLabel = true → ∀ label, ins.operands.head? = some (.label label) →
      target twin (rename label) = target program label := by
    intro targets label first
    obtain ⟨place, old, new⟩ := moved label (Instruction.targetLabel?_of_head? targets first)
    simp only [target, old, new]
  cases op : ins.op with
  | label => simp only [execute, Instruction.renamed_op, op]
  | call | jump =>
    obtain ⟨first, operands, fit⟩ := formed.one (show ins.op.signature = [.label] by rw [op]; rfl)
    obtain ⟨label, rfl⟩ := Operand.fits_label fit
    have found := place (by rw [op]; rfl) label (by rw [operands]; rfl)
    have twinOperands : (ins.renamed number rename).operands = [.label (rename label)] := by
      rw [Instruction.renamed, operands]
      rfl
    simp only [execute, Instruction.renamed_op, op, executeCall, executeJump, jump, operands,
      twinOperands, found]
  | jumpIfEq | jumpIfNeq =>
    obtain ⟨label, a, b, operands, -, fitA, fitB⟩ := formed.branch (by rw [op]; rfl)
    have found := place (by rw [op]; rfl) label (by rw [operands]; rfl)
    have twinOperands : (ins.renamed number rename).operands = [.label (rename label), a, b] := by
      rw [Instruction.renamed, operands, List.map_cons,
        renamed_operands (.cons fitA (.cons fitB .nil)) (by decide)]
      rfl
    simp only [execute, Instruction.renamed_op, op, executeBranch, jump, operands, twinOperands,
      found]
  | _ => exact execute_unlabelled twin formed (by rw [op]; decide)

section Twins

variable {twin : Program} (twins : program.Twins twin number rename) (limit : Option Nat)

include twins

/-- A step of the renamed program comes to the same, but for the number at which it fails. -/
theorem step_renamed (m : Machine) :
    m.step twin limit =
      ((m.step program limit).1.renumbered number, (m.step program limit).2) := by
  have finished : m.isFinished twin = m.isFinished program := by
    rw [isFinished, isFinished, twins.size_eq]
  cases running : m.isFinished program with
  | true => rw [step_of_finished (finished.trans running), step_of_finished running]; rfl
  | false =>
    cases allowed : m.limitReached? limit with
    | some bound =>
      rw [step_of_spent (finished.trans running) allowed, step_of_spent running allowed]
      rfl
    | none =>
      obtain ⟨ins, here⟩ := Program.get?_of_lt (position_lt_of_running running)
      have executes : m.Executes program limit ins := ⟨running, allowed, here⟩
      have twinExecutes : m.Executes twin limit (ins.renamed number rename) :=
        ⟨finished.trans running, allowed, by rw [twins.get?_eq, here]; rfl⟩
      have same : execute twin (ins.renamed number rename) m.counted =
          execute program ins m.counted := by
        refine execute_renamed (Program.formed here) ?_
        intro label targets
        obtain ⟨place, found⟩ := Program.labelPosition?_of_mem (Program.defined here targets)
        exact ⟨place, found, twins.labelPosition? found⟩
      rcases effect : execute program ins m.counted with ⟨fault | outcome, last⟩
      · rw [executes.step_error effect, twinExecutes.step_error (same.trans effect)]
        rfl
      · rw [executes.step_ok effect, twinExecutes.step_ok (same.trans effect)]
        rfl

theorem after_renamed (m : Machine) (count : Nat) :
    m.after twin limit count = m.after program limit count := by
  induction count with
  | zero => rfl
  | succ count ih => rw [after, after, ih, step_renamed twins]

theorem run_renamed (fuel : Nat) (m : Machine) :
    m.run twin limit fuel =
      ((m.run program limit fuel).1.map (Except.mapError (RuntimeError.renumbered number)),
        (m.run program limit fuel).2) := by
  induction fuel generalizing m with
  | zero => rfl
  | succ fuel ih =>
    rw [run, run, step_renamed twins]
    rcases m.step program limit with ⟨came, next⟩
    cases came with
    | ended => rfl
    | failed error => rfl
    | done outcome => exact ih next

end Twins

/-- Only the order of the numbers and the places of the labels matter. Instructions whose numbers are
changed in the same order and whose labels are renamed apart make the renamed program exactly if the
instructions made a program, and fail with an error of the same kind otherwise. Whatever is read and
written and whatever the limit, both programs lead through the same machines, come to the same in every
step and in every run, and fail with the same fault, at the new number where it was at the old one. -/
theorem renaming_transparent (instructions : List Instruction) (number : UInt64 → UInt64)
    (rename : String → String) (faithful : Faithful instructions number rename) :
    let renamed := instructions.map (Instruction.renamed number rename)
    (∀ error, Program.build instructions = .error error →
      ∃ other, Program.build renamed = .error other ∧ other.kind = error.kind) ∧
    ∀ program, Program.build instructions = .ok program →
      ∃ twin, Program.build renamed = .ok twin ∧
        ∀ input output limit, let first := start input output
          (∀ count, first.after twin limit count = first.after program limit count ∧
            ((first.after twin limit count).step twin limit).1 =
              ((first.after program limit count).step program limit).1.renumbered number) ∧
          ∀ fuel, first.run twin limit fuel =
            ((first.run program limit fuel).1.map (Except.mapError (RuntimeError.renumbered number)),
              (first.run program limit fuel).2) := by
  intro renamed
  refine ⟨?_, ?_⟩
  · intro error failed
    exact ⟨_, Program.build_renamed_error faithful failed, error.renamed_kind⟩
  · intro program built
    obtain ⟨twin, twinBuilt, twins⟩ := Program.build_renamed faithful built
    refine ⟨twin, twinBuilt, ?_⟩
    intro input output limit first
    refine ⟨?_, fun fuel => run_renamed twins limit fuel first⟩
    intro count
    have same := after_renamed twins limit first count
    refine ⟨same, ?_⟩
    rw [same, step_renamed twins]

/-- Instructions that jump over a `break` and then take from an empty data stack, out of order. -/
def jumpAndPop : List Instruction :=
  [⟨3, .jump, [.label "a"]⟩, ⟨9, .pops, [.var ⟨.global, "x"⟩]⟩, ⟨7, .label, [.label "a"]⟩,
    ⟨4, .brk, []⟩]

/-- With numbers ten times as large and a longer label, taking fails at number 90. -/
theorem renaming_transparent_jumpAndPop :
    let number : UInt64 → UInt64 := fun order => 10 * order
    let rename : String → String := fun name => "loop-" ++ name
    Faithful jumpAndPop number rename ∧
      ∃ twin, Program.build (jumpAndPop.map (Instruction.renamed number rename)) = .ok twin ∧
        (start (.bytes []) {}).run twin none 4 =
          (some (.error ⟨.dataStackEmpty, some ⟨90, .pops⟩⟩), { position := 3, steps := 3 }) := by
  intro number rename
  have faithful : Faithful jumpAndPop number rename := by
    refine ⟨by decide, ?_⟩
    have labels : ∀ ins ∈ jumpAndPop, ins.label? = none ∨ ins.label? = some "a" := by decide
    intro a memberA b memberB x y labelA labelB _
    have first := labels a memberA
    have second := labels b memberB
    simp_all
  have built : Program.build jumpAndPop = .ok ⟨#[⟨3, .jump, [.label "a"]⟩, ⟨4, .brk, []⟩,
      ⟨7, .label, [.label "a"]⟩, ⟨9, .pops, [.var ⟨.global, "x"⟩]⟩], by decide⟩ :=
    Program.build_eq_ok_iff.mpr (by cbv)
  obtain ⟨twin, twinBuilt, runs⟩ :=
    (renaming_transparent jumpAndPop number rename faithful).2 _ built
  refine ⟨faithful, twin, twinBuilt, ?_⟩
  rw [(runs (.bytes []) {} none).2 4]
  cbv

end Machine

end ThreeAddress
