import ThreeAddress.Proofs.Idle
import ThreeAddress.Proofs.Order

set_option autoImplicit false

namespace ThreeAddress.Program

variable {program edited : Program} {inserted source : List Instruction} {ins : Instruction}

/-- The index that an instruction of one program has in another; the end is moved to the end. -/
def placeIn (program edited : Program) (index : Nat) : Nat :=
  match program.get? index with
  | some ins => edited.instructions.toList.idxOf ins
  | none => edited.size

/-- Instructions that may be put into a program: each is a label, `dprint` or `break` with operands that
fill its slots, with a number of its own, and labels are new. -/
structure Insertable (program : Program) (inserted : List Instruction) : Prop where
  idle : ∀ ins ∈ inserted, ins.op.isIdle = true
  formed : ∀ ins ∈ inserted, ins.WellFormed
  numbers : (inserted.map Instruction.order).Nodup
  newNumbers : ∀ ins ∈ inserted, ins.order ∉ program.instructions.toList.map Instruction.order
  labels : (inserted.filterMap Instruction.definedLabel?).Nodup
  newLabels : ∀ label ∈ inserted.filterMap Instruction.definedLabel?, label ∉ program.labels

theorem targetLabel?_of_idle (idle : ins.op.isIdle = true) : ins.targetLabel? = none := by
  cases op : ins.op <;> simp_all [Opcode.isIdle, Instruction.targetLabel?, Opcode.targetsLabel]

theorem Insertable.build_ok (insertable : program.Insertable inserted)
    (placed : source.Perm (program.instructions.toList ++ inserted)) :
    ∃ edited, build source = .ok edited := by
  have labelsPerm : (source.filterMap Instruction.definedLabel?).Perm
      (program.labels ++ inserted.filterMap Instruction.definedLabel?) := by
    have perm := placed.filterMap Instruction.definedLabel?
    rwa [List.filterMap_append] at perm
  refine (exists_build_iff source).mpr ⟨?_, ?_, ?_, ?_⟩
  · intro ins member
    rcases List.mem_append.mp (placed.mem_iff.mp member) with old | new
    · obtain ⟨index, here⟩ := mem_iff_get?.mp old
      exact Program.formed here
    · exact insertable.formed ins new
  · rw [(placed.map Instruction.order).nodup_iff, List.map_append, List.nodup_append]
    refine ⟨program.nodup_orders, insertable.numbers, ?_⟩
    rintro order known _ new rfl
    obtain ⟨ins, member, rfl⟩ := List.mem_map.mp new
    exact insertable.newNumbers ins member known
  · rw [labelsPerm.nodup_iff, List.nodup_append]
    refine ⟨program.checked.unique, insertable.labels, ?_⟩
    rintro label known _ new rfl
    exact insertable.newLabels label new known
  · intro ins member label targets
    rw [← List.mem_filterMap, labelsPerm.mem_iff]
    rcases List.mem_append.mp (placed.mem_iff.mp member) with old | new
    · obtain ⟨index, here⟩ := mem_iff_get?.mp old
      exact List.mem_append_left _ (Program.defined here targets)
    · rw [targetLabel?_of_idle (insertable.idle ins new)] at targets
      cases targets

theorem placeIn_of_get? {index : Nat} (here : program.get? index = some ins) :
    program.placeIn edited index = edited.instructions.toList.idxOf ins := by
  simp only [placeIn, here]

theorem placeIn_size : program.placeIn edited program.size = edited.size := by
  have behind : program.get? program.size = none := by simp [get?, size]
  simp only [placeIn, behind]

/-- The program with the inserted instructions spreads those of the program. -/
theorem Insertable.spreads (insertable : program.Insertable inserted)
    (placed : source.Perm (program.instructions.toList ++ inserted))
    (built : build source = .ok edited) : program.Spreads edited (program.placeIn edited) := by
  have members : edited.instructions.toList.Perm (program.instructions.toList ++ inserted) := by
    obtain ⟨-, -, -, -, sorted⟩ := (build_ok_iff source edited).mp built
    rw [sorted]
    exact (sortInstructions_perm source).trans placed
  have kept : ∀ {index ins}, program.get? index = some ins →
      edited.get? (program.placeIn edited index) = some ins := by
    intro index ins here
    have old := mem_iff_get?.mpr ⟨index, here⟩
    rw [placeIn_of_get? here, get?_eq_getElem?]
    exact List.getElem?_idxOf (members.mem_iff.mpr (List.mem_append_left _ old))
  refine ⟨kept, ?_, placeIn_size, ?_, ?_⟩
  · intro i j less inside
    obtain ⟨a, foundA⟩ := get?_of_lt (show i < program.size by omega)
    rcases Nat.lt_or_eq_of_le inside with inside | rfl
    · obtain ⟨b, foundB⟩ := get?_of_lt inside
      have order := (order_lt_iff foundA foundB).mpr less
      exact (order_lt_iff (kept foundA) (kept foundB)).mp order
    · rw [placeIn_size]
      exact get?_lt (kept foundA)
  · intro index ins here
    have member := members.mem_iff.mp (mem_iff_get?.mpr ⟨index, here⟩)
    rcases List.mem_append.mp member with old | new
    · obtain ⟨i, found⟩ := mem_iff_get?.mp old
      exact Or.inr ⟨i, get?_lt found, index_unique (kept found) here⟩
    · exact Or.inl (insertable.idle ins new)
  · intro label index found
    obtain ⟨mark, here, defined⟩ := labelPosition?_some found
    exact Program.labelPosition?_eq_some_iff.mpr ⟨mark, kept here, defined⟩

end ThreeAddress.Program

namespace ThreeAddress.Machine

/-- Idle instructions that are put into a program, wherever their numbers place them, change
nothing. The program is built again with every instruction of its own in it. Without a limit, and
whatever is read and written, the one ends if and only if the other does, with the same result, and in
the same machine but for the count of steps and for indices, which are those of the same instructions.
Each machine that steps of the program lead to is met, so changed, after a few more steps. -/
theorem insertion_transparent (program : Program)
    (inserted source : List Instruction) (insertable : program.Insertable inserted)
    (placed : source.Perm (program.instructions.toList ++ inserted)) :
    ∃ edited, Program.build source = .ok edited ∧
      let place := program.placeIn edited
      (∀ index ins, program.get? index = some ins → edited.get? (place index) = some ins) ∧
      ∀ input output, let first := start input output
        (Halts program none first ↔ Halts edited none first) ∧
        (∀ fuel otherFuel result otherResult last otherLast,
          first.run program none fuel = (some result, last) →
          first.run edited none otherFuel = (some otherResult, otherLast) →
          otherResult = result ∧ otherLast = last.relocated place otherLast.steps) ∧
        ∀ count, ∃ extra steps, first.after edited none (count + extra) =
          (first.after program none count).relocated place steps := by
  obtain ⟨edited, built⟩ := insertable.build_ok placed
  have spreads := insertable.spreads placed built
  refine ⟨edited, built, fun index ins => spreads.kept, ?_⟩
  intro input output first
  have controlled := start_controlled program input output
  have trails : Trails edited (program.placeIn edited) first first :=
    ⟨rfl, Nat.zero_le _, spreads.idleBetween_front, fun exited => absurd rfl exited⟩
  refine ⟨?_, ?_, after_spread spreads controlled trails⟩
  · rw [halts_iff, halts_iff]
    constructor
    · rintro ⟨count, result, last, ends⟩
      obtain ⟨otherCount, steps, otherEnds⟩ := ends.spread spreads controlled trails
      exact ⟨otherCount, result, _, otherEnds⟩
    · rintro ⟨count, result, last, ends⟩
      obtain ⟨instructions, last, ends⟩ := ends.gather spreads controlled trails
      exact ⟨instructions, result, last, ends⟩
  · intro fuel otherFuel result otherResult last otherLast ran otherRan
    obtain ⟨count, ends⟩ := ends_of_run ran
    obtain ⟨otherCount, otherEnds⟩ := ends_of_run otherRan
    obtain ⟨_, steps, spread⟩ := ends.spread spreads controlled trails
    obtain ⟨sameResult, sameLast⟩ := otherEnds.unique spread
    refine ⟨sameResult, ?_⟩
    rw [sameLast]
    rfl

/-- Calls a label, which returns, and exits behind the call. -/
def callExit : Program :=
  ⟨#[⟨10, .call, [.label "f"]⟩, ⟨20, .exit, [.int 3]⟩, ⟨30, .label, [.label "f"]⟩, ⟨40, .ret, []⟩],
    by decide⟩

/-- Goes in front of a call, behind it, and to where it leads; the variable is declared nowhere. -/
def probes : List Instruction :=
  [⟨15, .brk, []⟩, ⟨5, .label, [.label "unused"]⟩, ⟨35, .dprint, [.var ⟨.global, "x"⟩]⟩]

theorem insertion_transparent_callExit :
    callExit.Insertable probes ∧
      ∃ edited, Program.build (callExit.instructions.toList ++ probes) = .ok edited ∧
        edited.get? (callExit.placeIn edited 1) = some ⟨20, .exit, [.int 3]⟩ ∧
        ∃ fuel last, (start (.bytes []) {}).run edited none fuel = (some (.ok (.exited 3)), last) ∧
          last.position = callExit.placeIn edited 1 := by
  have insertable : callExit.Insertable probes := by
    refine ⟨by decide, by decide, by decide, by decide, by decide, by decide⟩
  have ran : (start (.bytes []) {}).run callExit none 5 =
      (some (.ok (.exited 3)), { position := 1, steps := 4, exited := some 3 }) := by decide +kernel
  obtain ⟨edited, built, kept, runs⟩ := insertion_transparent callExit probes
    (callExit.instructions.toList ++ probes) insertable (List.Perm.refl _)
  obtain ⟨halts, same, -⟩ := runs (.bytes []) {}
  obtain ⟨fuel, result, came⟩ := halts.mp ⟨5, _, by rw [ran]⟩
  rcases otherRan : (start (.bytes []) {}).run edited none fuel with ⟨_, last⟩
  rw [otherRan] at came
  cases came
  obtain ⟨rfl, moved⟩ := same 5 fuel _ _ _ _ ran otherRan
  exact ⟨insertable, edited, built, kept 1 _ rfl, fuel, last, otherRan, by rw [moved]; rfl⟩

end ThreeAddress.Machine
