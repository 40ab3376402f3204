import Mathlib
import ThreeAddress.Proofs.Control
import ThreeAddress.Proofs.Runs

set_option autoImplicit false

/- Where every jump and call goes to a label behind it, a run ends. The position alone does not show
it, since `return` goes back. But a call costs no more than twice what the instructions behind it
cost, so a machine has a bounded amount of work left: that of its position, and that behind each
open call. -/
namespace ThreeAddress

/-- Every jump and every call goes to a label behind it. -/
def Program.Forward (program : Program) : Prop :=
  ∀ index ins label target, program.get? index = some ins → ins.targetLabel? = some label →
    program.labelPosition? label = some target → index < target

/-- How many instructions can be executed where so many are left: the next one, then all behind it, and
all of these again if the next one is a call. -/
def work : Nat → Nat
  | 0 => 0
  | left + 1 => 2 * work left + 1

theorem work_mono {fewer more : Nat} (le : fewer ≤ more) : work fewer ≤ work more := by
  induction le with
  | refl => exact Nat.le_refl _
  | step _ ih => exact Nat.le_trans ih (by rw [work]; omega)

theorem work_sub_of_lt {size position : Nat} (inside : position < size) :
    work (size - position) = 2 * work (size - (position + 1)) + 1 := by
  rw [show size - position = size - (position + 1) + 1 by omega, work]

namespace Machine

variable {program : Program} {limit : Option Nat} {ins : Instruction} {m last : Machine}
  {outcome : Outcome}

/-- A bound for the instructions that a machine can still execute. -/
def effort (program : Program) (m : Machine) : Nat :=
  work (program.size - m.position) +
    (m.calls.map fun index => work (program.size - (index + 1))).sum

/-- An instruction goes on, ends the run, goes to its label, as a call or not, or goes behind the newest
call and closes it. -/
theorem Acts.control_cases (acts : Acts program ins m (.ok outcome) last) :
    (outcome = .advance ∧ last.calls = m.calls) ∨
      (∃ code, outcome = .exit code) ∨
      (∃ label target, outcome = .jump target ∧ ins.targetLabel? = some label ∧
        program.labelPosition? label = some target ∧
        (last.calls = m.calls ∨ last.calls = m.position :: m.calls)) ∨
      ∃ index, outcome = .jump (index + 1) ∧ m.calls = index :: last.calls := by
  cases outcome with
  | advance => exact Or.inl ⟨rfl, by cases acts <;> rfl⟩
  | exit code => exact Or.inr (Or.inl ⟨code, rfl⟩)
  | jump target =>
    rcases acts.jump_cases with ⟨index, -, top, rfl⟩ | ⟨targets, label, first, found⟩
    · exact Or.inr (Or.inr (Or.inr ⟨index, rfl, top⟩))
    · have named := Instruction.targetLabel?_of_head? targets first
      refine Or.inr (Or.inr (Or.inl ⟨label, target, rfl, named, found, ?_⟩))
      rcases acts.calls_cases with same | ⟨-, pushed⟩ | ⟨index, op, -⟩
      · exact Or.inl same.1
      · exact Or.inr pushed
      · rw [op] at targets
        cases targets

theorem effort_pos (running : m.isFinished program = false) : 0 < m.effort program := by
  have inside := work_sub_of_lt (position_lt_of_running running)
  rw [effort]
  omega

/-- In a forward-only program an instruction that succeeds uses up some of the effort, if it does not
end the run. -/
theorem effort_lt_of_done (forward : program.Forward) (executes : m.Executes program limit ins)
    (acts : Acts program ins m.counted (.ok outcome) last)
    (running : (last.follow outcome).isFinished program = false) :
    (last.follow outcome).effort program < m.effort program := by
  have inside := work_sub_of_lt (position_lt_of_running executes.running)
  have kept : last.position = m.position := acts.kept.1
  rcases acts.control_cases with
    ⟨rfl, calls⟩ | ⟨code, rfl⟩ | ⟨label, target, rfl, named, found, calls⟩ | ⟨index, rfl, top⟩
  · change last.calls = m.calls at calls
    simp only [effort, follow, kept, calls]
    omega
  · simp [isFinished, follow] at running
  · have behind := forward m.position ins label target executes.here named found
    have shorter : work (program.size - target) ≤ work (program.size - (m.position + 1)) :=
      work_mono (by omega)
    simp only [effort, follow]
    rcases calls with same | pushed
    · change last.calls = m.calls at same
      rw [same]
      omega
    · -- The work behind the call is left twice: from the label on, and after the return.
      change last.calls = m.position :: m.calls at pushed
      rw [pushed, List.map_cons, List.sum_cons]
      omega
  · change m.calls = index :: last.calls at top
    simp only [effort, follow, top, List.map_cons, List.sum_cons]
    omega

/-- A run of a forward-only program ends, after no more instructions than its effort allows. -/
theorem ends_of_forward (forward : program.Forward)
    (limit : Option Nat) (m : Machine) :
    ∃ count ≤ m.effort program, ∃ result last, Ends program limit m count result last := by
  induction bound : m.effort program using Nat.strongRecOn generalizing m with
  | ind bound ih =>
    subst bound
    have moves := step_moves program limit m
    rcases stepped : m.step program limit with ⟨came, next⟩
    rw [stepped] at moves
    cases moves with
    | ended finished => exact ⟨0, Nat.zero_le _, _, _, .ended finished⟩
    | cut running given spent =>
      exact ⟨0, Nat.zero_le _, _, _, .cut running (limitReached?_eq_some.mpr ⟨given, spent⟩)⟩
    | failed executes acts =>
      exact ⟨1, effort_pos executes.running, _, _, .fails executes stepped⟩
    | @done ins outcome last executes acts =>
      by_cases finished : (last.follow outcome).isFinished program = true
      · exact ⟨1, effort_pos executes.running, _, _, .goes stepped (.ended finished)⟩
      · have less := effort_lt_of_done forward executes acts (Bool.eq_false_iff.mpr finished)
        obtain ⟨count, within, result, final, ends⟩ := ih _ less _ rfl
        exact ⟨count + 1, by omega, result, final, .goes stepped ends⟩

/-- A program whose jumps and calls all go forward ends on every input, without a limit: with
a status or with an error, which enough calls of `step` bring out, and at the latest after as many
instructions as `work` allows for its size. -/
theorem run_ends_of_forward (program : Program)
    (forward : program.Forward) (input : Input) (output : Sink) :
    ∃ count ≤ work program.size, ∃ result last,
      Ends program none (start input output) count result last ∧
        ∀ fuel, count < fuel →
          (start input output).run program none fuel = (some result, last) := by
  obtain ⟨count, within, result, last, ends⟩ :=
    ends_of_forward forward none (start input output)
  refine ⟨count, within, result, last, ends, ?_⟩
  intro fuel enough
  exact ends.run_eq enough

/-- Calls the same label twice, and comes to its `return` a third time, with no call open. -/
def calledTwice : Program :=
  ⟨#[⟨1, .call, [.label "f"]⟩, ⟨2, .call, [.label "f"]⟩, ⟨3, .label, [.label "f"]⟩,
    ⟨4, .ret, []⟩], by decide⟩

theorem run_ends_of_forward_calledTwice :
    calledTwice.Forward ∧
      ∃ count ≤ 15, ∃ last, Ends calledTwice none (start (.bytes []) {}) count
        (.error ⟨.callStackEmpty, some ⟨4, .ret⟩⟩) last := by
  have forward : calledTwice.Forward := by
    intro index ins label target here named found
    have position : calledTwice.labelPosition? "f" = some 2 := by cbv
    have cases : index = 0 ∨ index = 1 ∨ index = 2 ∨ index = 3 := by
      have inside := (Array.getElem?_eq_some_iff.mp here).1
      change index < 4 at inside
      omega
    rcases cases with rfl | rfl | rfl | rfl <;> cases here <;> cases named <;>
      cases position.symm.trans found <;> decide
  obtain ⟨count, within, result, last, ends, ran⟩ :=
    run_ends_of_forward calledTwice forward (.bytes []) {}
  have bound : count < 16 := Nat.lt_succ_of_le within
  have came : ((start (.bytes []) {}).run calledTwice none 16).1 =
      some (.error ⟨.callStackEmpty, some ⟨4, .ret⟩⟩) := by cbv
  rw [ran 16 bound] at came
  cases came
  exact ⟨forward, count, within, last, ends⟩

end Machine

end ThreeAddress
