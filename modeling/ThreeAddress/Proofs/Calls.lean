import ThreeAddress.Proofs.Control

set_option autoImplicit false

namespace ThreeAddress.Machine

variable {program : Program} {limit : Option Nat} {ins : Instruction} {m last : Machine}
  {result : StepResult}

/-- A step leaves the call stack, puts its own position on it, or takes an index off and goes on
behind that. -/
theorem Moves.calls_cases (moves : Moves program limit m result last) :
    last.calls = m.calls ∨ last.calls = m.position :: m.calls ∨
      ∃ index ins, m.Executes program limit ins ∧ ins.op = .ret ∧
        m.calls = index :: last.calls ∧ result = .done (.jump (index + 1)) ∧
        last.position = index + 1 := by
  cases moves with
  | ended finished => exact Or.inl rfl
  | cut running given spent => exact Or.inl rfl
  | failed executes acts => exact Or.inl acts.calls_of_error
  | @done ins outcome last executes acts =>
    rw [follow_calls]
    rcases acts.calls_cases with ⟨same, -⟩ | ⟨-, pushed⟩ | ⟨index, op, popped, rfl⟩
    · exact Or.inl same
    · exact Or.inr (Or.inl pushed)
    · exact Or.inr (Or.inr ⟨index, ins, executes, op, popped, rfl, rfl⟩)

theorem Acts.calls_of_call {effect : Except Fault Outcome} (acts : Acts program ins m effect last)
    (call : ins.op = .call) : last.calls = m.position :: m.calls := by
  cases acts with
  | calls op first found => rfl
  | _ => simp_all [Opcode.computes, Opcode.reframes, Opcode.branches]

theorem Executes.calls_of_call (executes : m.Executes program limit ins)
    (call : ins.op = .call) : (m.step program limit).2.calls = m.position :: m.calls := by
  have acts := execute_acts executes.here m.counted
  rcases effect : execute program ins m.counted with ⟨fault | outcome, last⟩
  · rw [effect] at acts
    rw [executes.step_error effect]
    exact acts.calls_of_call call
  · rw [effect] at acts
    rw [executes.step_ok effect, follow_calls]
    exact acts.calls_of_call call

/-- A step under an open call leaves the call open, with all that was below it, or returns from it. -/
theorem Moves.open_call {index : Nat} {base : CallStack}
    (moves : Moves program limit m result last) (held : (index :: base) <:+ m.calls) :
    (index :: base) <:+ last.calls ∨
      (∃ ins, m.Executes program limit ins ∧ ins.op = .ret) ∧
        result = .done (.jump (index + 1)) ∧ last.calls = base ∧ last.position = index + 1 := by
  rcases moves.calls_cases with same | pushed | ⟨top, ins, executes, op, popped, jumped, position⟩
  · exact Or.inl (same ▸ held)
  · rw [pushed]
    exact Or.inl (held.trans (List.suffix_cons m.position m.calls))
  · rw [popped] at held
    rcases List.suffix_cons_iff.mp held with closed | deeper
    · injection closed with sameIndex sameBase
      subst sameIndex sameBase
      exact Or.inr ⟨⟨ins, executes, op⟩, jumped, rfl, position⟩
    · exact Or.inl deeper

/-- As long as the call stack is higher than it was at a call, the call and all below it are there. -/
theorem open_call_after {index : Nat} {base : CallStack}
    (held : (index :: base) <:+ m.calls) (count : Nat)
    (higher : ∀ earlier ≤ count, base.length < (m.after program limit earlier).calls.length) :
    (index :: base) <:+ (m.after program limit count).calls := by
  induction count with
  | zero => exact held
  | succ count ih =>
    have before := ih fun earlier le => higher earlier (by omega)
    have moves := step_moves program limit (m.after program limit count)
    rcases moves.open_call before with held | ⟨-, -, closed, -⟩
    · exact held
    · -- Had the call been returned from, the call stack would not be higher any more.
      have above := higher (count + 1) (Nat.le_refl _)
      rw [after, closed] at above
      omega

/-- Calls and returns are balanced. From a call on, as long as the call stack is higher than it was
before, the call and what was below it are at its bottom. The first step after which it is not higher
any more is a return that leaves what was there before the call and goes on behind it. -/
theorem balanced_calls (program : Program) (limit : Option Nat)
    (m : Machine) (ins : Instruction) (executes : m.Executes program limit ins)
    (call : ins.op = .call) :
    let entered := (m.step program limit).2
    entered.calls = m.position :: m.calls ∧
      ∀ count, (∀ earlier ≤ count,
          m.calls.length < (entered.after program limit earlier).calls.length) →
        (m.position :: m.calls) <:+ (entered.after program limit count).calls ∧
          ((entered.after program limit (count + 1)).calls.length ≤ m.calls.length →
            (∃ back, (entered.after program limit count).Executes program limit back ∧
              back.op = .ret) ∧
            (entered.after program limit (count + 1)).calls = m.calls ∧
            (entered.after program limit (count + 1)).position = m.position + 1) := by
  intro entered
  have called : entered.calls = m.position :: m.calls :=
    executes.calls_of_call call
  have opened : (m.position :: m.calls) <:+ entered.calls := by
    simp only [called, List.suffix_refl]
  refine ⟨called, ?_⟩
  intro count higher
  have held := open_call_after opened count higher
  refine ⟨held, ?_⟩
  intro lower
  have moves := step_moves program limit (entered.after program limit count)
  rcases moves.open_call held with deeper | ⟨back, -, closed, position⟩
  · have length := deeper.length_le
    rw [List.length_cons] at length
    rw [after] at lower
    omega
  · exact ⟨back, closed, position⟩

/-- Calls a label that calls another before it returns. -/
def nestedCalls : Program :=
  ⟨#[⟨1, .call, [.label "outer"]⟩, ⟨2, .exit, [.int 0]⟩, ⟨3, .label, [.label "outer"]⟩,
    ⟨4, .call, [.label "inner"]⟩, ⟨5, .ret, []⟩, ⟨6, .label, [.label "inner"]⟩, ⟨7, .ret, []⟩],
    by decide⟩

theorem balanced_calls_nestedCalls :
    let entered : Machine := { position := 2, steps := 1, calls := [0] }
    ((start (.bytes []) {}).step nestedCalls none).2 = entered ∧
      (entered.after nestedCalls none 3).calls = [3, 0] ∧
      (entered.after nestedCalls none 5).calls = [] ∧
      (entered.after nestedCalls none 5).position = 1 := by
  intro entered
  have stepped : ((start (.bytes []) {}).step nestedCalls none).2 = entered := by decide +kernel
  have executes : (start (.bytes []) {}).Executes nestedCalls none ⟨1, .call, [.label "outer"]⟩ :=
    ⟨by decide, rfl, rfl⟩
  have balanced :=
    (balanced_calls nestedCalls none (start (.bytes []) {}) _ executes rfl).2 4
  rw [stepped] at balanced
  have second : entered.after nestedCalls none 3 = { position := 6, steps := 4, calls := [3, 0] } := by
    decide +kernel
  have fourth : entered.after nestedCalls none 4 = { position := 4, steps := 5, calls := [0] } := by
    decide +kernel
  have fifth : (entered.after nestedCalls none 5).calls = [] := by rw [after, fourth]; rfl
  have higher : ∀ earlier ≤ 4, 0 < (entered.after nestedCalls none earlier).calls.length := by
    intro earlier le
    have cases : earlier = 0 ∨ earlier = 1 ∨ earlier = 2 ∨ earlier = 3 ∨ earlier = 4 := by omega
    rcases cases with rfl | rfl | rfl | rfl | rfl
    · decide
    · decide
    · decide +kernel
    · rw [second]; decide
    · rw [fourth]; decide
  obtain ⟨-, back⟩ := balanced higher
  obtain ⟨-, calls, position⟩ := back (by rw [fifth]; decide)
  exact ⟨stepped, by rw [second], calls, position⟩

end ThreeAddress.Machine
