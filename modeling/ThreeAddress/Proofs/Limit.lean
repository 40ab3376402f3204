import ThreeAddress.Proofs.Control
import ThreeAddress.Proofs.Runs

set_option autoImplicit false

namespace ThreeAddress.Machine

variable {program : Program} {limit : Option Nat} {m last : Machine} {count bound : Nat}
  {result : RunResult}

@[simp] theorem follow_steps (m : Machine) (outcome : Outcome) :
    (m.follow outcome).steps = m.steps := by
  cases outcome <;> rfl

theorem steps_of_done {outcome : Outcome}
    (done : m.step program limit = (.done outcome, last)) : last.steps = m.steps + 1 := by
  have moves := step_moves program limit m
  rw [done] at moves
  cases moves with
  | done executes acts =>
    change (Machine.follow _ outcome).steps = m.steps + 1
    rw [follow_steps, acts.kept.2.2]
    rfl

/-- The count of steps grows by the number of instructions that are executed. -/
theorem Ends.steps_eq (ends : Ends program limit m count result last) :
    last.steps = m.steps + count := by
  induction ends with
  | ended finished => rfl
  | cut running spent => rfl
  | @fails m last ins error executes failed =>
    have moves := step_moves program limit m
    rw [failed] at moves
    cases moves with
    | cut running given spent =>
      have allowed := executes.allowed
      rw [limitReached?_eq_some.mpr ⟨given, spent⟩] at allowed
      cases allowed
    | failed executes acts =>
      rw [acts.kept.2.2]
      rfl
  | @goes m next last outcome count result done rest ih =>
    have counted := steps_of_done done
    omega

/-- An instruction is executed only if the limit leaves room for it. -/
theorem Executes.steps_lt {ins : Instruction} (executes : m.Executes program (some bound) ins) :
    m.steps < bound := by
  by_contra full
  have spent : m.limitReached? (some bound) = some bound :=
    limitReached?_eq_some.mpr ⟨rfl, by omega⟩
  rw [executes.allowed] at spent
  cases spent

theorem Moves.steps_le {came : StepResult} (moves : Moves program (some bound) m came last)
    (le : m.steps ≤ bound) : last.steps ≤ bound := by
  cases moves with
  | ended finished => exact le
  | cut running given spent => exact le
  | failed executes acts =>
    rw [acts.kept.2.2]
    exact executes.steps_lt
  | done executes acts =>
    rw [follow_steps, acts.kept.2.2]
    exact executes.steps_lt

/-- No more steps than the limit allows are ever counted. -/
theorem Reachable.steps_le {first : Machine}
    (reached : Reachable program (some bound) first m) (le : first.steps ≤ bound) :
    m.steps ≤ bound :=
  reached.invariant (fun m => m.steps ≤ bound) le fun m le =>
    (step_moves program (some bound) m).steps_le le

theorem limitReached?_of_lt (room : m.steps < bound) : m.limitReached? (some bound) = none := by
  cases reached : m.limitReached? (some bound) with
  | none => rfl
  | some other =>
    obtain ⟨given, spent⟩ := limitReached?_eq_some.mp reached
    cases given
    omega

/-- A step before the limit is what it is without a limit. -/
theorem step_of_lt (room : m.steps < bound) :
    m.step program (some bound) = m.step program none := by
  have unlimited : m.limitReached? none = none := rfl
  simp only [step, limitReached?_of_lt room, unlimited]

/-- A run that ends before the limit ends in the same way under it. -/
theorem Ends.limited (ends : Ends program none m count result last)
    (room : m.steps + count ≤ bound) : Ends program (some bound) m count result last := by
  induction ends with
  | ended finished => exact .ended finished
  | cut running spent => cases spent
  | @fails m last ins error executes failed =>
    have before : m.steps < bound := by omega
    refine .fails ⟨executes.running, limitReached?_of_lt before, executes.here⟩ ?_
    rw [step_of_lt before]
    exact failed
  | @goes m next last outcome count result done rest ih =>
    have counted := steps_of_done done
    exact .goes (by rw [step_of_lt (by omega), done]) (ih (by omega))

/-- A run that would not end before the limit is cut off there, after the same steps. -/
theorem ends_cut (full : m.steps + count = bound)
    (later : ∀ {instructions result last},
      Ends program none m instructions result last → count < instructions) :
    Ends program (some bound) m count (.error ⟨.stepLimit bound, none⟩)
      (m.after program none count) := by
  induction count generalizing m with
  | zero =>
    have running : m.isFinished program = false := by
      cases finished : m.isFinished program with
      | false => rfl
      | true =>
        have early := later (.ended finished)
        omega
    exact .cut running (limitReached?_eq_some.mpr ⟨rfl, by omega⟩)
  | succ count ih =>
    have moves := step_moves program none m
    rcases stepped : m.step program none with ⟨came, next⟩
    rw [stepped] at moves
    rw [after_succ, stepped]
    dsimp only
    cases moves with
    | ended finished =>
      have early := later (.ended finished)
      omega
    | cut running given spent => cases given
    | failed executes acts =>
      have early := later (.fails executes stepped)
      omega
    | done executes acts =>
      have counted := steps_of_done stepped
      refine .goes (by rw [step_of_lt (by omega), stepped]) (ih (by omega) ?_)
      intro instructions result last ends
      have behind := later (.goes stepped ends)
      omega

theorem Ends.count_unique (ends : Ends program limit m count result last)
    {otherCount : Nat} {otherResult : RunResult} {otherLast : Machine}
    (other : Ends program limit m otherCount otherResult otherLast) : count = otherCount := by
  have counted := ends.steps_eq
  have otherCounted := other.steps_eq
  rw [(ends.unique other).2] at counted
  omega

/-- A limit cuts a run off and does nothing else. Under a limit every run of a program ends. If
without it the run ends after no more instructions than it allows, the result and the machine are the
same; if not, the run fails by the limit, at no instruction, in the machine that so many steps without a
limit lead to. The count of steps never passes the limit, and so fits 64 bits. -/
theorem limit_truncates (program : Program) (input : Input)
    (output : Sink) (bound : UInt64) :
    let first := start input output
    let limit := some bound.toNat
    (∃ result last, ∀ fuel, bound.toNat < fuel →
        first.run program limit fuel = (some result, last)) ∧
      (∀ count result last, Ends program none first count result last → count ≤ bound.toNat →
        first.runToEnd program limit = (some result, last) ∧ last.steps = count) ∧
      (¬ Halts program none first ∨
          (∃ count result last, Ends program none first count result last ∧ bound.toNat < count) →
        first.runToEnd program limit =
            (some (.error ⟨.stepLimit bound.toNat, none⟩), first.after program none bound.toNat) ∧
          (first.after program none bound.toNat).steps = bound.toNat) ∧
      ∀ m, Reachable program limit first m → m.steps ≤ bound.toNat ∧ m.steps < UInt64.size := by
  intro first limit
  have fresh : first.steps = 0 := rfl
  have early : ∀ {count result last}, Ends program none first count result last →
      count ≤ bound.toNat → Ends program limit first count result last := by
    intro count result last ends within
    exact ends.limited (by omega)
  have late : (∀ {count result last}, Ends program none first count result last →
      bound.toNat < count) → Ends program limit first bound.toNat
        (.error ⟨.stepLimit bound.toNat, none⟩) (first.after program none bound.toNat) :=
    ends_cut (by omega)
  refine ⟨?_, ?_, ?_, ?_⟩
  · by_cases ended : ∃ count result last,
        Ends program none first count result last ∧ count ≤ bound.toNat
    · obtain ⟨count, result, last, ends, within⟩ := ended
      refine ⟨result, last, ?_⟩
      intro fuel enough
      exact (early ends within).run_eq (by omega)
    · have cut := late fun {count result last} ends => by
        by_contra within
        exact ended ⟨count, result, last, ends, by omega⟩
      exact ⟨_, _, fun fuel enough => cut.run_eq enough⟩
  · intro count result last ends within
    have limited := early ends within
    refine ⟨limited.run_eq (Nat.lt_succ_of_le within), ?_⟩
    have counted := limited.steps_eq
    omega
  · intro endless
    have cut := late fun {count result last} ends => by
      rcases endless with never | ⟨instructions, _, _, other, behind⟩
      · exact absurd ((halts_iff).mpr ⟨count, result, last, ends⟩) never
      · rw [ends.count_unique other]
        exact behind
    refine ⟨cut.run_eq (Nat.lt_succ_self bound.toNat), ?_⟩
    have counted := cut.steps_eq
    omega
  · intro m reached
    have le := reached.steps_le (by omega)
    exact ⟨le, Nat.lt_of_le_of_lt le bound.toNat_lt_size⟩

/-- Pushes a value and ends with the last of two instructions. -/
def pushExit : Program :=
  ⟨#[⟨1, .pushs, [.int 5]⟩, ⟨2, .exit, [.int 7]⟩], by decide⟩

/-- Two steps are just enough for two instructions, and one step leaves the value that was pushed. -/
theorem limit_truncates_pushExit :
    let first := start (.bytes []) {}
    let pushed : Machine := { position := 1, steps := 1, data := [.int 5] }
    let exited : Machine := { pushed with steps := 2, exited := some 7 }
    Ends pushExit none first 2 (.ok (.exited 7)) exited ∧
      first.runToEnd pushExit (some 2) = (some (.ok (.exited 7)), exited) ∧
      first.runToEnd pushExit (some 1) = (some (.error ⟨.stepLimit 1, none⟩), pushed) := by
  intro first pushed exited
  have pushes : first.step pushExit none = (.done .advance, pushed) := by decide
  have exits : pushed.step pushExit none = (.done (.exit 7), exited) := by decide
  have ends : Ends pushExit none first 2 (.ok (.exited 7)) exited :=
    .goes pushes (.goes exits (.ended (by decide)))
  obtain ⟨-, within, -, -⟩ := limit_truncates pushExit (.bytes []) {} 2
  obtain ⟨-, -, behind, -⟩ := limit_truncates pushExit (.bytes []) {} 1
  exact ⟨ends, (within 2 _ _ ends (by decide)).1,
    (behind (Or.inr ⟨2, _, _, ends, by decide⟩)).1⟩

end ThreeAddress.Machine
