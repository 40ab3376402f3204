import ThreeAddress.Proofs.Control
import ThreeAddress.Proofs.Relocation
import ThreeAddress.Proofs.Runs

set_option autoImplicit false

/- A label, `dprint` and `break` do nothing but go on. A program that spreads the instructions of
another one with such instructions in between runs as the other one does, with its machines at other
places and a few steps late: from a place to the next one, or from behind a call, it has idle
instructions to pass. -/
namespace ThreeAddress

/-- Whether the operation does nothing but go on. -/
def Opcode.isIdle : Opcode → Bool
  | .label | .dprint | .brk => true
  | _ => false

namespace Program

/-- All indices from `low` up to `high` hold idle instructions. -/
def IdleBetween (program : Program) (low high : Nat) : Prop :=
  ∀ index, low ≤ index → index < high →
    ∃ ins, program.get? index = some ins ∧ ins.op.isIdle = true

/-- The instructions of one program stand in another one at other places, in the same order, with
nothing but idle instructions besides them. The end of the one is moved to the end of the other. -/
structure Spreads (program edited : Program) (place : Nat → Nat) : Prop where
  kept : ∀ {index ins}, program.get? index = some ins → edited.get? (place index) = some ins
  ascending : ∀ {i j}, i < j → j ≤ program.size → place i < place j
  ending : place program.size = edited.size
  covered : ∀ {index ins}, edited.get? index = some ins →
    ins.op.isIdle = true ∨ ∃ i < program.size, place i = index
  labels : ∀ {label index}, program.labelPosition? label = some index →
    edited.labelPosition? label = some (place index)

namespace Spreads

variable {program edited : Program} {place : Nat → Nat}

theorem place_le (spreads : Spreads program edited place) {i j : Nat} (le : i ≤ j)
    (inside : j ≤ program.size) : place i ≤ place j := by
  rcases Nat.lt_or_eq_of_le le with less | rfl
  · exact Nat.le_of_lt (spreads.ascending less inside)
  · exact Nat.le_refl _

/-- Where no instruction of the program is moved to, there are idle instructions. -/
theorem idleBetween (spreads : Spreads program edited place) {low index : Nat}
    (inside : index ≤ program.size) (skipped : ∀ i < program.size, low ≤ place i → index ≤ i) :
    edited.IdleBetween low (place index) := by
  intro other above below
  have ending := spreads.place_le inside (Nat.le_refl program.size)
  rw [spreads.ending] at ending
  obtain ⟨ins, here⟩ := get?_of_lt (show other < edited.size by omega)
  rcases spreads.covered here with idle | ⟨i, inI, rfl⟩
  · exact ⟨ins, here, idle⟩
  · have le := spreads.place_le (skipped i inI above) (Nat.le_of_lt inI)
    omega

theorem idleBetween_front (spreads : Spreads program edited place) :
    edited.IdleBetween 0 (place 0) :=
  spreads.idleBetween (Nat.zero_le _) fun _ _ _ => Nat.zero_le _

theorem idleBetween_next (spreads : Spreads program edited place) {index : Nat}
    (inside : index < program.size) : edited.IdleBetween (place index + 1) (place (index + 1)) := by
  apply spreads.idleBetween inside
  intro i inI above
  by_contra before
  have le := spreads.place_le (show i ≤ index by omega) (Nat.le_of_lt inside)
  omega

end Spreads

end Program

namespace Machine

variable {program edited : Program} {place : Nat → Nat} {m other last : Machine}
  {ins : Instruction} {count : Nat} {result : RunResult}

/-- The other machine is the first one at its other places, but may have idle instructions to pass
before it gets to the position. -/
structure Trails (edited : Program) (place : Nat → Nat) (m other : Machine) : Prop where
  same : { other with position := place m.position } = m.relocated place other.steps
  before : other.position ≤ place m.position
  idle : edited.IdleBetween other.position (place m.position)
  exited : m.exited ≠ none → other.position = place m.position

theorem trails_relocated (edited : Program) (place : Nat → Nat) (m : Machine) (count : Nat) :
    Trails edited place m (m.relocated place count) := by
  refine ⟨rfl, Nat.le_refl _, ?_, fun _ => rfl⟩
  intro index above below
  exact absurd above (Nat.not_le.mpr below)

theorem Trails.eq_relocated (trails : Trails edited place m other)
    (here : other.position = place m.position) : other = m.relocated place other.steps := by
  rw [← trails.same, ← here]

theorem execute_idle (formed : ins.WellFormed) (idle : ins.op.isIdle = true) (m : Machine) :
    execute program ins m = (.ok .advance, m) := by
  cases op : ins.op with
  | dprint => simpa only [execute, op] using executeDprint_passes formed op
  | label | brk => simp only [execute, op]
  | _ => simp [Opcode.isIdle, op] at idle

/-- A machine that is not at the place yet passes an idle instruction. -/
theorem Trails.step_idle (trails : Trails edited place m other)
    (away : other.position < place m.position) :
    ∃ next, other.step edited none = (.done .advance, next) ∧ Trails edited place m next ∧
      next.position = other.position + 1 := by
  obtain ⟨ins, here, idle⟩ := trails.idle other.position (Nat.le_refl _) away
  have notExited : other.exited = none := by
    have same := congrArg Machine.exited trails.same
    change other.exited = m.exited at same
    by_contra exited
    have arrived := trails.exited (same ▸ exited)
    omega
  have running : other.isFinished edited = false := by
    have inside := Program.get?_lt here
    simp only [isFinished, notExited, Option.isSome_none, Bool.false_or, decide_eq_false_iff_not]
    omega
  have executes : other.Executes edited none ins := ⟨running, rfl, here⟩
  have passes : execute edited ins other.counted = (.ok .advance, other.counted) :=
    execute_idle (Program.formed here) idle other.counted
  refine ⟨_, executes.step_ok passes, ⟨?_, away, ?_, ?_⟩, rfl⟩
  · have same := congrArg (fun m => { m with steps := other.steps + 1 }) trails.same
    exact same
  · intro index above below
    exact trails.idle index (Nat.le_of_succ_le above) below
  · intro exited
    have arrived := trails.exited exited
    omega

/-- The other machine gets to the place, and a run from there is a run from where it was. -/
theorem Trails.catch_up (trails : Trails edited place m other) :
    ∃ extra count, other.after edited none extra = m.relocated place count ∧
      ∀ {instructions result last},
        Ends edited none (m.relocated place count) instructions result last →
          Ends edited none other (instructions + extra) result last := by
  induction away : place m.position - other.position generalizing other with
  | zero =>
    have before := trails.before
    have arrived := trails.eq_relocated (by omega)
    refine ⟨0, other.steps, arrived, ?_⟩
    intro instructions result last ends
    rwa [← arrived] at ends
  | succ distance ih =>
    obtain ⟨next, stepped, closer, position⟩ := trails.step_idle (by omega)
    obtain ⟨extra, count, arrived, ends⟩ := ih closer (by omega)
    refine ⟨extra + 1, count, ?_, ?_⟩
    · rw [after_succ, stepped]
      exact arrived
    · intro instructions result last rest
      exact .goes stepped (ends rest)

/-- What comes of a step and of a step of the other machine: both find the run over, fail with the same
error, or go on. -/
inductive Agrees (edited : Program) (place : Nat → Nat) :
    StepResult × Machine → StepResult × Machine → Prop
  | ended {m : Machine} {count : Nat} :
      Agrees edited place (.ended, m) (.ended, m.relocated place count)
  | failed {m : Machine} {count : Nat} {error : RuntimeError} :
      Agrees edited place (.failed error, m) (.failed error, m.relocated place count)
  | done {m other : Machine} {outcome otherOutcome : Outcome}
      (trails : Trails edited place m other) :
      Agrees edited place (.done outcome, m) (.done otherOutcome, other)

theorem Agrees.trails {stepped otherStepped : StepResult × Machine}
    (agrees : Agrees edited place stepped otherStepped) :
    Trails edited place stepped.2 otherStepped.2 := by
  cases agrees with
  | ended => exact trails_relocated edited place _ _
  | failed => exact trails_relocated edited place _ _
  | done trails => exact trails

theorem relocated_finished (spreads : program.Spreads edited place)
    (controlled : Controlled program m) (finished : m.isFinished program = true) :
    (m.relocated place count).isFinished edited = true := by
  simp only [isFinished, Bool.or_eq_true, decide_eq_true_eq] at finished ⊢
  rcases finished with exited | behind
  · exact Or.inl exited
  · right
    have position : m.position = program.size := Nat.le_antisymm controlled.position behind
    change edited.size ≤ place m.position
    rw [position]
    exact Nat.le_of_eq spreads.ending.symm

theorem Executes.relocated (spreads : program.Spreads edited place)
    (executes : m.Executes program none ins) (count : Nat) :
    (m.relocated place count).Executes edited none ins := by
  have here := spreads.kept executes.here
  have inside := Program.get?_lt here
  have running := executes.running
  simp only [isFinished, Bool.or_eq_false_iff, decide_eq_false_iff_not] at running
  refine ⟨?_, rfl, here⟩
  simp only [isFinished, Bool.or_eq_false_iff, decide_eq_false_iff_not, Nat.not_le]
  exact ⟨running.1, inside⟩

theorem Trails.follow_next (spreads : program.Spreads edited place) {index : Nat}
    (inside : index < program.size) (running : m.exited = none) (count : Nat) :
    Trails edited place { m with position := index + 1 }
      { m.relocated place count with position := place index + 1 } :=
  ⟨rfl, spreads.ascending (Nat.lt_succ_self index) inside, spreads.idleBetween_next inside,
    fun exited => absurd running exited⟩

/-- A label that an instruction goes to moves along with its place. -/
theorem target_moved (spreads : program.Spreads edited place)
    {index : Nat} (here : program.get? index = some ins) {label : String}
    (targets : ins.targetLabel? = some label) :
    edited.labelPosition? label = (program.labelPosition? label).map place := by
  obtain ⟨target, found⟩ := Program.labelPosition?_of_mem (Program.defined here targets)
  rw [found, spreads.labels found]
  rfl

/-- A return that goes on behind a call has idle instructions to pass there. -/
theorem return_agrees (spreads : program.Spreads edited place) (controlled : Controlled program m)
    (executes : m.Executes program none ins) (back : ins.op = .ret) (count : Nat) :
    Agrees edited place (m.step program none) ((m.relocated place count).step edited none) := by
  have moved := executes.relocated spreads count
  cases top : m.calls with
  | nil =>
    have effect : execute program ins m.counted = (.error .callStackEmpty, m.counted) := by
      simp only [execute, back, executeReturn, counted, top, CallStack.pop, fail]
    have other : execute edited ins (m.relocated place count).counted =
        (.error .callStackEmpty, m.counted.relocated place (count + 1)) := by
      simp only [execute, back, executeReturn, counted, relocated, top, List.map_nil, CallStack.pop,
        fail]
    rw [executes.step_error effect, moved.step_error other]
    exact .failed
  | cons index calls =>
    have effect : execute program ins m.counted =
        (.ok (.jump (index + 1)), { m.counted with calls }) := by
      simp only [execute, back, executeReturn, counted, top, CallStack.pop]
    have other : execute edited ins (m.relocated place count).counted =
        (.ok (.jump (place index + 1)),
          { m.counted.relocated place (count + 1) with calls := calls.map place }) := by
      simp only [execute, back, executeReturn, counted, relocated, top, List.map_cons, CallStack.pop]
    obtain ⟨call, here, -⟩ := controlled.calls index (by rw [top]; exact List.mem_cons_self)
    rw [executes.step_ok effect, moved.step_ok other]
    exact .done (Trails.follow_next (m := { m.counted with calls }) spreads (Program.get?_lt here)
      (exited_of_running executes.running) (count + 1))

/-- A step of a machine and one of the same machine at its other places agree. -/
theorem step_agrees (spreads : program.Spreads edited place)
    (controlled : Controlled program m) (count : Nat) :
    Agrees edited place (m.step program none) ((m.relocated place count).step edited none) := by
  cases running : m.isFinished program with
  | true =>
    rw [step_of_finished running, step_of_finished (relocated_finished spreads controlled running)]
    exact .ended
  | false =>
    have inside := position_lt_of_running running
    obtain ⟨ins, here⟩ := Program.get?_of_lt inside
    have executes : m.Executes program none ins := ⟨running, rfl, here⟩
    by_cases back : ins.op = .ret
    · exact return_agrees spreads controlled executes back count
    · have moved := executes.relocated spreads count
      have acts := execute_acts here m.counted
      have same : execute edited ins (m.relocated place count).counted =
          (execute program ins m.counted).relocated place (count + 1) :=
        execute_relocated (m := m.counted) (fun _ => target_moved spreads here)
          fun op => absurd op back
      rcases effect : execute program ins m.counted with ⟨fault | outcome, last⟩
      · rw [effect] at same
        rw [executes.step_error effect, moved.step_error same]
        exact .failed
      · rw [effect] at same acts
        rw [executes.step_ok effect, moved.step_ok same]
        cases outcome with
        | advance =>
          obtain ⟨position, exited, -⟩ := acts.kept
          have inside : last.position < program.size := by
            rw [position]
            exact inside
          exact .done (Trails.follow_next spreads inside (exited.trans (exited_of_running running))
            (count + 1))
        | jump target => exact .done (trails_relocated edited place _ _)
        | exit code => exact .done (trails_relocated edited place _ _)

theorem Controlled.step (controlled : Controlled program m) :
    Controlled program (m.step program none).2 :=
  (step_moves program none m).controlled controlled

/-- Where a run ends, so does the run that trails it, and at the same place. -/
theorem Ends.spread (spreads : program.Spreads edited place)
    (ends : Ends program none m count result last) (controlled : Controlled program m)
    (trails : Trails edited place m other) :
    ∃ otherCount steps, Ends edited none other otherCount result (last.relocated place steps) := by
  induction ends generalizing other with
  | @ended m finished =>
    obtain ⟨extra, steps, -, arrives⟩ := trails.catch_up
    exact ⟨_, steps, arrives (.ended (relocated_finished spreads controlled finished))⟩
  | cut running spent => cases spent
  | @fails m last ins error executes failed =>
    obtain ⟨extra, steps, -, arrives⟩ := trails.catch_up
    have agrees := step_agrees spreads controlled steps
    rw [failed] at agrees
    rcases stepped : (m.relocated place steps).step edited none with ⟨came, next⟩
    rw [stepped] at agrees
    cases agrees with
    | failed => exact ⟨_, _, arrives (.fails (executes.relocated spreads steps) stepped)⟩
  | @goes m next last outcome count result done rest ih =>
    obtain ⟨extra, steps, -, arrives⟩ := trails.catch_up
    have agrees := step_agrees spreads controlled steps
    have kept := controlled.step
    rw [done] at agrees kept
    rcases stepped : (m.relocated place steps).step edited none with ⟨came, otherNext⟩
    rw [stepped] at agrees
    cases agrees with
    | done trails =>
      obtain ⟨otherCount, steps, ends⟩ := ih kept trails
      exact ⟨_, steps, arrives (.goes stepped ends)⟩

/-- A machine that trails another one passes an idle instruction, or its step and that of the other one
agree. -/
theorem Trails.step_cases (spreads : program.Spreads edited place)
    (controlled : Controlled program m) (trails : Trails edited place m other) :
    (∃ next, other.step edited none = (.done .advance, next) ∧ Trails edited place m next) ∨
      Agrees edited place (m.step program none) (other.step edited none) := by
  rcases Nat.lt_or_eq_of_le trails.before with away | here
  · obtain ⟨next, stepped, closer, -⟩ := trails.step_idle away
    exact Or.inl ⟨next, stepped, closer⟩
  · right
    rw [trails.eq_relocated here]
    exact step_agrees spreads controlled other.steps

/-- Where a run ends that trails another one, the other one ends too. -/
theorem Ends.gather (spreads : program.Spreads edited place)
    (ends : Ends edited none other count result last) (controlled : Controlled program m)
    (trails : Trails edited place m other) :
    ∃ instructions first, Ends program none m instructions result first := by
  induction ends generalizing m with
  | @ended other finished =>
    have moves := step_moves program none m
    rcases trails.step_cases spreads controlled with ⟨next, passed, -⟩ | agrees
    · rw [step_of_finished finished] at passed
      cases passed
    · rw [step_of_finished finished] at agrees
      rcases stepped : m.step program none with ⟨came, next⟩
      rw [stepped] at agrees moves
      cases agrees
      cases moves with
      | ended finished => exact ⟨0, _, .ended finished⟩
  | cut running spent => cases spent
  | @fails other last ins error executes failed =>
    have moves := step_moves program none m
    rcases trails.step_cases spreads controlled with ⟨next, passed, -⟩ | agrees
    · rw [failed] at passed
      cases passed
    · rw [failed] at agrees
      rcases stepped : m.step program none with ⟨came, next⟩
      rw [stepped] at agrees moves
      cases agrees
      cases moves with
      | cut running given spent => cases given
      | failed executes acts => exact ⟨1, next, .fails executes stepped⟩
  | @goes other next last outcome count result done rest ih =>
    rcases trails.step_cases spreads controlled with ⟨passedNext, passed, closer⟩ | agrees
    · rw [done] at passed
      cases passed
      exact ih controlled closer
    · have kept := controlled.step
      rw [done] at agrees
      rcases stepped : m.step program none with ⟨came, firstNext⟩
      rw [stepped] at agrees kept
      cases agrees with
      | done trails =>
        obtain ⟨instructions, first, ends⟩ := ih kept trails
        exact ⟨instructions + 1, first, .goes stepped ends⟩

/-- Every machine of a run has its like, at its other places, in the run that trails it. -/
theorem after_spread (spreads : program.Spreads edited place)
    (controlled : Controlled program m) (trails : Trails edited place m other) (count : Nat) :
    ∃ extra steps, other.after edited none (count + extra) =
      (m.after program none count).relocated place steps := by
  have inside : ∀ count, Controlled program (m.after program none count) := by
    intro count
    induction count with
    | zero => exact controlled
    | succ count ih => exact ih.step
  induction count with
  | zero =>
    obtain ⟨extra, steps, arrived, -⟩ := trails.catch_up
    exact ⟨extra, steps, by rw [Nat.zero_add]; exact arrived⟩
  | succ count ih =>
    obtain ⟨extra, steps, arrived⟩ := ih
    have agrees := step_agrees spreads (inside count) steps
    obtain ⟨more, steps, caughtUp, -⟩ := agrees.trails.catch_up
    refine ⟨extra + more, steps, ?_⟩
    have split : count + 1 + (extra + more) = count + extra + 1 + more := by omega
    rw [split, after_add, after, arrived]
    exact caughtUp

end Machine

end ThreeAddress
