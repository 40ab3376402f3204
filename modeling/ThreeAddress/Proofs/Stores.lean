import ThreeAddress.Proofs.Failure
import ThreeAddress.Proofs.Runs
import ThreeAddress.Proofs.Slots

set_option autoImplicit false

namespace ThreeAddress

/-- Whether the operation stores a value in its first operand. -/
def Opcode.assigns (op : Opcode) : Bool :=
  op.computes || op == .pops || op == .read

theorem Opcode.reframes_of_assigns {op : Opcode} (assigns : op.assigns = true) :
    op.reframes = false := by
  revert assigns
  cases op <;> decide

/-- The first operand of an instruction is the variable of a slot. -/
def Instruction.Names (ins : Instruction) (frames : Frames) (place : Place) (name : String) : Prop :=
  ∃ v, ins.operands.head? = some (.var v) ∧ frames.placeOf v.scope = place ∧ v.name = name

namespace Machine

variable {program : Program} {limit : Option Nat} {ins : Instruction} {m last : Machine}
  {place goal : Place} {name : String} {value : Value} {frame : Frame} {count : Nat}

/-- The value that an instruction has for its first operand: the one it computes, the top of the data
stack, or a line of the input. -/
inductive Gives (ins : Instruction) (m : Machine) : Value → Prop
  | computed {value : Value} (op : ins.op.computes = true) (computed : m.result ins = .ok value) :
      Gives ins m value
  | popped {value : Value} {data : DataStack} (op : ins.op = .pops) (top : m.data = value :: data) :
      Gives ins m value
  | received {kind : Kind} {line : Option String} (op : ins.op = .read) :
      Gives ins m (Operation.convertInput kind line)

theorem Acts.frames_cases {outcome : Outcome} (acts : Acts program ins m (.ok outcome) last) :
    last.frames = m.frames ∧ ins.op.assigns = false ∧ ins.op.reframes = false ∨
      (ins.op.assigns = true ∧ ∃ v value, ins.operands.head? = some (.var v) ∧ Gives ins m value ∧
        m.frames.assign v value = .ok last.frames) ∨
      (ins.op.reframes = true ∧ m.reframed ins = .ok last.frames) := by
  cases acts with
  | stores op first computed stored =>
    exact Or.inr (Or.inl ⟨by simp [Opcode.assigns, op], _, _, first, .computed op computed, stored⟩)
  | pops op operands top stored =>
    exact Or.inr (Or.inl ⟨by simp [Opcode.assigns, op], _, _, by rw [operands]; rfl, .popped op top,
      stored⟩)
  | receives op operands came stored =>
    exact Or.inr (Or.inl ⟨by simp [Opcode.assigns, op], _, _, by rw [operands]; rfl, .received op,
      stored⟩)
  | reframes op changed => exact Or.inr (Or.inr ⟨op, changed⟩)
  | passes op => rcases op with op | op | op <;> exact Or.inl ⟨rfl, by rw [op]; decide, by rw [op]; rfl⟩
  | branches op | stays op =>
    refine Or.inl ⟨rfl, ?_, ?_⟩ <;>
      cases same : ins.op <;> simp_all [Opcode.branches, Opcode.assigns, Opcode.computes, Opcode.reframes]
  | calls op | returns op | pushes op | writes op | jumps op | exits op =>
    exact Or.inl ⟨rfl, by rw [op]; decide, by rw [op]; rfl⟩

theorem reframed_cases {after : Frames} (changed : m.reframed ins = .ok after) :
    (ins.op = .defVar ∧ ∃ v, ins.operands.head? = some (.var v) ∧ m.frames.declare v = .ok after) ∨
      Frames.Moved ins.op m.frames after := by
  unfold reframed at changed
  split at changed
  · rename_i same
    cases changed
    exact Or.inr (.creates same rfl)
  · rename_i same
    exact Or.inr (.pushes same changed)
  · rename_i same
    exact Or.inr (.pops same changed)
  · rename_i v same operands
    exact Or.inl ⟨same, v, by rw [operands]; rfl, changed⟩
  · cases changed

/-- The next step executes this instruction, and succeeds. -/
structure Succeeds (program : Program) (limit : Option Nat) (m : Machine) (ins : Instruction) :
    Prop where
  executes : m.Executes program limit ins
  done : ∃ outcome, (m.step program limit).1 = .done outcome

/-- The next step succeeds and stores a value in a slot. -/
def Assigns (program : Program) (limit : Option Nat) (m : Machine) (place : Place) (name : String)
    (value : Value) : Prop :=
  ∃ ins, m.Succeeds program limit ins ∧ ins.op.assigns = true ∧ ins.Names m.frames place name ∧
    (m.step program limit).2.frames.slot? place name = some value

/-- The next step succeeds and declares the variable of a slot. -/
def Declares (program : Program) (limit : Option Nat) (m : Machine) (place : Place)
    (name : String) : Prop :=
  ∃ ins, m.Succeeds program limit ins ∧ ins.op = .defVar ∧ ins.Names m.frames place name

/-- Where the next step takes the frame at a place, if it does not lose it. -/
def carried (program : Program) (limit : Option Nat) (m : Machine) (place : Place) : Option Place :=
  match (m.step program limit).1, program.get? m.position with
  | .done _, some ins => m.frames.carry ins.op place
  | _, _ => some place

theorem Executes.unique {other : Instruction} (executes : m.Executes program limit ins)
    (again : m.Executes program limit other) : ins = other :=
  Option.some.inj (executes.here.symm.trans again.here)

theorem Succeeds.carried (succeeds : m.Succeeds program limit ins) (place : Place) :
    m.carried program limit place = m.frames.carry ins.op place := by
  obtain ⟨outcome, done⟩ := succeeds.done
  simp only [Machine.carried, done, succeeds.executes.here]

theorem carry_of_not_moves (op : ins.op.reframes = false ∨ ins.op = .defVar) (frames : Frames) :
    frames.carry ins.op place = some place := by
  rcases op with op | op
  · cases same : ins.op <;> cases place <;> simp_all [Opcode.reframes, Frames.carry]
  · rw [op]
    cases place <;> rfl

/-- All that a step can do to the frames: it keeps them where they are, with no variable changed or with
one assigned to or declared, or it moves them. -/
inductive Reframes (program : Program) (limit : Option Nat) (m : Machine) (after : Frames) : Prop
  | keeps (same : after = m.frames)
      (idle : ∀ ins, m.Succeeds program limit ins → ins.op.assigns = false ∧ ins.op.reframes = false)
      (still : ∀ place, m.carried program limit place = some place)
  | assigns {ins : Instruction} {v : VarRef} {value : Value}
      (succeeds : m.Succeeds program limit ins) (op : ins.op.assigns = true)
      (first : ins.operands.head? = some (.var v)) (gives : Gives ins m.counted value)
      (stored : m.frames.assign v value = .ok after)
      (still : ∀ place, m.carried program limit place = some place)
  | declares {ins : Instruction} {v : VarRef} (succeeds : m.Succeeds program limit ins)
      (op : ins.op = .defVar) (first : ins.operands.head? = some (.var v))
      (declared : m.frames.declare v = .ok after)
      (still : ∀ place, m.carried program limit place = some place)
  | moves {ins : Instruction} (succeeds : m.Succeeds program limit ins)
      (moved : Frames.Moved ins.op m.frames after)

@[simp] theorem follow_frames (m : Machine) (outcome : Outcome) :
    (m.follow outcome).frames = m.frames := by
  cases outcome <;> rfl

theorem carried_of_not_done (unfinished : ∀ outcome, (m.step program limit).1 ≠ .done outcome) :
    m.carried program limit place = some place := by
  unfold carried
  split
  · rename_i outcome ins done here
    exact absurd done (unfinished outcome)
  · rfl

theorem Reframes.of_not_done {after : Frames} (same : after = m.frames)
    (unfinished : ∀ outcome, (m.step program limit).1 ≠ .done outcome) :
    Reframes program limit m after := by
  apply Reframes.keeps same
  · intro ins succeeds
    obtain ⟨outcome, done⟩ := succeeds.done
    exact absurd done (unfinished outcome)
  · intro place
    exact carried_of_not_done unfinished

theorem Succeeds.acts (succeeds : m.Succeeds program limit ins) :
    ∃ outcome last, Acts program ins m.counted (.ok outcome) last ∧
      (m.step program limit).2.frames = last.frames := by
  have moves := step_moves program limit m
  obtain ⟨outcome, done⟩ := succeeds.done
  rw [done] at moves
  generalize (m.step program limit).2 = next at moves
  cases moves with
  | @done other outcome last executes acts =>
    cases succeeds.executes.unique executes
    exact ⟨outcome, last, acts, follow_frames last outcome⟩

/-- A step of a program does to the frames one of these things. -/
theorem step_reframes (program : Program) (limit : Option Nat) (m : Machine) :
    Reframes program limit m (m.step program limit).2.frames := by
  have moves := step_moves program limit m
  rcases stepped : m.step program limit with ⟨result, next⟩
  rw [stepped] at moves
  have came : (m.step program limit).1 = result := by rw [stepped]
  cases moves with
  | ended finished => exact .of_not_done rfl (by simp [came])
  | cut running given spent => exact .of_not_done rfl (by simp [came])
  | failed executes acts => exact .of_not_done acts.frames_of_error (by simp [came])
  | @done ins outcome last executes acts =>
    have succeeds : m.Succeeds program limit ins := ⟨executes, outcome, came⟩
    have still : ins.op.reframes = false ∨ ins.op = .defVar →
        ∀ place, m.carried program limit place = some place := by
      intro op place
      rw [succeeds.carried, carry_of_not_moves op]
    change Reframes program limit m (last.follow outcome).frames
    rw [follow_frames]
    rcases acts.frames_cases with ⟨same, idle⟩ | ⟨op, v, value, first, gives, stored⟩ |
      ⟨-, changed⟩
    · exact .keeps same (fun other again => executes.unique again.executes ▸ idle) (still (Or.inl idle.2))
    · exact .assigns succeeds op first gives stored (still (Or.inl (Opcode.reframes_of_assigns op)))
    · rcases reframed_cases changed with ⟨declares, v, first, declared⟩ | moved
      · exact .declares succeeds declares first declared (still (Or.inr declares))
      · exact .moves succeeds moved

/-- A step leaves all frames where they are, or moves them as they are. -/
theorem Reframes.shape_cases {after : Frames} (reframes : Reframes program limit m after) :
    (m.frames.SameShape after ∧ ∀ place, m.carried program limit place = some place) ∨
      ∃ ins, m.Succeeds program limit ins ∧ Frames.Moved ins.op m.frames after := by
  cases reframes with
  | keeps same idle still =>
    rw [same]
    exact Or.inl ⟨⟨fun _ => rfl, rfl, fun _ _ => rfl⟩, still⟩
  | assigns succeeds op first gives stored still =>
    exact Or.inl ⟨Frames.assign_sameShape stored, still⟩
  | declares succeeds op first declared still =>
    exact Or.inl ⟨Frames.declare_sameShape declared, still⟩
  | @moves ins succeeds moved => exact Or.inr ⟨ins, succeeds, moved⟩

/-- A frame that is not lost is where the step took it. -/
theorem step_at? (present : m.frames.at? place = some frame)
    (taken : m.carried program limit place = some goal) :
    ∃ later, (m.step program limit).2.frames.at? goal = some later := by
  rcases (step_reframes program limit m).shape_cases with ⟨shape, still⟩ | ⟨ins, succeeds, moved⟩
  · cases (still place).symm.trans taken
    rw [← Option.isSome_iff_exists, shape.isSome_at?, present]
    rfl
  · rw [succeeds.carried] at taken
    exact ⟨frame, moved.carries.kept present taken⟩

/-- Only the temporary frame can be lost, when a new one or a local one comes in its place. -/
theorem carried_eq_none (lost : m.carried program limit place = none) :
    place = .temporary ∧
      ∃ ins, m.Succeeds program limit ins ∧ (ins.op = .createFrame ∨ ins.op = .popFrame) := by
  rcases (step_reframes program limit m).shape_cases with ⟨-, still⟩ | ⟨ins, succeeds, -⟩
  · cases (still place).symm.trans lost
  · rw [succeeds.carried] at lost
    unfold Frames.carry at lost
    split at lost
    · exact ⟨rfl, ins, succeeds, Or.inl ‹_›⟩
    · cases lost
    · exact ⟨rfl, ins, succeeds, Or.inr ‹_›⟩
    · split at lost <;> cases lost
    · cases lost

/-- A frame comes from a place where it was before the step, or is a new one. -/
theorem step_origin {later : Frame}
    (present : (m.step program limit).2.frames.at? goal = some later) :
    (∃ place frame, m.frames.at? place = some frame ∧
      m.carried program limit place = some goal) ∨
      goal = .temporary ∧ later = {} ∧ ∃ ins, m.Succeeds program limit ins ∧ ins.op = .createFrame := by
  rcases (step_reframes program limit m).shape_cases with ⟨shape, still⟩ | ⟨ins, succeeds, moved⟩
  · have there := shape.isSome_at? goal
    rw [present] at there
    obtain ⟨before, earlier⟩ := Option.isSome_iff_exists.mp there.symm
    exact Or.inl ⟨goal, before, earlier, still goal⟩
  · rcases moved.carries.origin present with ⟨place, earlier, taken⟩ | ⟨created, temporary, fresh⟩
    · exact Or.inl ⟨place, later, earlier, by rw [succeeds.carried, taken]⟩
    · exact Or.inr ⟨temporary, fresh, ins, succeeds, created⟩

/-- A slot of a frame that is not lost has the value it had, unless the step assigned to it or declared
it. -/
theorem step_slot_cases (present : m.frames.at? place = some frame)
    (taken : m.carried program limit place = some goal) (name : String) :
    (m.step program limit).2.frames.slot? goal name = m.frames.slot? place name ∨
      (∃ value old, Assigns program limit m place name value ∧
        (m.step program limit).2.frames.slot? goal name = some value ∧
        m.frames.slot? place name = some old) ∨
      goal = place ∧ Declares program limit m place name ∧ m.frames.slot? place name = none ∧
        (m.step program limit).2.frames.slot? place name = some .unset := by
  cases step_reframes program limit m with
  | keeps same idle still =>
    cases (still place).symm.trans taken
    rw [same]
    exact Or.inl rfl
  | @assigns ins v value succeeds op first gives stored still =>
    cases (still place).symm.trans taken
    have slot := Frames.assign_slot? stored place name
    by_cases here : place = m.frames.placeOf v.scope ∧ name = v.name
    · obtain ⟨old, known⟩ := Frames.assign_known stored
      rw [if_pos here] at slot
      rw [← here.1, ← here.2] at known
      refine Or.inr (Or.inl ⟨value, old, ⟨ins, succeeds, op, ?_, slot⟩, slot, known⟩)
      exact ⟨v, first, here.1.symm, here.2.symm⟩
    · rw [if_neg here] at slot
      exact Or.inl slot
  | @declares ins v succeeds op first declared still =>
    cases (still place).symm.trans taken
    have slot := Frames.declare_slot? declared place name
    by_cases here : place = m.frames.placeOf v.scope ∧ name = v.name
    · have fresh := Frames.declare_fresh declared
      rw [if_pos here] at slot
      rw [← here.1, ← here.2] at fresh
      refine Or.inr (Or.inr ⟨rfl, ⟨ins, succeeds, op, ?_⟩, fresh, slot⟩)
      exact ⟨v, first, here.1.symm, here.2.symm⟩
    · rw [if_neg here] at slot
      exact Or.inl slot
  | moves succeeds moved =>
    rw [succeeds.carried] at taken
    refine Or.inl ?_
    rw [Frames.slot?, Frames.slot?, moved.carries.kept present taken, present]

/-- A slot that is added was declared by the step. -/
theorem step_slot_origin
    (held : (m.step program limit).2.frames.slot? goal name = some value) :
    (∃ place old, m.frames.slot? place name = some old ∧
      m.carried program limit place = some goal) ∨
      Declares program limit m goal name ∧ m.frames.slot? goal name = none ∧ value = .unset := by
  obtain ⟨later, present, known⟩ := Frames.slot?_eq_some held
  rcases step_origin present with ⟨place, frame, earlier, taken⟩ | ⟨-, rfl, -⟩
  · rcases step_slot_cases earlier taken name with same | ⟨new, old, -, -, before⟩ |
      ⟨rfl, declares, fresh, unset⟩
    · exact Or.inl ⟨place, value, same.symm.trans held, taken⟩
    · exact Or.inl ⟨place, old, before, taken⟩
    · exact Or.inr ⟨declares, fresh, Option.some.inj (held.symm.trans unset)⟩
  · cases known

/-- The value in a slot was there, or the step assigned it, or the slot is new and has none. -/
theorem step_slot_value
    (held : (m.step program limit).2.frames.slot? goal name = some value) :
    (∃ place, m.frames.slot? place name = some value) ∨
      (∃ place, Assigns program limit m place name value) ∨ value = .unset := by
  obtain ⟨later, present, known⟩ := Frames.slot?_eq_some held
  rcases step_origin present with ⟨place, frame, earlier, taken⟩ | ⟨-, rfl, -⟩
  · rcases step_slot_cases earlier taken name with same | ⟨new, old, assigns, now, -⟩ |
      ⟨rfl, -, -, unset⟩
    · exact Or.inl ⟨place, same.symm.trans held⟩
    · cases now.symm.trans held
      exact Or.inr (Or.inl ⟨place, assigns⟩)
    · exact Or.inr (Or.inr (Option.some.inj (held.symm.trans unset)))
  · cases known

/-- A value that a step assigns is the one that its instruction gives. -/
theorem Assigns.gives
    (assigns : Assigns program limit m place name value) :
    ∃ ins, m.Executes program limit ins ∧ Gives ins m.counted value := by
  obtain ⟨ins, succeeds, op, ⟨v, first, rfl, rfl⟩, stored⟩ := assigns
  obtain ⟨outcome, last, acts, frames⟩ := succeeds.acts
  rcases acts.frames_cases with ⟨-, calm, -⟩ | ⟨-, w, given, names, gives, assigned⟩ |
    ⟨reframes, -⟩
  · cases calm.symm.trans op
  · cases first.symm.trans names
    have slot := Frames.assign_slot? assigned (m.frames.placeOf v.scope) v.name
    rw [frames, slot] at stored
    cases (if_pos ⟨rfl, rfl⟩).symm.trans stored
    exact ⟨ins, succeeds.executes, gives⟩
  · cases (Opcode.reframes_of_assigns op).symm.trans reframes

/-- A declared slot is new and has no value. -/
theorem Declares.slot? (declares : Declares program limit m place name) :
    m.carried program limit place = some place ∧ m.frames.slot? place name = none ∧
      (m.step program limit).2.frames.slot? place name = some .unset := by
  obtain ⟨ins, succeeds, op, v, first, rfl, rfl⟩ := declares
  obtain ⟨outcome, last, acts, frames⟩ := succeeds.acts
  rcases acts.frames_cases with ⟨-, -, calm⟩ | ⟨assigns, -⟩ | ⟨-, changed⟩
  · rw [op] at calm
    cases calm
  · rw [op] at assigns
    cases assigns
  · rcases reframed_cases changed with ⟨-, w, names, declared⟩ | moved
    · cases first.symm.trans names
      refine ⟨?_, Frames.declare_fresh declared, ?_⟩
      · rw [succeeds.carried, carry_of_not_moves (Or.inr op)]
      · rw [frames, Frames.declare_slot? declared]
        exact if_pos ⟨rfl, rfl⟩
    · rw [op] at moved
      cases moved <;> contradiction

/-- Where the frame at a place is after so many steps, unless it was lost. -/
def placeAfter (program : Program) (limit : Option Nat) (m : Machine) (place : Place) :
    Nat → Option Place
  | 0 => some place
  | count + 1 =>
    (m.placeAfter program limit place count).bind ((m.after program limit count).carried program limit)

theorem placeAfter_add (program : Program) (limit : Option Nat) (m : Machine) (place : Place)
    (first second : Nat) :
    m.placeAfter program limit place (first + second) =
      (m.placeAfter program limit place first).bind fun here =>
        (m.after program limit first).placeAfter program limit here second := by
  induction second with
  | zero => cases m.placeAfter program limit place first <;> rfl
  | succ second ih =>
    rw [← Nat.add_assoc, placeAfter, ih, after_add, Option.bind_assoc]
    rfl

theorem placeAfter_succ (program : Program) (limit : Option Nat) (m : Machine) (place : Place)
    (count : Nat) :
    m.placeAfter program limit place (count + 1) =
      (m.carried program limit place).bind fun here =>
        (m.step program limit).2.placeAfter program limit here count := by
  rw [Nat.add_comm, placeAfter_add]
  rfl

/-- None of the next steps, so many of them, assigns to a slot, wherever its frame is. -/
def Unassigned (program : Program) (limit : Option Nat) (m : Machine) (place : Place)
    (name : String) (count : Nat) : Prop :=
  ∀ earlier < count, ∀ here, m.placeAfter program limit place earlier = some here →
    ∀ value, ¬ Assigns program limit (m.after program limit earlier) here name value

/-- A slot has a value as long as its frame is there. -/
theorem slot?_after (held : m.frames.slot? place name = some value)
    (followed : m.placeAfter program limit place count = some goal) :
    ∃ later, (m.after program limit count).frames.slot? goal name = some later := by
  induction count generalizing goal with
  | zero =>
    cases followed
    exact ⟨value, held⟩
  | succ count ih =>
    obtain ⟨here, before, taken⟩ := Option.bind_eq_some_iff.mp followed
    obtain ⟨earlier, kept⟩ := ih before
    obtain ⟨frame, present, known⟩ := Frames.slot?_eq_some kept
    rcases step_slot_cases present taken name with same | ⟨new, old, -, assigned, -⟩ |
      ⟨rfl, -, -, declared⟩
    · exact ⟨earlier, same.trans kept⟩
    · exact ⟨new, assigned⟩
    · exact ⟨.unset, declared⟩

/-- A slot keeps its value as long as no step assigns to it. -/
theorem Unassigned.slot?_after
    (unassigned : Unassigned program limit m place name count)
    (held : m.frames.slot? place name = some value)
    (followed : m.placeAfter program limit place count = some goal) :
    (m.after program limit count).frames.slot? goal name = some value := by
  induction count generalizing goal with
  | zero =>
    cases followed
    exact held
  | succ count ih =>
    obtain ⟨here, before, taken⟩ := Option.bind_eq_some_iff.mp followed
    have kept := ih (fun earlier less => unassigned earlier (by omega)) before
    obtain ⟨frame, present, known⟩ := Frames.slot?_eq_some kept
    rcases step_slot_cases present taken name with same | ⟨new, old, assigns, -, -⟩ |
      ⟨-, -, fresh, -⟩
    · exact same.trans kept
    · exact absurd assigns (unassigned count (Nat.lt_succ_self count) here before new)
    · cases fresh.symm.trans kept

end Machine

end ThreeAddress
