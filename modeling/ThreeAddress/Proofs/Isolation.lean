import Mathlib
import ThreeAddress.Proofs.Stores

set_option autoImplicit false

namespace ThreeAddress.Machine

variable {program : Program} {limit : Option Nat} {ins : Instruction} {m : Machine} {after : Frames}
  {place goal : Place} {name : String} {count index : Nat}

theorem Reframes.oldest (reframes : Reframes program limit m after) (below : count < m.frames.depth)
    (still : count < after.depth) : after.oldest count = m.frames.oldest count := by
  rcases reframes.shape_cases with ⟨shape, -⟩ | ⟨ins, -, moved⟩
  · exact shape.oldest count below
  · cases moved with
    | creates same created => rw [created]; rfl
    | pushes same pushed => exact Frames.push_oldest pushed (by omega)
    | pops same popped => exact Frames.pop_oldest popped (by omega)

/-- A step keeps a local frame in its place, or pops it. -/
theorem Reframes.local_cases (reframes : Reframes program limit m after)
    (deep : index < m.frames.depth) :
    index < after.depth ∧ m.carried program limit (.localAt index) = some (.localAt index) ∨
      (∃ ins, m.Succeeds program limit ins ∧ ins.op = .popFrame) ∧ after.depth = index ∧
        m.carried program limit (.localAt index) = some .temporary ∧
        after.temporary = m.frames.at? (.localAt index) := by
  rcases reframes.shape_cases with ⟨shape, still⟩ | ⟨ins, succeeds, moved⟩
  · exact Or.inl ⟨by rw [shape.depth]; exact deep, still _⟩
  · have taken := succeeds.carried (.localAt index)
    cases moved with
    | creates same created =>
      rw [same] at taken
      exact Or.inl ⟨by rw [created]; exact deep, taken⟩
    | pushes same pushed =>
      have deeper := Frames.push_depth pushed
      rw [same] at taken
      exact Or.inl ⟨by omega, taken⟩
    | pops same popped =>
      have depth := Frames.pop_depth popped
      rw [same] at taken
      by_cases newest : index + 1 = m.frames.depth
      · have top : m.frames.carry .popFrame (.localAt index) = some .temporary := by
          simp only [Frames.carry, newest, ↓reduceIte]
        obtain ⟨frame, present⟩ := Frames.at?_of_lt deep
        refine Or.inr ⟨⟨ins, succeeds, same⟩, by omega, taken.trans top, ?_⟩
        rw [present]
        exact (Frames.pop_carries popped).kept present top
      · have kept : m.frames.carry .popFrame (.localAt index) = some (.localAt index) := by
          simp only [Frames.carry, newest, ↓reduceIte]
        exact Or.inl ⟨by omega, taken.trans kept⟩

/-- As long as the frames are deeper, the oldest of them stay as they are. -/
theorem oldest_after
    (deeper : ∀ earlier ≤ count, index < (m.after program limit earlier).frames.depth) :
    (m.after program limit count).frames.oldest index = m.frames.oldest index := by
  induction count with
  | zero => rfl
  | succ count ih =>
    have before := ih fun earlier le => deeper earlier (by omega)
    have below := deeper count (by omega)
    have still := deeper (count + 1) (Nat.le_refl _)
    rw [← before]
    exact (step_reframes program limit (m.after program limit count)).oldest below still

/-- As long as the frames are deeper, a local frame stays in its place. -/
theorem placeAfter_local
    (deeper : ∀ earlier ≤ count, index < (m.after program limit earlier).frames.depth) :
    m.placeAfter program limit (.localAt index) count = some (.localAt index) := by
  induction count with
  | zero => rfl
  | succ count ih =>
    have before := ih fun earlier le => deeper earlier (by omega)
    have below := deeper count (by omega)
    have still := deeper (count + 1) (Nat.le_refl _)
    rw [placeAfter, before]
    rcases (step_reframes program limit (m.after program limit count)).local_cases below with
      ⟨-, kept⟩ | ⟨-, popped, -⟩
    · exact kept
    · rw [after] at still
      omega

theorem Succeeds.pushed (succeeds : m.Succeeds program limit ins)
    (op : ins.op = .pushFrame) : m.frames.push = .ok (m.step program limit).2.frames := by
  obtain ⟨outcome, last, acts, frames⟩ := succeeds.acts
  rcases acts.frames_cases with ⟨-, -, calm⟩ | ⟨assigns, -⟩ | ⟨-, changed⟩
  · rw [op] at calm
    cases calm
  · rw [op] at assigns
    cases assigns
  · simp only [reframed, op] at changed
    rw [frames]
    exact changed

theorem Executes.step_popFrame (executes : m.Executes program limit ins) (op : ins.op = .popFrame)
    (popped : m.frames.pop = .ok after) :
    m.step program limit = (.done .advance, { m.counted with frames := after }.follow .advance) := by
  apply executes.step_ok
  have counted : m.counted.frames.pop = .ok after := popped
  simp only [execute, op, counted, withFrames]

/-- What holds of the frames of a machine whatever instructions come. -/
structure FramesIsolated (program : Program) (limit : Option Nat) (m : Machine) : Prop where
  /-- A slot changes only in a step that succeeds and stores in the variable of this slot. -/
  changed : ∀ place goal name old new, m.frames.slot? place name = some old →
    m.carried program limit place = some goal →
    (m.step program limit).2.frames.slot? goal name = some new → new ≠ old →
    Assigns program limit m place name new
  /-- So over any number of steps, none of which stores in it, a slot has the same value. -/
  unassigned : ∀ count place goal name value, m.frames.slot? place name = some value →
    m.placeAfter program limit place count = some goal →
    Unassigned program limit m place name count →
    (m.after program limit count).frames.slot? goal name = some value
  /-- A slot that no frame had before the step was declared by it and has no value. -/
  added : ∀ goal name value, (m.step program limit).2.frames.slot? goal name = some value →
    (∃ place old, m.frames.slot? place name = some old ∧ m.carried program limit place = some goal) ∨
      Declares program limit m goal name ∧ m.frames.slot? goal name = none ∧ value = .unset
  /-- A slot is declared once, wherever its frame goes later. -/
  once : ∀ place name, Declares program limit m place name →
    m.frames.slot? place name = none ∧
      (m.step program limit).2.frames.slot? place name = some .unset ∧
      ∀ count goal, m.placeAfter program limit place (count + 1) = some goal →
        ¬ Declares program limit (m.after program limit (count + 1)) goal name
  /-- A frame keeps its slots, unless it is the temporary one and another comes in its place. -/
  kept : ∀ place frame, m.frames.at? place = some frame →
    (∃ goal later, m.carried program limit place = some goal ∧
      (m.step program limit).2.frames.at? goal = some later ∧
      ∀ name, frame.get? name ≠ none → later.get? name ≠ none) ∨
      place = .temporary ∧ m.carried program limit place = none ∧
        ∃ ins, m.Succeeds program limit ins ∧ (ins.op = .createFrame ∨ ins.op = .popFrame)
  /-- A global variable is never lost. -/
  global : ∀ count name, m.frames.slot? .global name ≠ none →
    (m.after program limit count).frames.slot? .global name ≠ none
  /-- As long as there are more local frames, the oldest stay as they are. -/
  oldest : ∀ count index,
    (∀ earlier ≤ count, index < (m.after program limit earlier).frames.depth) →
    (m.after program limit count).frames.oldest index = m.frames.oldest index
  /-- A `popframe` right behind a `pushframe` undoes it. -/
  undone : ∀ push pop, m.Succeeds program limit push → push.op = .pushFrame →
    (m.step program limit).2.Executes program limit pop → pop.op = .popFrame →
    (m.step program limit).2.Succeeds program limit pop ∧
      (m.after program limit 2).frames = m.frames
  /-- The step after which there are no more local frames than before a `pushframe` is a `popframe`,
  and the frame that was pushed is the temporary one again, as it was just before this step. -/
  returned : ∀ push, m.Succeeds program limit push → push.op = .pushFrame →
    (m.after program limit 1).frames.at? (.localAt m.frames.depth) = m.frames.temporary ∧
    ∀ count, (∀ earlier ≤ count,
        m.frames.depth < (m.after program limit (earlier + 1)).frames.depth) →
      m.placeAfter program limit .temporary (count + 1) = some (.localAt m.frames.depth) ∧
      ((m.after program limit (count + 2)).frames.depth ≤ m.frames.depth →
        (∃ pop, (m.after program limit (count + 1)).Succeeds program limit pop ∧
          pop.op = .popFrame) ∧
        (m.after program limit (count + 2)).frames.depth = m.frames.depth ∧
        m.placeAfter program limit .temporary (count + 2) = some .temporary ∧
        (m.after program limit (count + 2)).frames.temporary =
          (m.after program limit (count + 1)).frames.at? (.localAt m.frames.depth))

theorem once_declared (declares : Declares program limit m place name)
    (followed : m.placeAfter program limit place (count + 1) = some goal) :
    ¬ Declares program limit (m.after program limit (count + 1)) goal name := by
  intro again
  obtain ⟨still, -, unset⟩ := declares.slot?
  rw [placeAfter_succ, still] at followed
  obtain ⟨later, held⟩ := slot?_after unset followed
  rw [after_succ] at again
  cases (again.slot?).2.1.symm.trans held

theorem frames_kept {frame : Frame}
    (present : m.frames.at? place = some frame) :
    (∃ goal later, m.carried program limit place = some goal ∧
      (m.step program limit).2.frames.at? goal = some later ∧
      ∀ name, frame.get? name ≠ none → later.get? name ≠ none) ∨
      place = .temporary ∧ m.carried program limit place = none ∧
        ∃ ins, m.Succeeds program limit ins ∧ (ins.op = .createFrame ∨ ins.op = .popFrame) := by
  cases taken : m.carried program limit place with
  | none =>
    obtain ⟨temporary, replaced⟩ := carried_eq_none taken
    exact Or.inr ⟨temporary, rfl, replaced⟩
  | some goal =>
    obtain ⟨later, there⟩ := step_at? present taken
    refine Or.inl ⟨goal, later, rfl, there, ?_⟩
    intro name known
    obtain ⟨value, held⟩ := Option.ne_none_iff_exists'.mp known
    have slot : m.frames.slot? place name = some value := by rw [Frames.slot?, present]; exact held
    have followed : m.placeAfter program limit place 1 = some goal := taken
    obtain ⟨new, kept⟩ := slot?_after slot followed
    rw [Frames.slot?, show (m.after program limit 1).frames.at? goal = some later from there] at kept
    exact Option.ne_none_iff_exists'.mpr ⟨new, kept⟩

theorem placeAfter_global (count : Nat) :
    m.placeAfter program limit .global count = some .global := by
  induction count with
  | zero => rfl
  | succ count ih =>
    rw [placeAfter, ih]
    change (m.after program limit count).carried program limit .global = some .global
    rcases (step_reframes program limit (m.after program limit count)).shape_cases with
      ⟨-, still⟩ | ⟨ins, succeeds, moved⟩
    · exact still _
    · rw [succeeds.carried]
      cases moved with
      | creates same | pushes same | pops same => rw [same]; rfl

theorem returned_frame (succeeds : m.Succeeds program limit ins)
    (op : ins.op = .pushFrame)
    (deeper : ∀ earlier ≤ count,
      m.frames.depth < (m.after program limit (earlier + 1)).frames.depth) :
    m.placeAfter program limit .temporary (count + 1) = some (.localAt m.frames.depth) ∧
      ((m.after program limit (count + 2)).frames.depth ≤ m.frames.depth →
        (∃ pop, (m.after program limit (count + 1)).Succeeds program limit pop ∧
          pop.op = .popFrame) ∧
        (m.after program limit (count + 2)).frames.depth = m.frames.depth ∧
        m.placeAfter program limit .temporary (count + 2) = some .temporary ∧
        (m.after program limit (count + 2)).frames.temporary =
          (m.after program limit (count + 1)).frames.at? (.localAt m.frames.depth)) := by
  have entered : m.carried program limit .temporary = some (.localAt m.frames.depth) := by
    rw [succeeds.carried, op]
    rfl
  have followed : m.placeAfter program limit .temporary (count + 1) =
      some (.localAt m.frames.depth) := by
    rw [placeAfter_succ, entered]
    apply placeAfter_local
    intro earlier le
    rw [← after_succ]
    exact deeper earlier le
  refine ⟨followed, ?_⟩
  intro shallow
  have reframes := step_reframes program limit (m.after program limit (count + 1))
  rcases reframes.local_cases (deeper count (Nat.le_refl _)) with ⟨still, -⟩ |
    ⟨popped, depth, taken, temporary⟩
  · rw [after] at shallow
    omega
  · refine ⟨popped, depth, ?_, temporary⟩
    rw [placeAfter, followed]
    exact taken

/-- Frames are isolated in every machine of a program. -/
theorem frames_isolated (program : Program) (limit : Option Nat)
    (m : Machine) : FramesIsolated program limit m where
  changed place goal name old new held taken later differs := by
    obtain ⟨frame, present, -⟩ := Frames.slot?_eq_some held
    rcases step_slot_cases present taken name with same | ⟨value, -, assigns, now, -⟩ |
      ⟨-, -, fresh, -⟩
    · rw [same, held] at later
      cases later
      exact absurd rfl differs
    · cases now.symm.trans later
      exact assigns
    · cases fresh.symm.trans held
  unassigned count place goal name value held followed unassigned :=
    unassigned.slot?_after held followed
  added goal name value held := step_slot_origin held
  once place name declares := by
    obtain ⟨-, fresh, unset⟩ := declares.slot?
    exact ⟨fresh, unset, fun count goal followed => once_declared declares followed⟩
  kept place frame present := frames_kept present
  global count name known := by
    obtain ⟨value, held⟩ := Option.ne_none_iff_exists'.mp known
    apply Option.ne_none_iff_exists'.mpr
    exact slot?_after held (placeAfter_global count)
  oldest count index deeper := oldest_after deeper
  undone push pop succeeds op executes back := by
    have restored := Frames.pop_push (succeeds.pushed op)
    have popped := executes.step_popFrame back restored
    refine ⟨⟨executes, .advance, by rw [popped]⟩, ?_⟩
    rw [after_succ, after, after, popped]
    rfl
  returned push succeeds op := by
    refine ⟨?_, fun count deeper => returned_frame succeeds op deeper⟩
    obtain ⟨frame, temporary, frames⟩ := Frames.push_ok (succeeds.pushed op)
    have pushed := Frames.push_carries (succeeds.pushed op)
    have present : m.frames.at? .temporary = some frame := temporary
    rw [temporary]
    exact pushed.kept present rfl

/-- Pushes a frame with a variable, another one on top of it, and pops both. -/
def nestedFrames : Program :=
  ⟨#[⟨1, .createFrame, []⟩, ⟨2, .defVar, [.var ⟨.temporary, "x"⟩]⟩, ⟨3, .pushFrame, []⟩,
    ⟨4, .createFrame, []⟩, ⟨5, .pushFrame, []⟩, ⟨6, .popFrame, []⟩,
    ⟨7, .move, [.var ⟨.localTop, "x"⟩, .int 2]⟩, ⟨8, .popFrame, []⟩], by decide⟩

theorem frames_isolated_nestedFrames :
    let m : Machine :=
      { position := 2, steps := 2, frames := { temporary := some ⟨[("x", .unset)]⟩ } }
    Reachable nestedFrames none (start (.bytes []) {}) m ∧
      m.placeAfter nestedFrames none .temporary 5 = some (.localAt 0) ∧
      m.placeAfter nestedFrames none .temporary 6 = some .temporary ∧
      (m.after nestedFrames none 6).frames.temporary = some ⟨[("x", .int 2)]⟩ := by
  intro m
  have reached : Reachable nestedFrames none (start (.bytes []) {}) m := ⟨2, by cbv⟩
  have succeeds : m.Succeeds nestedFrames none ⟨3, .pushFrame, []⟩ :=
    ⟨⟨by decide, rfl, rfl⟩, .advance, by decide⟩
  obtain ⟨-, back⟩ := (frames_isolated nestedFrames none m).returned _ succeeds rfl
  rw [show m.frames.depth = 0 from rfl] at back
  have deeper : ∀ earlier ≤ 4, 0 < (m.after nestedFrames none (earlier + 1)).frames.depth := by
    intro earlier le
    have cases : earlier = 0 ∨ earlier = 1 ∨ earlier = 2 ∨ earlier = 3 ∨ earlier = 4 := by omega
    rcases cases with rfl | rfl | rfl | rfl | rfl <;> cbv
  have followed := back 4 deeper
  simp only [Nat.reduceAdd] at followed
  obtain ⟨inside, popped⟩ := followed
  have shallow : (m.after nestedFrames none 6).frames.depth ≤ 0 := by cbv
  obtain ⟨-, -, outside, temporary⟩ := popped shallow
  have changed : (m.after nestedFrames none 5).frames.at? (.localAt 0) =
      some ⟨[("x", .int 2)]⟩ := by cbv
  exact ⟨reached, inside, outside, temporary.trans changed⟩

end ThreeAddress.Machine
