import ThreeAddress.Proofs.Rules

set_option autoImplicit false

/- A slot is a name in a frame, and a frame is found at a place: the global one, the temporary one, or
one of the local ones, which are counted from the oldest. Each operation on frames is described by
what it does to the slots at every place, and `Frames.carry` says where it takes a frame. -/
namespace ThreeAddress

inductive Place where
  | global
  | temporary
  /-- A local frame; the oldest has the index 0. -/
  | localAt (index : Nat)
  deriving DecidableEq, Repr

namespace Frame

variable {frame : Frame} {name other : String} {value : Value}

theorem get?_declare : (frame.declare name).get? other =
    if other = name then some .unset else frame.get? other := by
  by_cases same : other = name
  · simp [get?, declare, same]
  · have apart : (other == name) = false := beq_eq_false_iff_ne.mpr same
    simp only [get?, declare, List.lookup_cons, apart, same, ↓reduceIte]

theorem get?_set : (frame.set name value).get? other =
    if other = name then (frame.get? other).map fun _ => value else frame.get? other := by
  simp only [get?, set]
  induction frame.slots with
  | nil => simp
  | cons slot slots ih =>
    obtain ⟨key, old⟩ := slot
    rw [List.map_cons]
    by_cases named : key = name
    · by_cases here : other = key
      · simp [named, here]
      · have apart : (other == key) = false := beq_eq_false_iff_ne.mpr here
        simpa [named ▸ apart, named ▸ here, List.lookup_cons, named] using ih
    · by_cases here : other = key
      · simp [named, here]
      · have apart : (other == key) = false := beq_eq_false_iff_ne.mpr here
        simpa [named, apart, List.lookup_cons] using ih

end Frame

namespace Frames

variable {frames after : Frames} {v : VarRef} {value : Value} {place goal : Place} {name : String}

def at? (frames : Frames) : Place → Option Frame
  | .global => some frames.global
  | .temporary => frames.temporary
  | .localAt index => frames.locals.reverse[index]?

def slot? (frames : Frames) (place : Place) (name : String) : Option Value :=
  (frames.at? place).bind (·.get? name)

def placeOf (frames : Frames) : Scope → Place
  | .global => .global
  | .localTop => .localAt (frames.depth - 1)
  | .temporary => .temporary

/-- The oldest local frames, so many of them. -/
def oldest (frames : Frames) (count : Nat) : List Frame :=
  frames.locals.reverse.take count

theorem frame?_eq_at? (frames : Frames) (scope : Scope) :
    frames.frame? scope = frames.at? (frames.placeOf scope) := by
  cases scope with
  | global | temporary => rfl
  | localTop =>
    simp only [frame?, placeOf, at?, depth]
    cases frames.locals with
    | nil => rfl
    | cons top rest => simp

theorem setFrame_at? {scope : Scope} {old frame : Frame} (present : frames.frame? scope = some old) :
    (frames.setFrame scope frame).at? place =
      if place = frames.placeOf scope then some frame else frames.at? place := by
  cases scope with
  | global | temporary => cases place <;> simp [setFrame, placeOf, at?]
  | localTop =>
    obtain ⟨rest, locals⟩ := List.head?_eq_some_iff.mp present
    cases place with
    | global | temporary => simp [setFrame, placeOf, at?]
    | localAt index =>
      have depth : frames.depth - 1 = rest.length := by simp [depth, locals]
      simp only [setFrame, placeOf, at?, locals, List.tail_cons, List.reverse_cons, depth,
        Place.localAt.injEq]
      by_cases top : index = rest.length
      · simp [top]
      · by_cases below : index < rest.length
        · simp [top, List.getElem?_append_left, below]
        · have beyond : ∀ other : Frame, (rest.reverse ++ [other])[index]? = none := by
            intro other
            apply List.getElem?_eq_none
            simp only [List.length_append, List.length_reverse, List.length_singleton]
            omega
          rw [if_neg top, beyond, beyond]

theorem setFrame_isSome_at? {scope : Scope} {old frame : Frame}
    (present : frames.frame? scope = some old) :
    ((frames.setFrame scope frame).at? place).isSome = (frames.at? place).isSome := by
  rw [setFrame_at? present]
  split
  · rename_i here
    rw [here, ← frame?_eq_at?, present]
    rfl
  · rfl

theorem setFrame_depth {scope : Scope} {old frame : Frame}
    (present : frames.frame? scope = some old) : (frames.setFrame scope frame).depth = frames.depth := by
  cases scope with
  | global | temporary => rfl
  | localTop =>
    obtain ⟨rest, locals⟩ := List.head?_eq_some_iff.mp present
    simp [setFrame, depth, locals]

/-- Only the newest local frame can be changed. -/
theorem setFrame_oldest {scope : Scope} {old frame : Frame} {count : Nat}
    (present : frames.frame? scope = some old) (below : count < frames.depth) :
    (frames.setFrame scope frame).oldest count = frames.oldest count := by
  cases scope with
  | global | temporary => rfl
  | localTop =>
    obtain ⟨rest, locals⟩ := List.head?_eq_some_iff.mp present
    have within : count ≤ rest.reverse.length := by
      simp only [depth, locals, List.length_cons] at below
      rw [List.length_reverse]
      omega
    simp only [setFrame, oldest, locals, List.tail_cons, List.reverse_cons]
    rw [List.take_append_of_le_length within, List.take_append_of_le_length within]

/-- Frames that are where others are, with contents that differ at most where a variable can name them. -/
structure SameShape (frames after : Frames) : Prop where
  isSome_at? : ∀ place, (after.at? place).isSome = (frames.at? place).isSome
  depth : after.depth = frames.depth
  oldest : ∀ count < frames.depth, after.oldest count = frames.oldest count

theorem setFrame_sameShape {scope : Scope} {old frame : Frame}
    (present : frames.frame? scope = some old) :
    SameShape frames (frames.setFrame scope frame) where
  isSome_at? _ := setFrame_isSome_at? present
  depth := setFrame_depth present
  oldest _ below := setFrame_oldest present below

theorem frame_ok {scope : Scope} {frame : Frame} (found : frames.frame scope = .ok frame) :
    frames.frame? scope = some frame := by
  unfold Frames.frame at found
  split at found
  · cases found
  · rename_i present
    cases found
    exact present

theorem assign_ok (stored : frames.assign v value = .ok after) :
    ∃ frame old, frames.frame? v.scope = some frame ∧ frame.get? v.name = some old ∧
      after = frames.setFrame v.scope (frame.set v.name value) := by
  unfold assign at stored
  split at stored
  · cases stored
  · rename_i frame present
    simp only [replace, Frames.frame, present] at stored
    split at stored
    · cases stored
    · rename_i old known
      cases stored
      exact ⟨frame, old, present, known, rfl⟩

theorem declare_ok (declared : frames.declare v = .ok after) :
    ∃ frame, frames.frame? v.scope = some frame ∧ frame.get? v.name = none ∧
      after = frames.setFrame v.scope (frame.declare v.name) := by
  unfold declare at declared
  split at declared
  · cases declared
  · rename_i frame found
    split at declared
    · cases declared
    · rename_i fresh
      cases declared
      exact ⟨frame, frame_ok found, fresh, rfl⟩

theorem assign_sameShape (stored : frames.assign v value = .ok after) : SameShape frames after := by
  obtain ⟨frame, old, present, -, rfl⟩ := assign_ok stored
  exact setFrame_sameShape present

theorem declare_sameShape (declared : frames.declare v = .ok after) : SameShape frames after := by
  obtain ⟨frame, present, -, rfl⟩ := declare_ok declared
  exact setFrame_sameShape present

theorem slot?_eq_some (held : frames.slot? place name = some value) :
    ∃ frame, frames.at? place = some frame ∧ frame.get? name = some value :=
  Option.bind_eq_some_iff.mp held

theorem slot?_of_frame? {scope : Scope} {frame : Frame} (present : frames.frame? scope = some frame) :
    frames.slot? (frames.placeOf scope) name = frame.get? name := by
  rw [slot?, ← frame?_eq_at?, present]
  rfl

theorem lookup_slot? (found : frames.lookup v = .ok value) :
    frames.slot? (frames.placeOf v.scope) v.name = some value := by
  unfold lookup at found
  split at found
  · cases found
  · rename_i frame present
    simp only [resolve, Frames.frame, present] at found
    split at found
    · cases found
    · rename_i known
      cases found
      exact (slot?_of_frame? present).trans known

theorem setFrame_slot? {scope : Scope} {old frame : Frame}
    (present : frames.frame? scope = some old) :
    (frames.setFrame scope frame).slot? place name =
      if place = frames.placeOf scope then frame.get? name else frames.slot? place name := by
  rw [slot?, setFrame_at? present]
  split <;> rfl

/-- An assignment changes one slot, which is there. -/
theorem assign_slot? (stored : frames.assign v value = .ok after) (place : Place) (name : String) :
    after.slot? place name =
      if place = frames.placeOf v.scope ∧ name = v.name then some value
      else frames.slot? place name := by
  obtain ⟨frame, old, present, known, rfl⟩ := assign_ok stored
  rw [setFrame_slot? present, Frame.get?_set]
  by_cases here : place = frames.placeOf v.scope
  · by_cases same : name = v.name
    · simp [here, same, known]
    · simp [here, same, slot?_of_frame? present]
  · simp [here]

theorem assign_known (stored : frames.assign v value = .ok after) :
    ∃ old, frames.slot? (frames.placeOf v.scope) v.name = some old := by
  obtain ⟨frame, old, present, known, -⟩ := assign_ok stored
  exact ⟨old, (slot?_of_frame? present).trans known⟩

/-- A declaration adds one slot, which was not there, to a frame. -/
theorem declare_slot? (declared : frames.declare v = .ok after) (place : Place) (name : String) :
    after.slot? place name =
      if place = frames.placeOf v.scope ∧ name = v.name then some .unset
      else frames.slot? place name := by
  obtain ⟨frame, present, fresh, rfl⟩ := declare_ok declared
  rw [setFrame_slot? present, Frame.get?_declare]
  by_cases here : place = frames.placeOf v.scope
  · by_cases same : name = v.name
    · simp [here, same]
    · simp [here, same, slot?_of_frame? present]
  · simp [here]

theorem declare_fresh (declared : frames.declare v = .ok after) :
    frames.slot? (frames.placeOf v.scope) v.name = none := by
  obtain ⟨frame, present, fresh, -⟩ := declare_ok declared
  exact (slot?_of_frame? present).trans fresh

/-- Where an operation takes the frame at a place, if it does not lose it. -/
def carry (frames : Frames) (op : Opcode) (place : Place) : Option Place :=
  match op, place with
  | .createFrame, .temporary => none
  | .pushFrame, .temporary => some (.localAt frames.depth)
  | .popFrame, .temporary => none
  | .popFrame, .localAt index =>
    if index + 1 = frames.depth then some .temporary else some (.localAt index)
  | _, place => some place

theorem push_ok (pushed : frames.push = .ok after) :
    ∃ frame, frames.temporary = some frame ∧
      after = { frames with temporary := none, locals := frame :: frames.locals } := by
  unfold push at pushed
  split at pushed
  · cases pushed
  · rename_i frame present
    cases pushed
    exact ⟨frame, present, rfl⟩

theorem pop_ok (popped : frames.pop = .ok after) :
    ∃ frame rest, frames.locals = frame :: rest ∧
      after = { frames with temporary := some frame, locals := rest } := by
  unfold pop at popped
  split at popped
  · cases popped
  · rename_i frame rest locals
    cases popped
    exact ⟨frame, rest, locals, rfl⟩

/-- An operation moves frames: those that are there after it are where it takes them, or fresh. -/
structure Carries (op : Opcode) (frames after : Frames) : Prop where
  kept : ∀ {place goal frame}, frames.at? place = some frame → frames.carry op place = some goal →
    after.at? goal = some frame
  origin : ∀ {goal frame}, after.at? goal = some frame →
    (∃ place, frames.at? place = some frame ∧ frames.carry op place = some goal) ∨
      op = .createFrame ∧ goal = .temporary ∧ frame = {}

theorem createTemporary_carries (frames : Frames) :
    Carries .createFrame frames frames.createTemporary := by
  constructor
  · intro place goal frame present taken
    cases place with
    | temporary => cases taken
    | global | localAt index =>
      cases taken
      exact present
  · intro goal frame present
    cases goal with
    | temporary =>
      cases present
      exact Or.inr ⟨rfl, rfl, rfl⟩
    | global => exact Or.inl ⟨.global, present, rfl⟩
    | localAt index => exact Or.inl ⟨.localAt index, present, rfl⟩

theorem at?_localAt_lt {index : Nat} {frame : Frame} (present : frames.at? (.localAt index) = some frame) :
    index < frames.depth := by
  obtain ⟨inside, -⟩ := List.getElem?_eq_some_iff.mp present
  rwa [List.length_reverse] at inside

theorem at?_of_lt {index : Nat} (inside : index < frames.depth) :
    ∃ frame, frames.at? (.localAt index) = some frame :=
  ⟨_, List.getElem?_eq_getElem (by rwa [List.length_reverse])⟩

theorem push_carries (pushed : frames.push = .ok after) : Carries .pushFrame frames after := by
  obtain ⟨top, temporary, rfl⟩ := push_ok pushed
  constructor
  · intro place goal frame present taken
    cases place with
    | global =>
      cases taken
      exact present
    | temporary =>
      cases taken
      have same : top = frame := Option.some.inj (temporary.symm.trans present)
      simp [at?, depth, same]
    | localAt index =>
      cases taken
      have inside : index < frames.locals.reverse.length := by
        simpa [depth] using at?_localAt_lt present
      simp only [at?, List.reverse_cons]
      rwa [List.getElem?_append_left inside]
  · intro goal frame present
    cases goal with
    | temporary => cases present
    | global => exact Or.inl ⟨.global, present, rfl⟩
    | localAt index =>
      simp only [at?, List.reverse_cons] at present
      by_cases inside : index < frames.locals.reverse.length
      · rw [List.getElem?_append_left inside] at present
        exact Or.inl ⟨.localAt index, present, rfl⟩
      · -- Only the frame that was pushed is above the others.
        have bound := (List.getElem?_eq_some_iff.mp present).1
        simp only [List.length_append, List.length_reverse, List.length_singleton] at bound inside
        have last : index = frames.depth := by
          rw [depth]
          omega
        subst last
        refine Or.inl ⟨.temporary, ?_, rfl⟩
        simpa [at?, depth, temporary] using present

theorem pop_carries (popped : frames.pop = .ok after) : Carries .popFrame frames after := by
  obtain ⟨top, rest, locals, rfl⟩ := pop_ok popped
  have depth : frames.depth = rest.length + 1 := by simp [depth, locals]
  constructor
  · intro place goal frame present taken
    cases place with
    | global =>
      cases taken
      exact present
    | temporary => cases taken
    | localAt index =>
      have inside := at?_localAt_lt present
      simp only [carry] at taken
      simp only [at?, locals, List.reverse_cons] at present
      split at taken
      · rename_i newest
        cases taken
        have last : index = rest.length := by omega
        simpa [at?, last] using present
      · cases taken
        have below : index < rest.reverse.length := by
          rw [List.length_reverse]
          omega
        rwa [List.getElem?_append_left below] at present
  · intro goal frame present
    cases goal with
    | global => exact Or.inl ⟨.global, present, rfl⟩
    | temporary =>
      cases present
      refine Or.inl ⟨.localAt rest.length, ?_, ?_⟩
      · simp [at?, locals]
      · simp [carry, depth]
    | localAt index =>
      have inside := at?_localAt_lt present
      simp only [Frames.depth] at inside
      refine Or.inl ⟨.localAt index, ?_, ?_⟩
      · simp only [at?, locals, List.reverse_cons]
        rw [List.getElem?_append_left (by simpa using inside)]
        exact present
      · have below : index + 1 ≠ frames.depth := by omega
        simp only [carry, below, ↓reduceIte]

/-- An operation that moves whole frames succeeds. -/
inductive Moved (op : Opcode) (frames after : Frames) : Prop
  | creates (same : op = .createFrame) (created : after = frames.createTemporary)
  | pushes (same : op = .pushFrame) (pushed : frames.push = .ok after)
  | pops (same : op = .popFrame) (popped : frames.pop = .ok after)

theorem Moved.carries {op : Opcode} (moved : Moved op frames after) : Carries op frames after := by
  cases moved with
  | creates same created => rw [same, created]; exact frames.createTemporary_carries
  | pushes same pushed => rw [same]; exact push_carries pushed
  | pops same popped => rw [same]; exact pop_carries popped

/-- A frame that was pushed and is popped at once is where it was. -/
theorem pop_push (pushed : frames.push = .ok after) : after.pop = .ok frames := by
  obtain ⟨frame, present, rfl⟩ := push_ok pushed
  simp only [pop]
  rw [← present]

theorem push_depth (pushed : frames.push = .ok after) : after.depth = frames.depth + 1 := by
  obtain ⟨frame, present, rfl⟩ := push_ok pushed
  rfl

theorem pop_depth (popped : frames.pop = .ok after) : frames.depth = after.depth + 1 := by
  obtain ⟨frame, rest, locals, rfl⟩ := pop_ok popped
  rw [depth, locals]
  rfl

theorem push_oldest {count : Nat} (pushed : frames.push = .ok after) (within : count ≤ frames.depth) :
    after.oldest count = frames.oldest count := by
  obtain ⟨frame, present, rfl⟩ := push_ok pushed
  rw [depth, ← List.length_reverse] at within
  simp only [oldest, List.reverse_cons]
  rw [List.take_append_of_le_length within]

theorem pop_oldest {count : Nat} (popped : frames.pop = .ok after) (within : count ≤ after.depth) :
    after.oldest count = frames.oldest count := by
  obtain ⟨frame, rest, locals, rfl⟩ := pop_ok popped
  rw [depth, ← List.length_reverse] at within
  simp only [oldest, locals, List.reverse_cons]
  rw [List.take_append_of_le_length within]

end Frames

end ThreeAddress
