import Mathlib
import ThreeAddress.Proofs.Contents

set_option autoImplicit false

namespace ThreeAddress.Machine

variable {program : Program} {limit : Option Nat} {m : Machine} {place goal origin : Place}
  {name : String} {value : Value} {count : Nat}

theorem convertInput_ne_unset (kind : Kind) (line : Option String) :
    Operation.convertInput kind line ≠ .unset := by
  cases line with
  | none => simp [Operation.convertInput]
  | some text =>
    cases kind with
    | int =>
      simp only [Operation.convertInput]
      split <;> simp
    | bool | string | nil => simp [Operation.convertInput]

theorem computed_ne_unset {values : List Value} (written : ∀ x ∈ values, x ≠ .unset)
    (computed : Operation.Computed values value) : value ≠ .unset := by
  cases computed with
  | given member => exact written value member
  | _ => simp

theorem inherited_ne_unset (program : Program) : Inherited program (· ≠ .unset) where
  constant := by
    intro index ins a value here member literal
    cases a <;> cases literal <;> simp
  computed := computed_ne_unset
  named value := by simp
  received := convertInput_ne_unset

theorem Holding.after (holding : Holding (· ≠ .unset) m) (count : Nat) :
    Holding (· ≠ .unset) (m.after program limit count) := by
  induction count with
  | zero => exact holding
  | succ count ih => exact (inherited_ne_unset program).step limit ih

theorem Assigns.ne_unset (holding : Holding (· ≠ .unset) m)
    (assigns : Assigns program limit m place name value) : value ≠ .unset := by
  obtain ⟨ins, executes, gives⟩ := assigns.gives
  exact (inherited_ne_unset program).gives executes.here holding.counted gives

/-- A slot with a value has one after every number of steps. -/
theorem written_after (holding : Holding (· ≠ .unset) m)
    (held : m.frames.slot? place name = some value) (written : value ≠ .unset)
    (followed : m.placeAfter program limit place count = some goal) :
    ∃ now, (m.after program limit count).frames.slot? goal name = some now ∧ now ≠ .unset := by
  induction count generalizing goal with
  | zero =>
    cases followed
    exact ⟨value, held, written⟩
  | succ count ih =>
    obtain ⟨here, before, taken⟩ := Option.bind_eq_some_iff.mp followed
    obtain ⟨earlier, kept, present⟩ := ih before
    obtain ⟨frame, there, -⟩ := Frames.slot?_eq_some kept
    rcases step_slot_cases there taken name with same | ⟨new, old, assigns, now, -⟩ |
      ⟨-, -, fresh, -⟩
    · exact ⟨earlier, same.trans kept, present⟩
    · exact ⟨new, now, assigns.ne_unset (holding.after count)⟩
    · cases fresh.symm.trans kept

/-- A slot stems from the declaration that the step behind the first `created` ones made: its frame was
at `origin` then, and is at `goal` now, `age` steps later. -/
structure Stems (program : Program) (limit : Option Nat) (first : Machine) (created age : Nat)
    (origin goal : Place) (name : String) : Prop where
  declared : Declares program limit (first.after program limit created) origin name
  followed : (first.after program limit (created + 1)).placeAfter program limit origin age = some goal

/-- Every slot stems from a declaration. -/
theorem exists_stems {input : Input} {output : Sink}
    (held : ((start input output).after program limit count).frames.slot? goal name = some value) :
    ∃ created age origin, count = created + 1 + age ∧
      Stems program limit (start input output) created age origin goal name := by
  induction count generalizing goal value with
  | zero =>
    rw [after, start_slot?] at held
    cases held
  | succ count ih =>
    rcases step_slot_origin held with ⟨place, old, before, taken⟩ | ⟨declares, -, -⟩
    · obtain ⟨created, age, origin, rfl, stems⟩ := ih before
      refine ⟨created, age + 1, origin, rfl, stems.declared, ?_⟩
      rw [placeAfter, stems.followed, ← after_add]
      exact taken
    · exact ⟨count, 0, goal, rfl, declares, rfl⟩

theorem Assigns.carried (assigns : Assigns program limit m place name value) :
    m.carried program limit place = some place := by
  obtain ⟨ins, succeeds, op, -⟩ := assigns
  rw [succeeds.carried, carry_of_not_moves (Or.inl (Opcode.reframes_of_assigns op))]

/-- A slot that has no value was not assigned to, and the other way round. -/
theorem unset_iff_unassigned (holding : Holding (· ≠ .unset) m)
    (unset : m.frames.slot? place name = some .unset)
    (followed : m.placeAfter program limit place count = some goal)
    (held : (m.after program limit count).frames.slot? goal name = some value) :
    value = .unset ↔ Unassigned program limit m place name count := by
  constructor
  · rintro rfl earlier less here before new assigns
    -- The value that is assigned stays, and there would be one now.
    have assigned := assigns
    obtain ⟨ins, -, -, -, stored⟩ := assigned
    have next : m.placeAfter program limit place (earlier + 1) = some here := by
      rw [placeAfter, before]
      exact assigns.carried
    obtain ⟨rest, rfl⟩ : ∃ rest, count = earlier + 1 + rest := ⟨count - (earlier + 1), by omega⟩
    rw [placeAfter_add, next] at followed
    have written := assigns.ne_unset (holding.after earlier)
    obtain ⟨now, kept, present⟩ :=
      written_after (holding.after (earlier + 1)) stored written followed
    rw [← after_add, held] at kept
    cases kept
    exact present rfl
  · intro unassigned
    exact Option.some.inj (held.symm.trans (unassigned.slot?_after unset followed))

/-- Along every run of a program no value on the data stack is unset, no step assigns such a
value, and a slot that has a value keeps one wherever its frame goes. Every slot stems from a
declaration, and it has no value if and only if no step has assigned to it since. -/
theorem unset_until_assigned (program : Program) (limit : Option Nat)
    (input : Input) (output : Sink) (count : Nat) :
    let first := start input output
    let m := first.after program limit count
    (∀ value ∈ m.data, value ≠ .unset) ∧
      (∀ place name value, Assigns program limit m place name value → value ≠ .unset) ∧
      (∀ later place goal name value, m.frames.slot? place name = some value → value ≠ .unset →
        m.placeAfter program limit place later = some goal →
        ∃ now, (m.after program limit later).frames.slot? goal name = some now ∧ now ≠ .unset) ∧
      (∀ goal name value, m.frames.slot? goal name = some value →
        ∃ created age origin, count = created + 1 + age ∧
          Stems program limit first created age origin goal name) ∧
      ∀ created age origin goal name, count = created + 1 + age →
        Stems program limit first created age origin goal name →
        ∃ value, m.frames.slot? goal name = some value ∧
          (value = .unset ↔
            Unassigned program limit (first.after program limit (created + 1)) origin name age) := by
  intro first m
  have holdings : ∀ steps, Holding (· ≠ .unset) (first.after program limit steps) := by
    intro steps
    exact (inherited_ne_unset program).reachable ⟨steps, rfl⟩
  refine ⟨(holdings count).data, ?_, ?_, ?_, ?_⟩
  · intro place name value assigns
    exact assigns.ne_unset (holdings count)
  · intro later place goal name value held written followed
    exact written_after (holdings count) held written followed
  · intro goal name value held
    exact exists_stems held
  · intro created age origin goal name total stems
    have unset := (stems.declared.slot?).2.2
    obtain ⟨value, held⟩ := slot?_after unset stems.followed
    have here : m = (first.after program limit (created + 1)).after program limit age := by
      rw [← after_add, ← total]
    refine ⟨value, by rw [here]; exact held, ?_⟩
    exact unset_iff_unassigned (holdings (created + 1)) unset stems.followed held

/-- Declares a variable, pushes its frame and stores the name of a kind that it does not have yet. -/
def typedLate : Program :=
  ⟨#[⟨1, .createFrame, []⟩, ⟨2, .defVar, [.var ⟨.temporary, "x"⟩]⟩, ⟨3, .pushFrame, []⟩,
    ⟨4, .typeOf, [.var ⟨.localTop, "x"⟩, .var ⟨.localTop, "x"⟩]⟩, ⟨5, .popFrame, []⟩],
    by decide⟩

theorem unset_until_assigned_typedLate :
    let first := start (.bytes []) {}
    let born := first.after typedLate none 2
    Stems typedLate none first 1 1 .temporary (.localAt 0) "x" ∧
      (first.after typedLate none 3).frames.slot? (.localAt 0) "x" = some .unset ∧
      Unassigned typedLate none born .temporary "x" 1 ∧
      Stems typedLate none first 1 3 .temporary .temporary "x" ∧
      (first.after typedLate none 5).frames.slot? .temporary "x" = some (.str []) ∧
      ¬ Unassigned typedLate none born .temporary "x" 3 := by
  intro first born
  have declared : Declares typedLate none (first.after typedLate none 1) .temporary "x" := by
    refine ⟨⟨2, .defVar, [.var ⟨.temporary, "x"⟩]⟩, ⟨⟨by decide, rfl, rfl⟩, .advance, by cbv⟩, rfl,
      ⟨.temporary, "x"⟩, rfl, rfl, rfl⟩
  have pushed : Stems typedLate none first 1 1 .temporary (.localAt 0) "x" := ⟨declared, by cbv⟩
  have popped : Stems typedLate none first 1 3 .temporary .temporary "x" := ⟨declared, by cbv⟩
  have unset : (first.after typedLate none 3).frames.slot? (.localAt 0) "x" = some .unset := by cbv
  have typed : (first.after typedLate none 5).frames.slot? .temporary "x" = some (.str []) := by cbv
  obtain ⟨-, -, -, -, early⟩ := unset_until_assigned typedLate none (.bytes []) {} 3
  obtain ⟨-, -, -, -, late⟩ := unset_until_assigned typedLate none (.bytes []) {} 5
  obtain ⟨value, held, before⟩ := early 1 1 _ _ _ rfl pushed
  cases unset.symm.trans held
  obtain ⟨value, held, behind⟩ := late 1 3 _ _ _ rfl popped
  cases typed.symm.trans held
  refine ⟨pushed, unset, before.mp rfl, popped, typed, ?_⟩
  intro unassigned
  cases behind.mpr unassigned

end ThreeAddress.Machine
