import ThreeAddress.Proofs.Contents
import ThreeAddress.Proofs.Encoding

set_option autoImplicit false

namespace ThreeAddress

namespace Utf8

theorem valid_encode (cs : List Char) : valid (encode cs) = true :=
  valid_iff.mpr ⟨cs, rfl⟩

theorem valid_ofString (text : String) : valid (ofString text) = true :=
  valid_encode text.toList

theorem valid_encodeChar (c : Char) : valid (encodeChar c) = true :=
  valid_iff.mpr ⟨[c], (List.append_nil _).symm⟩

theorem valid_append {first second : Bytes} (text : valid first = true) (more : valid second = true) :
    valid (first ++ second) = true := by
  obtain ⟨cs, rfl⟩ := valid_iff.mp text
  obtain ⟨ds, rfl⟩ := valid_iff.mp more
  rw [← encode_append]
  exact valid_encode _

theorem valid_flatten {pieces : List Bytes} (texts : ∀ piece ∈ pieces, valid piece = true) :
    valid pieces.flatten = true := by
  induction pieces with
  | nil => rfl
  | cons piece rest ih =>
    rw [List.forall_mem_cons] at texts
    exact valid_append texts.1 (ih texts.2)

theorem valid_of_mem_characters {bytes char : Bytes} (text : valid bytes = true)
    (member : char ∈ Text.characters bytes) : valid char = true := by
  obtain ⟨cs, read⟩ := Option.isSome_iff_exists.mp text
  simp only [Text.characters, read, List.mem_map] at member
  obtain ⟨c, -, rfl⟩ := member
  exact valid_encodeChar c

end Utf8

namespace Value

/-- A value that is no string, or one that is valid UTF-8. -/
def IsText : Value → Prop
  | .str bytes => Utf8.valid bytes = true
  | _ => True

theorem IsText.render {value : Value} (text : value.IsText) : Utf8.valid value.render = true := by
  cases value with
  | unset | nil => rfl
  | int n => exact Utf8.valid_ofString _
  | bool b => exact Utf8.valid_ofString _
  | str bytes => exact text

end Value

theorem Operation.convertInput_isText (kind : Kind) (line : Option String) :
    (convertInput kind line).IsText := by
  cases line with
  | none => trivial
  | some text =>
    cases kind with
    | int =>
      simp only [convertInput]
      split <;> trivial
    | bool | nil => trivial
    | string => exact Utf8.valid_ofString text

theorem Operation.Computed.isText {values : List Value} {value : Value}
    (computed : Computed values value) (texts : ∀ x ∈ values, x.IsText) : value.IsText := by
  cases computed with
  | given member => exact texts value member
  | int | bool => trivial
  | joined first second => exact Utf8.valid_append (texts _ first) (texts _ second)
  | selected source member => exact Utf8.valid_of_mem_characters (texts _ source) member
  | encoded c => exact Utf8.valid_encodeChar c
  | replaced place source replacement first =>
    apply Utf8.valid_flatten
    intro piece member
    -- Every character is one of the string, or the one that comes in the place of another.
    rcases List.mem_or_eq_of_mem_set member with old | rfl
    · exact Utf8.valid_of_mem_characters (texts _ source) old
    · apply Utf8.valid_of_mem_characters (texts _ replacement)
      rw [first]
      exact List.mem_cons_self

/-- All strings among the operands of a program are valid UTF-8. -/
def Program.TextOnly (program : Program) : Prop :=
  ∀ index ins bytes, program.get? index = some ins → .str bytes ∈ ins.operands →
    Utf8.valid bytes = true

namespace Sink

variable {sink : Sink} {bytes : Bytes}

theorem write_ok (taken : (sink.write bytes).1 = .ok ()) :
    (sink.write bytes).2.written = sink.written ++ bytes ∧
      (sink.room = some 0 → bytes = [] ∧ (sink.write bytes).2.room = some 0) := by
  unfold write at taken ⊢
  split at taken
  · rename_i memory
    simp [memory, written]
  · rename_i room limited
    split at taken
    · rename_i fits
      simp only [limited, fits, ↓reduceIte]
      refine ⟨by simp [written], ?_⟩
      intro full
      cases full
      exact ⟨List.length_eq_zero_iff.mp (Nat.le_zero.mp fits), by simp⟩
    · cases taken

theorem write_refused {fault : Fault} (refused : (sink.write bytes).1 = .error fault) :
    ∃ room, sink.room = some room ∧ (sink.write bytes).2.room = some 0 ∧
      (sink.write bytes).2.written = sink.written ++ bytes.take room := by
  unfold write at refused ⊢
  split at refused
  · cases refused
  · rename_i room limited
    split at refused
    · cases refused
    · rename_i exceeds
      refine ⟨room, limited, ?_⟩
      simp [exceeds, written]

end Sink

namespace Machine

variable {program : Program} {limit : Option Nat} {ins : Instruction} {m last first : Machine}
  {count : Nat}

/-- An instruction leaves the output, or writes a value of its operand to it. -/
theorem Acts.output_cases {effect : Except Fault Outcome} (acts : Acts program ins m effect last) :
    last.output = m.output ∨
      ∃ value, m.values ins.sources = .ok [value] ∧
        last.output = (m.output.write value.render).2 ∧
        ((m.output.write value.render).1 = .ok () ∨
          ∃ fault, effect = .error fault ∧ (m.output.write value.render).1 = .error fault) := by
  cases acts with
  | unwritten op read refused => exact Or.inr ⟨_, read, rfl, Or.inr ⟨_, rfl, refused⟩⟩
  | writes op read taken => exact Or.inr ⟨_, read, rfl, Or.inl taken⟩
  | _ => exact Or.inl rfl

/-- One of the first steps of a run, so many of them, was a write that was refused. -/
def RefusedWrite (program : Program) (limit : Option Nat) (first : Machine) (count : Nat) : Prop :=
  ∃ earlier < count, ∃ error,
    ((first.after program limit earlier).step program limit).1 = .failed error ∧ error.kind = .output

theorem Moves.output_cases {result : StepResult} (moves : Moves program limit m result last) :
    last.output = m.output ∨
      ∃ ins value, m.Executes program limit ins ∧ m.counted.values ins.sources = .ok [value] ∧
        last.output = (m.output.write value.render).2 ∧
        ((m.output.write value.render).1 = .ok () ∨
          ∃ error, result = .failed error ∧ error.kind = .output ∧
            (m.output.write value.render).1 = .error error.fault) := by
  cases moves with
  | ended finished => exact Or.inl rfl
  | cut running given spent => exact Or.inl rfl
  | @failed ins fault last executes acts =>
    rcases acts.output_cases with same | ⟨value, read, written, taken | ⟨_, refusal, refused⟩⟩
    · exact Or.inl same
    · exact Or.inr ⟨ins, value, executes, read, written, Or.inl taken⟩
    · cases refusal
      have kind := (Sink.write_error refused).2
      exact Or.inr ⟨ins, value, executes, read, written, Or.inr ⟨_, rfl, kind, refused⟩⟩
  | @done ins outcome last executes acts =>
    rw [follow_output]
    rcases acts.output_cases with same | ⟨value, read, written, taken | ⟨_, refusal, -⟩⟩
    · exact Or.inl same
    · exact Or.inr ⟨ins, value, executes, read, written, Or.inl taken⟩
    · cases refusal

theorem inherited_isText (texts : program.TextOnly) : Inherited program Value.IsText where
  constant := by
    intro index ins a value here member literal
    cases a with
    | str bytes =>
      cases literal
      exact texts index ins bytes here member
    | _ => cases literal <;> trivial
  computed texts computed := computed.isText texts
  named value := Utf8.valid_ofString value.typeName
  received := Operation.convertInput_isText

/-- What a machine that holds only texts writes in one step is text. -/
theorem rendered_valid (texts : program.TextOnly) (holding : Holding Value.IsText m)
    {value : Value} (executes : m.Executes program limit ins)
    (read : m.counted.values ins.sources = .ok [value]) : Utf8.valid value.render = true := by
  have text := (inherited_isText texts).sources executes.here holding.counted read
  exact (text value List.mem_cons_self).render

theorem RefusedWrite.succ (refused : RefusedWrite program limit first count) :
    RefusedWrite program limit first (count + 1) := by
  obtain ⟨earlier, less, refusal⟩ := refused
  exact ⟨earlier, by omega, refusal⟩

/-- What was written is text, or the beginning of one in a sink that has refused a write and is full. -/
theorem written_text (texts : program.TextOnly)
    (holding : ∀ steps, Holding Value.IsText (first.after program limit steps)) (count : Nat) :
    ∃ text, (first.after program limit count).output.written = first.output.written ++ text ∧
      (Utf8.valid text = true ∨
        RefusedWrite program limit first count ∧
          (first.after program limit count).output.room = some 0 ∧
          ∃ cut, Utf8.valid (text ++ cut) = true) := by
  induction count with
  | zero => exact ⟨[], (List.append_nil _).symm, Or.inl rfl⟩
  | succ count ih =>
    obtain ⟨text, before, state⟩ := ih
    have moves := step_moves program limit (first.after program limit count)
    rw [after]
    rcases moves.output_cases with same | ⟨ins, value, executes, read, output, outcome⟩
    · refine ⟨text, by rw [same, before], ?_⟩
      rw [same]
      exact state.imp_right fun cut => ⟨cut.1.succ, cut.2⟩
    · have valid := rendered_valid texts (holding count) executes read
      rcases outcome with taken | ⟨error, failed, kind, refused⟩
      · obtain ⟨written, full⟩ := Sink.write_ok taken
        refine ⟨text ++ value.render, by rw [output, written, before, List.append_assoc], ?_⟩
        rcases state with whole | ⟨earlier, spent, cut⟩
        · exact Or.inl (Utf8.valid_append whole valid)
        · -- A full sink takes nothing but empty strings.
          obtain ⟨empty, still⟩ := full spent
          rw [empty, List.append_nil, output]
          exact Or.inr ⟨earlier.succ, still, cut⟩
      · obtain ⟨room, limited, full, written⟩ := Sink.write_refused refused
        refine ⟨text ++ value.render.take room,
          by rw [output, written, before, List.append_assoc], Or.inr ?_⟩
        rw [output]
        rcases state with whole | ⟨earlier, spent, cut⟩
        · refine ⟨⟨count, Nat.lt_succ_self count, error, failed, kind⟩, full,
            value.render.drop room, ?_⟩
          rw [List.append_assoc, List.take_append_drop]
          exact Utf8.valid_append whole valid
        · cases limited.symm.trans spent
          rw [List.take_zero, List.append_nil]
          exact ⟨earlier.succ, full, cut⟩

/-- Text stays text: where the strings among the operands of a program are valid UTF-8, all
strings in frames and on the data stack are, whatever is read, after any number of steps. What was
written is valid too, if the output is in memory, or has a bound and refused no write; in an output that
refused one the last character may be cut off. -/
theorem text_stays_text (program : Program) (texts : program.TextOnly)
    (limit : Option Nat) (input : Input) (output : Sink) (count : Nat) :
    let m := (start input output).after program limit count
    (∀ place name bytes, m.frames.slot? place name = some (.str bytes) →
        Utf8.valid bytes = true) ∧
      (∀ bytes, .str bytes ∈ m.data → Utf8.valid bytes = true) ∧
      ∃ text, m.output.written = output.written ++ text ∧
        (output.room = none → Utf8.valid text = true) ∧
        (Utf8.valid text = true ∨
          RefusedWrite program limit (start input output) count ∧
            ∃ cut, Utf8.valid (text ++ cut) = true) := by
  intro m
  have holding : ∀ steps,
      Holding Value.IsText ((start input output).after program limit steps) := by
    intro steps
    exact (inherited_isText texts).reachable ⟨steps, rfl⟩
  refine ⟨?_, ?_, ?_⟩
  · intro place name bytes held
    rcases (holding count).slots place name _ held with unset | text
    · cases unset
    · exact text
  · intro bytes member
    exact (holding count).data _ member
  · obtain ⟨text, written, state⟩ := written_text texts holding count
    refine ⟨text, written, ?_, state.imp_right fun cut => ⟨cut.1, cut.2.2⟩⟩
    intro memory
    rcases state with whole | ⟨-, full, -⟩
    · exact whole
    · have room := (show Reachable program limit (start input output) m from ⟨count, rfl⟩)
        |>.room_of_memory memory
      cases room.symm.trans full

/-- Replaces the first character of a text by one of two bytes, and pushes and writes the text. -/
def respelled : Program :=
  ⟨#[⟨1, .defVar, [.var ⟨.global, "s"⟩]⟩, ⟨2, .move, [.var ⟨.global, "s"⟩, .str [97, 197, 190]]⟩,
    ⟨3, .setchar, [.var ⟨.global, "s"⟩, .int 0, .str [197, 190, 98]]⟩,
    ⟨4, .pushs, [.var ⟨.global, "s"⟩]⟩, ⟨5, .write, [.var ⟨.global, "s"⟩]⟩],
    by decide⟩

theorem text_stays_text_respelled :
    let first := start (.bytes []) {}
    let narrow := start (.bytes []) { room := some 3 }
    respelled.TextOnly ∧
      (first.after respelled none 5).frames.slot? .global "s" = some (.str [197, 190, 197, 190]) ∧
      (first.after respelled none 5).data = [.str [197, 190, 197, 190]] ∧
      (first.after respelled none 5).output.written = [197, 190, 197, 190] ∧
      Utf8.valid [197, 190, 197, 190] = true ∧
      (narrow.after respelled none 5).output.written = [197, 190, 197] ∧
      Utf8.valid [197, 190, 197] = false ∧ RefusedWrite respelled none narrow 5 := by
  intro first narrow
  have texts : respelled.TextOnly := by
    intro index ins bytes here member
    have among : ins ∈ respelled.instructions := Array.mem_of_getElem? here
    simp only [respelled, List.mem_toArray, List.mem_cons, List.not_mem_nil, or_false] at among
    rcases among with rfl | rfl | rfl | rfl | rfl <;> simp at member <;> subst member <;> cbv
  have slot : (first.after respelled none 5).frames.slot? .global "s" =
      some (.str [197, 190, 197, 190]) := by cbv
  have pushed : (first.after respelled none 5).data = [.str [197, 190, 197, 190]] := by cbv
  have written : (first.after respelled none 5).output.written = [197, 190, 197, 190] := by cbv
  have cut : (narrow.after respelled none 5).output.written = [197, 190, 197] := by cbv
  have broken : Utf8.valid [197, 190, 197] = false := by cbv
  obtain ⟨slots, -, -⟩ := text_stays_text respelled texts none (.bytes []) {} 5
  obtain ⟨-, -, taken, output, -, state⟩ :=
    text_stays_text respelled texts none (.bytes []) { room := some 3 } 5
  refine ⟨texts, slot, pushed, written, slots _ _ _ slot, cut, broken, ?_⟩
  rcases state with whole | refused
  · rw [show taken = [197, 190, 197] from output.symm.trans cut, broken] at whole
    cases whole
  · exact refused.1

end Machine

end ThreeAddress
