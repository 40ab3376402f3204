import Mathlib
import ThreeAddress.Proofs.Source
import ThreeAddress.Proofs.Spelling

set_option autoImplicit false

namespace ThreeAddress

theorem Scope.ofMark?_eq_of_lower {mark other : String}
    (same : Text.asciiLower mark = Text.asciiLower other) :
    Scope.ofMark? mark = Scope.ofMark? other := by
  rw [ofMark?, ofMark?, Text.asciiUpper_eq_of_lower same]

namespace VarRef

/-- The text of a variable with its mark in another ASCII case. -/
def Remarked (text remarked : String) : Prop :=
  ∃ mark other name : String, '@' ∉ mark.toList ∧ Text.asciiLower mark = Text.asciiLower other ∧
    text = mark ++ "@" ++ name ∧ remarked = other ++ "@" ++ name

theorem parse_ok_iff {mark name : List Char} (free : '@' ∉ mark) (v : VarRef) :
    parse (String.ofList (mark ++ '@' :: name)) = .ok v ↔
      Scope.ofMark? (String.ofList mark) = some v.scope ∧ Text.isName name = true ∧
        v.name = String.ofList name := by
  rw [parse, String.toList_ofList, Text.span_at free]
  dsimp only
  cases Scope.ofMark? (String.ofList mark) with
  | none => simp
  | some scope =>
    by_cases named : Text.isName name = true
    · rcases v with ⟨other, text⟩
      simp [named, eq_comm]
    · simp [named]

theorem Remarked.parse_iff {text remarked : String} (marks : Remarked text remarked) (v : VarRef) :
    parse (Text.trim text) = .ok v ↔ parse (Text.trim remarked) = .ok v := by
  obtain ⟨mark, other, name, free, same, rfl, rfl⟩ := marks
  have otherFree : '@' ∉ other.toList := fun member => free (Text.at_mem_of_lower same.symm member)
  -- Blanks in front of the mark go, and so do those behind the name.
  have trimmed : ∀ mark : String, Text.trim (mark ++ "@" ++ name) =
      String.ofList (mark.toList.dropWhile Text.isBlank ++
        '@' :: (name.toList.reverse.dropWhile Text.isBlank).reverse) := by
    intro mark
    rw [Text.trim, String.toList_append, String.toList_append, List.append_assoc,
      ← Text.trimBlank_stop (by decide)]
    rfl
  have scope : Scope.ofMark? (String.ofList (mark.toList.dropWhile Text.isBlank)) =
      Scope.ofMark? (String.ofList (other.toList.dropWhile Text.isBlank)) := by
    apply Scope.ofMark?_eq_of_lower
    simp only [Text.asciiLower, String.toList_ofList, Text.map_dropWhile_isBlank,
      String.ofList_injective same]
  rw [trimmed, trimmed, parse_ok_iff fun member => free ((List.dropWhile_sublist _).mem member),
    parse_ok_iff fun member => otherFree ((List.dropWhile_sublist _).mem member), scope]

end VarRef

/-- An argument with blanks added around its kind and text, and the mark of a variable in another case. -/
structure Argument.Restyled (arg restyled : Argument) : Prop where
  index : restyled.index = arg.index
  nested : restyled.nested = arg.nested
  kind : Text.Padded arg.kind restyled.kind
  text : ∃ text, (text = arg.text ∨ Text.trim arg.kind = "var" ∧ VarRef.Remarked arg.text text) ∧
    Text.Padded text restyled.text

theorem Operand.parse_var_ok_iff (text : String) (operand : Operand) :
    Operand.parse "var" text = .ok operand ↔
      ∃ v, VarRef.parse text = .ok v ∧ operand = .var v := by
  simp only [Operand.parse]
  cases VarRef.parse text <;> simp [Except.map, eq_comm]

theorem Argument.Restyled.operand_iff {arg restyled : Argument} (styled : arg.Restyled restyled)
    (operand : Operand) : arg.operand = .ok operand ↔ restyled.operand = .ok operand := by
  obtain ⟨text, changed, padded⟩ := styled.text
  rw [Argument.operand, Argument.operand, styled.kind.trim_eq, padded.trim_eq]
  rcases changed with rfl | ⟨kind, marks⟩
  · rfl
  · rw [kind]
    simp only [Operand.parse_var_ok_iff, marks.parse_iff]

/-- A record with its arguments restyled and in another order, its operation in another case and blanks
added around it. -/
structure Record.Restyled (record restyled : Record) : Prop where
  order : restyled.order = record.order
  opcode : ∃ opcode, Text.asciiLower opcode = Text.asciiLower record.opcode ∧
    Text.Padded opcode restyled.opcode
  args : ∃ args, args.Perm record.args ∧ List.Forall₂ Argument.Restyled args restyled.args

namespace Record.Restyled

variable {record restyled : Record} (styled : record.Restyled restyled)

include styled

theorem names_iff (op : Opcode) : record.Names op ↔ restyled.Names op := by
  obtain ⟨opcode, same, padded⟩ := styled.opcode
  rw [Names, Names, padded.trim_eq, Text.asciiLower_trim, Text.asciiLower_trim, same]

theorem length_eq : record.args.length = restyled.args.length := by
  obtain ⟨args, perm, each⟩ := styled.args
  exact perm.length_eq.symm.trans each.length_eq

theorem indices_perm : (record.args.map fun arg => arg.index.toNat).Perm
    (restyled.args.map fun arg => arg.index.toNat) := by
  obtain ⟨args, perm, each⟩ := styled.args
  have same : List.Forall₂ (· = ·) (args.map fun arg => arg.index.toNat)
      (restyled.args.map fun arg => arg.index.toNat) := by
    rw [List.forall₂_map_left_iff, List.forall₂_map_right_iff]
    exact each.imp fun arg other here => by rw [here.index]
  rw [List.forall₂_eq_eq_eq] at same
  rw [← same]
  exact (perm.map _).symm

theorem gives_iff (index : Nat) (operand : Operand) :
    record.Gives index operand ↔ restyled.Gives index operand := by
  obtain ⟨args, perm, each⟩ := styled.args
  simp only [Gives, ← perm.mem_iff]
  refine exists_mem_iff ?_ each
  intro arg other here
  rw [here.index, here.operand_iff]

theorem nested_iff :
    (∀ arg ∈ record.args, arg.Unforbidden) ↔ ∀ arg ∈ restyled.args, arg.Unforbidden := by
  obtain ⟨args, perm, each⟩ := styled.args
  simp only [← perm.mem_iff]
  refine forall_mem_iff ?_ each
  intro arg other here
  rw [Argument.Unforbidden, Argument.Unforbidden, here.nested]

theorem shaped_iff : record.Shaped ↔ restyled.Shaped := by
  have indices := styled.indices_perm
  have length := styled.length_eq
  constructor
  · rintro ⟨nested, few, numbered⟩
    rw [length] at few numbered
    exact ⟨styled.nested_iff.mp nested, few, indices.symm.trans numbered⟩
  · rintro ⟨nested, few, numbered⟩
    rw [← length] at few numbered
    exact ⟨styled.nested_iff.mpr nested, few, indices.trans numbered⟩

theorem denotes_iff (ins : Instruction) : record.Denotes ins ↔ restyled.Denotes ins := by
  have order := styled.order
  have length := styled.length_eq
  constructor
  · rintro ⟨number, op, count, operands⟩
    simp only [styled.gives_iff] at operands
    exact ⟨by rw [order, number], (styled.names_iff _).mp op, by rw [count, length], operands⟩
  · rintro ⟨number, op, count, operands⟩
    simp only [← styled.gives_iff] at operands
    exact ⟨by rw [number, order], (styled.names_iff _).mpr op, by rw [count, length], operands⟩

end Record.Restyled

def Restyled (records restyled : List Record) : Prop :=
  ∃ arranged, arranged.Perm records ∧ List.Forall₂ Record.Restyled arranged restyled

namespace Program

/-- The order in which instructions are given changes nothing but which defect is found first. -/
theorem build_perm {instructions permuted : List Instruction} (perm : instructions.Perm permuted) :
    build instructions = build permuted ∨
      ∃ defect other, build instructions = .error (.structural defect) ∧
        build permuted = .error (.structural other) := by
  have same : checkInstructions [] instructions = .ok () ↔ checkInstructions [] permuted = .ok () := by
    rw [checkInstructions_ok_iff, checkInstructions_ok_iff, (perm.map Instruction.order).nodup_iff]
    simp only [perm.mem_iff]
  cases checked : checkInstructions [] instructions with
  | ok =>
    have distinct := ((checkInstructions_ok_iff [] instructions).mp checked).1
    refine Or.inl (build_congr ?_)
    rw [arrange, arrange, checked, same.mp checked, sortInstructions_eq_of_perm perm distinct]
  | error defect =>
    cases again : checkInstructions [] permuted with
    | ok =>
      rw [same.mpr again] at checked
      cases checked
    | error other =>
      exact Or.inr ⟨defect, other, build_of_defect checked, build_of_defect again⟩

theorem build_ok_iff_of_perm {instructions permuted : List Instruction} {program : Program}
    (perm : instructions.Perm permuted) :
    build instructions = .ok program ↔ build permuted = .ok program := by
  rcases build_perm perm with same | ⟨defect, other, failed, failedToo⟩
  · rw [same]
  · simp [failed, failedToo]

theorem ofRecords_of_perm {records arranged : List Record} {program : Program}
    (perm : arranged.Perm records) (read : ofRecords records = .ok program) :
    ofRecords arranged = .ok program := by
  rw [ofRecords_ok_iff] at read ⊢
  obtain ⟨instructions, denoted, built⟩ := read
  -- The instructions can be put in the order of the arranged records.
  have composed : Relation.Comp List.Perm (List.Forall₂
      fun record ins => record.Shaped ∧ record.Denotes ins) arranged instructions :=
    ⟨records, perm, denoted⟩
  rw [← List.forall₂_comp_perm_eq_perm_comp_forall₂] at composed
  obtain ⟨permuted, denotes, back⟩ := composed
  exact ⟨permuted, denotes, (build_ok_iff_of_perm back).mpr built⟩

theorem ofRecords_ok_iff_of_restyled {records restyled : List Record} {program : Program}
    (styled : Restyled records restyled) :
    ofRecords records = .ok program ↔ ofRecords restyled = .ok program := by
  obtain ⟨arranged, perm, each⟩ := styled
  have moved : ofRecords records = .ok program ↔ ofRecords arranged = .ok program :=
    ⟨ofRecords_of_perm perm, ofRecords_of_perm perm.symm⟩
  rw [moved, ofRecords_ok_iff, ofRecords_ok_iff]
  refine exists_congr fun instructions => and_congr_left' ?_
  refine forall₂_iff_of_forall₂ ?_ each
  intro record other ins here
  rw [here.shaped_iff, here.denotes_iff]

/-- However the records of a program are presented, they make the same program or none. Instructions in
another order make the same program or fail with an error of the same kind, and with the same error
where it is about labels. -/
theorem presentation_irrelevant :
    (∀ records restyled, Relation.EqvGen Restyled records restyled →
      ∀ program, ofRecords records = .ok program ↔ ofRecords restyled = .ok program) ∧
    ∀ instructions permuted : List Instruction, instructions.Perm permuted →
      (∃ program, build instructions = .ok program ∧ build permuted = .ok program) ∨
        ∃ error other, build instructions = .error error ∧ build permuted = .error other ∧
          error.kind = other.kind ∧
          (error.kind = .duplicateLabel ∨ error.kind = .unknownLabel → error = other) := by
  constructor
  · intro records restyled styled program
    induction styled with
    | rel records restyled styled => exact ofRecords_ok_iff_of_restyled styled
    | refl records => rfl
    | symm records restyled styled ih => exact ih.symm
    | trans first second third one two before behind => exact before.trans behind
  · intro instructions permuted perm
    rcases build_perm perm with same | ⟨defect, other, failed, failedToo⟩
    · rw [same]
      cases build permuted with
      | ok program => exact Or.inl ⟨program, rfl, rfl⟩
      | error error => exact Or.inr ⟨error, error, rfl, rfl, rfl, fun _ => rfl⟩
    · refine Or.inr ⟨.structural defect, .structural other, failed, failedToo, rfl, ?_⟩
      rintro (kind | kind) <;> cases kind

/-- Two records, and the same in another order and style. -/
def declareWrite : List Record :=
  [⟨1, "defvar", [⟨1, "var", "GF@x", []⟩]⟩,
    ⟨2, "move", [⟨1, "var", "GF@x", []⟩, ⟨2, "int", "7", []⟩]⟩]

def declareWriteRestyled : List Record :=
  [⟨2, " Move", [⟨2, "int\t", "7", []⟩, ⟨1, "var", "gf@x ", []⟩]⟩,
    ⟨1, "DEFVAR\n", [⟨1, "var", "Gf@x", []⟩]⟩]

theorem presentation_irrelevant_declareWrite :
    let program : Program :=
      ⟨#[⟨1, .defVar, [.var ⟨.global, "x"⟩]⟩, ⟨2, .move, [.var ⟨.global, "x"⟩, .int 7]⟩],
        by decide⟩
    let twice : List Instruction := [⟨5, .label, [.label "a"]⟩, ⟨3, .label, [.label "a"]⟩]
    Restyled declareWrite declareWriteRestyled ∧ ofRecords declareWrite = .ok program ∧
      ofRecords declareWriteRestyled = .ok program ∧
      build twice = .error (.duplicateLabel "a" 3 5) ∧
      build twice.reverse = .error (.duplicateLabel "a" 3 5) := by
  intro program twice
  have same : ∀ text, Text.Padded text text := fun text => ⟨"", "", rfl, rfl, by simp⟩
  have declared : Argument.Restyled ⟨1, "var", "GF@x", []⟩ ⟨1, "var", "Gf@x", []⟩ :=
    ⟨rfl, rfl, same _, "Gf@x", Or.inr ⟨rfl, "GF", "Gf", "x", by decide, rfl, rfl, rfl⟩, same _⟩
  have target : Argument.Restyled ⟨1, "var", "GF@x", []⟩ ⟨1, "var", "gf@x ", []⟩ :=
    ⟨rfl, rfl, same _, "gf@x", Or.inr ⟨rfl, "GF", "gf", "x", by decide, rfl, rfl, rfl⟩,
      "", " ", rfl, rfl, rfl⟩
  have value : Argument.Restyled ⟨2, "int", "7", []⟩ ⟨2, "int\t", "7", []⟩ :=
    ⟨rfl, rfl, ⟨"", "\t", rfl, rfl, rfl⟩, "7", Or.inl rfl, same _⟩
  have styled : Restyled declareWrite declareWriteRestyled :=
    ⟨_, .swap _ _ _,
      .cons ⟨rfl, ⟨"Move", by decide, " ", "", rfl, rfl, rfl⟩, _, .swap _ _ _,
        .cons value (.cons target .nil)⟩
      (.cons ⟨rfl, ⟨"DEFVAR", by decide, "", "\n", rfl, rfl, rfl⟩, _, .refl _,
        .cons declared .nil⟩ .nil)⟩
  have read : ofRecords declareWrite = .ok program := ofRecords_eq_ok (by cbv) (by cbv)
  have failed : build twice = .error (.duplicateLabel "a" 3 5) := build_eq_error_iff.mpr (by cbv)
  obtain ⟨records, instructions⟩ := presentation_irrelevant
  refine ⟨styled, read, (records _ _ (.rel _ _ styled) program).mp read, failed, ?_⟩
  rcases instructions twice twice.reverse twice.reverse_perm.symm with
    ⟨other, built, -⟩ | ⟨error, other, first, second, -, same⟩
  · rw [failed] at built
    cases built
  · rw [failed] at first
    obtain rfl := Except.error.inj first
    rw [second, ← same (Or.inl rfl)]

end Program

end ThreeAddress
