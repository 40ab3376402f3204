import Mathlib
import ThreeAddress.Proofs.Canonical
import ThreeAddress.Proofs.Presentation
import ThreeAddress.Session

set_option autoImplicit false

namespace ThreeAddress

theorem VarRef.toList_display (v : VarRef) :
    v.display.toList = v.scope.mark.toList ++ '@' :: v.name.toList := by
  simp [display]

namespace Operand

/-- The operands that a text can stand for: a name is an identifier, and nil is no kind to ask for. -/
def Spelled : Operand → Prop
  | .var v => Text.isIdentifier v.name = true
  | .label name => Text.isIdentifier name = true
  | .kind k => k ≠ .nil
  | .int _ | .bool _ | .str _ | .nil => True

theorem isIdentifier_of_parse {text : String} {v : VarRef} (read : VarRef.parse text = .ok v) :
    Text.isIdentifier v.name = true := by
  unfold VarRef.parse at read
  split at read
  · cases read
  · split at read
    · cases read
    · split at read
      · rename_i named
        cases read
        rw [Text.isIdentifier, String.toList_ofList]
        exact named
      · cases read

theorem spelled_of_parse {kind text : String} {operand : Operand}
    (read : parse kind text = .ok operand) : operand.Spelled := by
  by_cases marked : kind = "var"
  · subst marked
    obtain ⟨v, parsed, rfl⟩ := (parse_var_ok_iff text operand).mp read
    exact isIdentifier_of_parse parsed
  · unfold parse at read
    split at read
    · exact absurd rfl marked
    · split at read <;> cases read
      trivial
    · split at read <;> cases read <;> trivial
    · split at read <;> cases read
      trivial
    · split at read <;> cases read
      trivial
    · split at read <;> cases read <;> simp [Spelled]
    · split at read <;> cases read
      assumption
    · cases read

/-- Reads an operand as a listing shows it: what stands before the first `@` is the mark of a variable, or
else the kind of the text behind it. -/
def ofDisplay? (token : List Char) : Option Operand :=
  match token.span (· != '@') with
  | (_, []) => none
  | (front, _ :: text) =>
    if String.ofList front ∈ ["GF", "LF", "TF"] then (parse "var" (String.ofList token)).toOption
    else (parse (String.ofList front) (String.ofList text)).toOption

theorem at_notMem_mark (scope : Scope) : '@' ∉ scope.mark.toList := by
  cases scope <;> decide

theorem ofDisplay?_kind {kind : String} (free : '@' ∉ kind.toList)
    (typed : kind ∉ ["GF", "LF", "TF"]) (text : String) :
    ofDisplay? (kind ++ "@" ++ text).toList = (parse kind text).toOption := by
  have shape : (kind ++ "@" ++ text).toList = kind.toList ++ '@' :: text.toList := by simp
  rw [ofDisplay?, shape, Text.span_at free]
  simp only [String.ofList_toList, typed, ↓reduceIte]

theorem ofDisplay?_var (v : VarRef) :
    ofDisplay? v.display.toList = (parse "var" v.display).toOption := by
  have marked : v.scope.mark ∈ ["GF", "LF", "TF"] := by
    cases v.scope <;> decide
  rw [ofDisplay?, v.toList_display, Text.span_at (at_notMem_mark v.scope)]
  simp only [String.ofList_toList, marked, ↓reduceIte]
  rw [← v.toList_display, String.ofList_toList]

theorem parse_display_var {v : VarRef} (named : Text.isIdentifier v.name = true) :
    parse "var" v.display = .ok (.var v) := by
  have mark : Scope.ofMark? (String.ofList v.scope.mark.toList) = some v.scope := by
    cases v.scope <;> decide
  rw [parse_var_ok_iff]
  refine ⟨v, ?_, rfl⟩
  rw [← String.ofList_toList (s := v.display), v.toList_display,
    VarRef.parse_ok_iff (at_notMem_mark v.scope)]
  exact ⟨mark, named, String.ofList_toList.symm⟩

/-- What a listing shows of an operand is read back. -/
theorem ofDisplay?_display {operand : Operand} (spelled : operand.Spelled) :
    ofDisplay? operand.display.toList = some operand := by
  cases operand with
  | var v =>
    show ofDisplay? v.display.toList = _
    rw [ofDisplay?_var, parse_display_var spelled]
    rfl
  | int n =>
    show ofDisplay? ("int" ++ "@" ++ Numeral.decimal n).toList = _
    rw [ofDisplay?_kind (by decide) (by decide)]
    simp only [parse, Numeral.parse?_decimal]
    rfl
  | bool b => cases b <;> rfl
  | str bytes =>
    show ofDisplay? ("string" ++ "@" ++ Escape.encode bytes).toList = _
    rw [ofDisplay?_kind (by decide) (by decide)]
    simp only [parse, Escape.decode_encode]
    rfl
  | nil => rfl
  | kind k =>
    cases k with
    | int | bool | string => rfl
    | nil => exact absurd rfl spelled
  | label name =>
    show ofDisplay? ("label" ++ "@" ++ name).toList = _
    rw [ofDisplay?_kind (by decide) (by decide)]
    have named : Text.isIdentifier name = true := spelled
    simp only [parse, named, ↓reduceIte]
    rfl

/-- Operands are shown without blanks, so that blanks can stand between them. -/
theorem visible_display {operand : Operand} (spelled : operand.Spelled) :
    ∀ c ∈ operand.display.toList, Text.Visible c := by
  cases operand with
  | var v =>
    apply Text.visible_append
    · cases v.scope <;> simp [Scope.mark, Text.Visible]
    · exact Text.visible_of_isName spelled
  | int n =>
    apply Text.visible_append (by simp [Text.Visible])
    intro c
    exact Numeral.visible_of_mem_decimal
  | bool b => cases b <;> simp [display, Value.boolText, Text.Visible]
  | str bytes =>
    apply Text.visible_append (by simp [Text.Visible])
    intro c
    exact Escape.visible_of_mem_encode
  | nil => simp [display, Text.Visible]
  | kind k => cases k <;> simp [display, Kind.name, Text.Visible]
  | label name =>
    exact Text.visible_append (by simp [Text.Visible]) (Text.visible_of_isName spelled)

end Operand

namespace Instruction

/-- Splits characters where `: ` stands for the first time. -/
def splitColon? : List Char → Option (List Char × List Char)
  | [] => none
  | ':' :: ' ' :: rest => some ([], rest)
  | c :: rest => (splitColon? rest).map fun (front, back) => (c :: front, back)

theorem splitColon?_append {front : List Char} (free : ':' ∉ front) (back : List Char) :
    splitColon? (front ++ ':' :: ' ' :: back) = some (front, back) := by
  induction front with
  | nil => rfl
  | cons c rest ih =>
    rw [List.mem_cons, not_or] at free
    rw [List.cons_append, splitColon?, ih free.2]
    · rfl
    · intro _ colon
      exact absurd colon.symm free.1

/-- Reads a line of a listing: behind blanks a decimal number, then `: `, and then the name of the operation
and the operands with single blanks between them. -/
def ofDisplay? (line : List Char) : Option Instruction := do
  let (number, rest) ← splitColon? (line.dropWhile (· == ' '))
  let order ← (Numeral.digits? 10 number).filter (· < UInt64.size)
  match rest.splitOn ' ' with
  | [] => none
  | name :: tokens =>
    let op ← Opcode.ofName? (String.ofList name)
    let operands ← tokens.mapM Operand.ofDisplay?
    some ⟨UInt64.ofNat order, op, operands⟩

/-- The name of the operation and the operands, as a line shows them. -/
def words (ins : Instruction) : List (List Char) :=
  (Text.asciiUpper ins.op.name).toList :: ins.operands.map fun operand => operand.display.toList

theorem intercalate_cons (sep : Char) (first : List Char) (rest : List (List Char)) :
    [sep].intercalate (first :: rest) = first ++ rest.flatMap (sep :: ·) := by
  induction rest generalizing first with
  | nil => simp
  | cons second rest ih =>
    rw [List.intercalate_cons_cons, ih]
    simp

theorem display_eq (ins : Instruction) :
    ins.display.toList =
      List.replicate (4 - (orderText ins.order).length) ' ' ++
        ((orderText ins.order).toList ++ ':' :: ' ' :: [' '].intercalate ins.words) := by
  rw [words, intercalate_cons]
  simp [display, padLeft, String.toList_join, List.flatMap_map]

def Spelled (ins : Instruction) : Prop :=
  ∀ operand ∈ ins.operands, operand.Spelled

theorem visible_upperName (op : Opcode) :
    ∀ c ∈ (Text.asciiUpper op.name).toList, Text.Visible c := by
  have every : ((Text.asciiUpper op.name).toList.all fun c => decide (Text.Visible c)) = true := by
    cases op <;> rfl
  intro c member
  exact of_decide_eq_true (List.all_eq_true.mp every c member)

theorem ofName?_upperName (op : Opcode) : Opcode.ofName? (Text.asciiUpper op.name) = some op := by
  rw [Opcode.ofName?_eq_some_iff, Text.asciiLower_asciiUpper]

variable {ins : Instruction}

theorem visible_words (spelled : ins.Spelled) : ∀ word ∈ ins.words, ∀ c ∈ word, Text.Visible c := by
  rw [words, List.forall_mem_cons, List.forall_mem_map]
  refine ⟨visible_upperName ins.op, ?_⟩
  intro operand member
  exact Operand.visible_display (spelled operand member)

theorem splitOn_words (spelled : ins.Spelled) : ([' '].intercalate ins.words).splitOn ' ' = ins.words := by
  apply List.splitOn_intercalate
  · intro word member blank
    have visible := visible_words spelled word member ' ' blank
    simp [Text.Visible] at visible
  · simp [words]

theorem mapM_ofDisplay? (spelled : ins.Spelled) :
    (ins.operands.map fun operand => operand.display.toList).mapM Operand.ofDisplay? =
      some ins.operands := by
  apply mapM_of_forall₂
  apply forall₂_map
  intro operand member
  exact Operand.ofDisplay?_display (spelled operand member)

theorem dropWhile_display (ins : Instruction) :
    ins.display.toList.dropWhile (· == ' ') =
      (orderText ins.order).toList ++ ':' :: ' ' :: [' '].intercalate ins.words := by
  have blanks : ∀ c ∈ List.replicate (4 - (orderText ins.order).length) ' ', (c == ' ') = true := by
    intro c member
    rw [List.eq_of_mem_replicate member]
    rfl
  rw [display_eq, List.dropWhile_append_of_pos blanks]
  have digits : ∀ c ∈ (orderText ins.order).toList, Text.Visible c := fun c =>
    Numeral.visible_of_mem_repr
  cases shape : (orderText ins.order).toList with
  | nil => rfl
  | cons digit more =>
    rw [shape] at digits
    have visible := digits digit List.mem_cons_self
    have other : (digit == ' ') = false := by
      rw [beq_eq_false_iff_ne]
      rintro rfl
      simp [Text.Visible] at visible
    rw [List.cons_append, List.dropWhile_cons, other]
    rfl

theorem colon_notMem_orderText (order : UInt64) : ':' ∉ (orderText order).toList := by
  intro colon
  have digit := Numeral.isDigit_of_mem_repr colon
  simp [Char.isDigit] at digit

/-- A line of a listing is read back. -/
theorem ofDisplay?_display (spelled : ins.Spelled) : ofDisplay? ins.display.toList = some ins := by
  have fits : ins.order.toNat < UInt64.size := ins.order.toNat_lt
  have number : Numeral.digits? 10 (orderText ins.order).toList = some ins.order.toNat := by
    apply Numeral.digits?_repr
    have size : UInt64.size = 18446744073709551616 := rfl
    unfold Numeral.widest
    omega
  rw [ofDisplay?, dropWhile_display, splitColon?_append (colon_notMem_orderText ins.order)]
  simp only [Option.bind_eq_bind, Option.bind_some, number, Option.filter_some, fits, decide_true,
    ↓reduceIte, splitOn_words spelled]
  simp only [words, String.ofList_toList, ofName?_upperName, mapM_ofDisplay? spelled, Option.bind_some,
    UInt64.ofNat_toNat]

/-- A line of a listing holds no control character. -/
theorem le_of_mem_display (spelled : ins.Spelled) {c : Char} (member : c ∈ ins.display.toList) :
    32 ≤ c.toNat := by
  rw [display_eq, words, intercalate_cons] at member
  simp only [List.mem_append, List.mem_replicate, List.mem_cons, List.mem_flatMap] at member
  have visible (word : List Char) (listed : word ∈ ins.words) (inside : c ∈ word) : 32 ≤ c.toNat :=
    (visible_words spelled word listed c inside).1.le
  -- Blanks in front, the number, the colon and its blank, the name, and each operand with its blank.
  rcases member with ⟨-, rfl⟩ | digit | rfl | rfl | name | ⟨word, listed, rfl | inside⟩
  · decide
  · exact (Numeral.visible_of_mem_repr digit).1.le
  · decide
  · decide
  · exact visible _ List.mem_cons_self name
  · decide
  · exact visible word (List.mem_cons_of_mem _ listed) inside

end Instruction

theorem Record.Denotes.spelled {record : Record} {ins : Instruction} (denotes : record.Denotes ins) :
    ins.Spelled := by
  intro operand member
  obtain ⟨place, here⟩ := List.mem_iff_getElem?.mp member
  obtain ⟨arg, -, -, read⟩ := (denotes.operands place operand).mp here
  exact Operand.spelled_of_parse read

namespace Program

theorem spelled_of_ofRecords {records : List Record} {program : Program}
    (made : ofRecords records = .ok program) : ∀ ins ∈ program.instructions.toList, ins.Spelled := by
  obtain ⟨instructions, denoted, built⟩ := (ofRecords_ok_iff records program).mp made
  obtain ⟨-, -, -, -, sorted⟩ := (build_ok_iff instructions program).mp built
  have each : ∀ ins ∈ instructions, ins.Spelled := by
    refine (forall_mem_iff (p := fun _ => True) ?_ denoted).mp fun _ _ => trivial
    intro record ins reads
    exact iff_of_true trivial reads.2.spelled
  intro ins member
  rw [sorted, (sortInstructions_perm instructions).mem_iff] at member
  exact each ins member

/-- The program that the lines of a listing make up. -/
def ofListing? (lines : List (List Char)) : Option Program :=
  (lines.mapM Instruction.ofDisplay?).bind fun instructions => (build instructions).toOption

theorem ofListing?_listing {program : Program}
    (spelled : ∀ ins ∈ program.instructions.toList, ins.Spelled) :
    ofListing? (program.listing.map String.toList) = some program := by
  have read : (program.listing.map String.toList).mapM Instruction.ofDisplay? =
      some program.instructions.toList := by
    rw [listing, List.map_map]
    apply mapM_of_forall₂
    apply forall₂_map
    intro ins member
    exact Instruction.ofDisplay?_display (spelled ins member)
  rw [ofListing?, read, Option.bind_some, build_toList]
  rfl

end Program

namespace Session

/-- The lines before the first one that starts with an escape, where the line about the program does. -/
def rows (shown : List Char) : List (List Char) :=
  (shown.splitOn '\n').takeWhile fun line => line.head? != some '\x1b'

theorem splitOn_linesText (lines : List String) (free : ∀ line ∈ lines, '\n' ∉ line.toList)
    (rest : List Char) :
    ((linesText lines).toList ++ rest).splitOn '\n' =
      lines.map String.toList ++ rest.splitOn '\n' := by
  induction lines with
  | nil => rfl
  | cons line more ih =>
    rw [List.forall_mem_cons] at free
    have shape : (linesText (line :: more)).toList =
        line.toList ++ '\n' :: (linesText more).toList := by
      simp [linesText, String.toList_join]
    have before : ∀ c ∈ line.toList, (c == '\n') = false := by
      intro c member
      rw [beq_eq_false_iff_ne]
      rintro rfl
      exact free.1 member
    have tail := ih free.2
    rw [shape, List.append_assoc, List.cons_append, List.splitOn_eq_splitOnP,
      List.splitOnP_append_cons_of_forall_mem before _ (beq_self_eq_true _), ← List.splitOn_eq_splitOnP,
      tail, List.map_cons, List.cons_append]

theorem rows_linesText {lines : List String} (free : ∀ line ∈ lines, ∀ c ∈ line.toList, 32 ≤ c.toNat)
    {last : String} {more : List Char} (marked : last.toList = '\x1b' :: more) :
    rows (linesText (lines ++ [last])).toList = lines.map String.toList := by
  have shape : (linesText (lines ++ [last])).toList =
      (linesText lines).toList ++ '\x1b' :: (more ++ ['\n']) := by
    simp [linesText, String.toList_join, marked]
  have single : ∀ line ∈ lines, '\n' ∉ line.toList := by
    intro line member inside
    have above := free line member '\n' inside
    simp at above
  rw [rows, shape, splitOn_linesText lines single, List.takeWhile_append_of_pos]
  · -- The rest goes on with a line that starts with the escape, so nothing more is taken.
    rw [List.splitOn_eq_splitOnP, List.splitOnP_cons_eq_if_modifyHead, if_neg (by decide)]
    cases (more ++ ['\n']).splitOnP (· == '\n') with
    | nil => simp
    | cons row others => simp
  · rw [List.forall_mem_map]
    intro line member
    rw [bne_iff_ne]
    intro escaped
    have above := free line member '\x1b' (List.mem_of_mem_head? escaped)
    simp at above

theorem ofRecords_of_loadProgram {path : String} {found : Lookup} {program : Program}
    (loaded : loadProgram path found = .ok program) :
    ∃ records, Program.ofRecords records = .ok program := by
  unfold loadProgram at loaded
  split at loaded
  · cases loaded
  · split at loaded
    · cases loaded
    · rename_i parsed
      cases loaded
      exact Program.ofRecords_of_parse parsed

/-- Reads the program back from what a check that lists it shows. -/
def listed? (stdout : Bytes) : Option Program :=
  (Utf8.decode? stdout).bind fun shown => Program.ofListing? (rows shown)

theorem listed?_check {around : Surroundings} {file : String} {program : Program}
    (loaded : loadProgram file (around.look file) = .ok program) (directive : String) :
    listed? (check around directive file true).stdout = some program := by
  obtain ⟨records, made⟩ := ofRecords_of_loadProgram loaded
  have spelled := Program.spelled_of_ofRecords made
  have shown : (check around directive file true).stdout =
      Utf8.ofString (linesText (program.listing ++ [summary file program])) := by
    rw [check, loaded]
    rfl
  have free : ∀ line ∈ program.listing, ∀ c ∈ line.toList, 32 ≤ c.toNat := by
    rw [Program.listing, List.forall_mem_map]
    intro ins member c
    exact Instruction.le_of_mem_display (spelled ins member)
  have marked : ∃ more, (summary file program).toList = '\x1b' :: more := by
    simp [summary, Color.green, Color.styled]
  obtain ⟨more, marked⟩ := marked
  rw [listed?, shown, Utf8.ofString, Utf8.decode?_encode, Option.bind_some, rows_linesText free marked,
    Program.ofListing?_listing spelled]

end Session

namespace Program

/-- A listing determines its program: every line is read back, so different instructions have different
lines, and programs that are listed alike, also by way of a check, are the same. -/
theorem listing_determines {records others : List Record} {program other : Program}
    (made : ofRecords records = .ok program) (madeToo : ofRecords others = .ok other) :
    (∀ ins ∈ program.instructions.toList, Instruction.ofDisplay? ins.display.toList = some ins) ∧
      (∀ ins ∈ program.instructions.toList, ∀ twin ∈ other.instructions.toList,
        ins.display = twin.display → ins = twin) ∧
      (program.listing = other.listing → program = other) ∧
      ∀ (around elsewhere : Surroundings) (directive filter file path : String),
        Session.loadProgram file (around.look file) = .ok program →
        Session.loadProgram path (elsewhere.look path) = .ok other →
        (Session.check around directive file true).stdout =
          (Session.check elsewhere filter path true).stdout →
        program = other := by
  have spelled := spelled_of_ofRecords made
  have spelledToo := spelled_of_ofRecords madeToo
  refine ⟨?_, ?_, ?_, ?_⟩
  · intro ins member
    exact Instruction.ofDisplay?_display (spelled ins member)
  · intro ins member twin memberToo same
    have read := Instruction.ofDisplay?_display (spelled ins member)
    rw [same, Instruction.ofDisplay?_display (spelledToo twin memberToo)] at read
    exact (Option.some.inj read).symm
  · intro same
    have read := ofListing?_listing spelled
    rw [same, ofListing?_listing spelledToo] at read
    exact (Option.some.inj read).symm
  · intro around elsewhere directive filter file path loaded loadedToo same
    have read := Session.listed?_check loaded directive
    rw [same, Session.listed?_check loadedToo filter] at read
    exact (Option.some.inj read).symm

/-- A string with `@`, blanks and `: ` in it beside the least integer, and the same in another spelling. -/
def greeting : List Record :=
  [⟨12345, "jumpifeq", [⟨1, "label", "end", []⟩, ⟨2, "string", "int@1\\032:\\0322", []⟩,
      ⟨3, "int", "-9223372036854775808", []⟩]⟩,
    ⟨99999, "label", [⟨1, "label", "end", []⟩]⟩]

def greetingRespelled : List Record :=
  [⟨99999, "LABEL", [⟨1, "label", "end", []⟩]⟩,
    ⟨12345, "JumpIfEq", [⟨1, "label", "end", []⟩, ⟨2, "string", "int\\0641 : 2", []⟩,
      ⟨3, "int", "-0x8000000000000000", []⟩]⟩]

theorem listing_determines_greeting :
    let program : Program :=
      ⟨#[⟨12345, .jumpIfEq, [.label "end", .str (Utf8.ofString "int@1 : 2"), .int Int64.minValue]⟩,
        ⟨99999, .label, [.label "end"]⟩], by decide⟩
    ofRecords greeting = .ok program ∧ ofRecords greetingRespelled = .ok program ∧
      program.listing = ["12345: JUMPIFEQ label@end string@int@1\\032:\\0322 int@-9223372036854775808",
        "99999: LABEL label@end"] ∧
      Instruction.ofDisplay?
          "12345: JUMPIFEQ label@end string@int@1\\032:\\0322 int@-9223372036854775808".toList =
        program.instructions[0]? := by
  intro program
  have made : ofRecords greeting = .ok program := ofRecords_eq_ok (by cbv) (by cbv)
  have madeToo : ofRecords greetingRespelled = .ok program := ofRecords_eq_ok (by cbv) (by cbv)
  have shown : program.listing =
      ["12345: JUMPIFEQ label@end string@int@1\\032:\\0322 int@-9223372036854775808",
        "99999: LABEL label@end"] := by cbv
  refine ⟨made, madeToo, shown, ?_⟩
  have read := (listing_determines made madeToo).1 _ List.mem_cons_self
  exact read

end Program

end ThreeAddress
