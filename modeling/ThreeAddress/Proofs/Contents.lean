import ThreeAddress.Proofs.Stores

set_option autoImplicit false

/- The values in frames and on the data stack come from constants, from the input, from the names of
kinds and from operations on other values. What holds of these, and is handed on by the operations,
holds of every value that a machine ever has. `Operation.Computed` lists what operations make of
values. -/
namespace ThreeAddress

namespace Operation

variable {op : Opcode} {a b c value : Value} {values : List Value}

/-- What an operation can make of values. -/
inductive Computed (values : List Value) : Value → Prop
  | given {value : Value} (member : value ∈ values) : Computed values value
  | int (n : Int64) : Computed values (.int n)
  | bool (b : Bool) : Computed values (.bool b)
  | joined {x y : Bytes} (first : .str x ∈ values) (second : .str y ∈ values) :
      Computed values (.str (x ++ y))
  | selected {bytes char : Bytes} (from_ : .str bytes ∈ values) (member : char ∈ Text.characters bytes) :
      Computed values (.str char)
  | encoded (c : Char) : Computed values (.str (Utf8.encodeChar c))
  | replaced {bytes source char : Bytes} {rest : List Bytes} (place : Nat)
      (from_ : .str bytes ∈ values) (by_ : .str source ∈ values)
      (first : Text.characters source = char :: rest) :
      Computed values (.str ((Text.characters bytes).set place char).flatten)

theorem bind_ok {α β : Type} {first : Except Fault α} {next : α → Except Fault β} {result : β}
    (came : first >>= next = .ok result) : ∃ value, first = .ok value ∧ next value = .ok result := by
  cases first with
  | error reason => cases came
  | ok value => exact ⟨value, rfl, came⟩

theorem str_ok {bytes : Bytes} (came : str op a = .ok bytes) : a = .str bytes := by
  cases a with
  | str given => cases came; rfl
  | _ => cases came

theorem arithmetic_computed (came : arithmetic op a b = .ok value) : Computed [a, b] value := by
  obtain ⟨x, -, came⟩ := bind_ok came
  obtain ⟨y, -, came⟩ := bind_ok came
  split at came
  · cases came; exact .int _
  · cases came; exact .int _
  · cases came; exact .int _
  · split at came
    · cases came
    · cases came; exact .int _
  · cases came

theorem logic_computed (came : logic op a b = .ok value) : Computed [a, b] value := by
  obtain ⟨x, -, came⟩ := bind_ok came
  obtain ⟨y, -, came⟩ := bind_ok came
  split at came
  · cases came; exact .bool _
  · cases came; exact .bool _
  · cases came

theorem relational_computed (came : relational op a b = .ok value) : Computed [a, b] value := by
  unfold relational at came
  split at came
  · cases came; exact .bool _
  · cases came

theorem concat_computed (came : concat a b = .ok value) : Computed [a, b] value := by
  obtain ⟨x, first, rest⟩ := bind_ok came
  obtain ⟨y, second, joined⟩ := bind_ok rest
  cases joined
  rw [str_ok first, str_ok second]
  exact .joined (by simp) (by simp)

theorem charAt_ok {char : Bytes} (came : charAt op a b = .ok char) :
    ∃ bytes, a = .str bytes ∧ char ∈ Text.characters bytes := by
  obtain ⟨bytes, first, rest⟩ := bind_ok came
  obtain ⟨i, -, found⟩ := bind_ok rest
  refine ⟨bytes, str_ok first, ?_⟩
  dsimp only at found
  split at found
  · rename_i inside
    cases found
    obtain ⟨place, -, here⟩ := Option.bind_eq_some_iff.mp inside
    exact List.mem_of_getElem? here
  · cases found

theorem setchar_computed (came : setchar a b c = .ok value) : Computed [a, b, c] value := by
  obtain ⟨bytes, first, rest⟩ := bind_ok came
  obtain ⟨i, -, rest⟩ := bind_ok rest
  obtain ⟨source, third, set⟩ := bind_ok rest
  rw [str_ok first, str_ok third]
  split at set
  · cases set
  · rename_i char others chars
    dsimp only at set
    split at set
    · cases set
    · cases set
      exact .replaced _ (by simp) (by simp) chars

theorem unary_computed (came : unary op a = .ok value) : Computed [a] value := by
  unfold unary at came
  split at came
  · cases came
    exact .given (by simp)
  · obtain ⟨x, -, came⟩ := bind_ok came
    cases came
    exact .bool _
  · obtain ⟨n, -, came⟩ := bind_ok came
    split at came
    · cases came; exact .encoded _
    · cases came
  · obtain ⟨bytes, -, came⟩ := bind_ok came
    cases came
    exact .int _
  · cases came

theorem binary_computed (came : binary op a b = .ok value) : Computed [a, b] value := by
  cases op with
  | add | sub | mul | idiv => exact arithmetic_computed came
  | lt | gt => exact relational_computed came
  | eq =>
    change (equals .eq a b).map Value.bool = .ok value at came
    cases equal : equals .eq a b with
    | error fault => rw [equal] at came; cases came
    | ok result => rw [equal] at came; cases came; exact .bool _
  | and | or => exact logic_computed came
  | concat => exact concat_computed came
  | getchar =>
    obtain ⟨char, found, came⟩ := bind_ok came
    obtain ⟨bytes, string, member⟩ := charAt_ok found
    cases came
    exact .selected (by simp [string]) member
  | stri2int =>
    obtain ⟨char, -, came⟩ := bind_ok came
    cases came
    exact .int _
  | _ => cases came

/-- Whatever an operation gives is one of these. -/
theorem compute_computed (came : compute op values = .ok value) : Computed values value := by
  unfold compute at came
  split at came
  · exact unary_computed came
  · exact binary_computed came
  · split at came
    · exact setchar_computed came
    · cases came
  · cases came

end Operation

theorem Instruction.mem_operands_of_mem_sources {ins : Instruction} {a : Operand}
    (member : a ∈ ins.sources) : a ∈ ins.operands := by
  unfold sources at member
  split at member
  · exact member
  · exact member
  · exact member
  · exact member
  · split at member
    · exact List.mem_of_mem_tail member
    · cases member

namespace Machine

variable {program : Program} {limit : Option Nat} {ins : Instruction} {m last : Machine}
  {value : Value} {holds : Value → Prop} {index : Nat}

/-- A property of values that the instructions of a program hand on: its constants have it, names of kinds
and values that are read have it, and operations make values that have it of such values. -/
structure Inherited (program : Program) (holds : Value → Prop) : Prop where
  constant : ∀ {index ins a value}, program.get? index = some ins → a ∈ ins.operands →
    a.literal? = some value → holds value
  computed : ∀ {values value}, (∀ x ∈ values, holds x) → Operation.Computed values value → holds value
  named : ∀ value : Value, holds (.str (Utf8.ofString value.typeName))
  received : ∀ kind line, holds (Operation.convertInput kind line)

/-- All values of a machine have a property: those on the data stack, and those in slots, unless a slot
has no value. -/
structure Holding (holds : Value → Prop) (m : Machine) : Prop where
  slots : ∀ place name value, m.frames.slot? place name = some value → value = .unset ∨ holds value
  data : ∀ value ∈ m.data, holds value

theorem Holding.symbol (holding : Holding holds m) {a : Operand}
    (constant : ∀ value, a.literal? = some value → holds value)
    (found : m.symbol a = .ok value) : holds value := by
  unfold Machine.symbol at found
  split at found
  · split at found
    · cases found
    · cases found
    · rename_i v written looked
      cases found
      rcases holding.slots _ _ _ (Frames.lookup_slot? looked) with unset | has
      · exact absurd unset written
      · exact has
  · split at found
    · rename_i literal
      cases found
      exact constant _ literal
    · cases found

theorem Holding.values (holding : Holding holds m) {sources : List Operand} {values : List Value}
    (constants : ∀ a ∈ sources, ∀ value, a.literal? = some value → holds value)
    (read : m.values sources = .ok values) : ∀ value ∈ values, holds value := by
  induction sources generalizing values with
  | nil =>
    cases read
    simp
  | cons a rest ih =>
    obtain ⟨x, xs, found, others, rfl⟩ := values_cons read
    rw [List.forall_mem_cons]
    refine ⟨holding.symbol (constants a List.mem_cons_self) found, ?_⟩
    exact ih (fun b member => constants b (List.mem_cons_of_mem a member)) others

theorem Inherited.sources (inherited : Inherited program holds)
    (here : program.get? index = some ins) (holding : Holding holds m) {values : List Value}
    (read : m.values ins.sources = .ok values) : ∀ value ∈ values, holds value := by
  apply holding.values _ read
  intro a member value literal
  exact inherited.constant here (Instruction.mem_operands_of_mem_sources member) literal

theorem typeText_ok {a : Operand} (came : m.typeText a = .ok value) :
    ∃ named : Value, value = .str (Utf8.ofString named.typeName) := by
  unfold typeText at came
  split at came
  · cases found : m.frames.lookup _ with
    | error fault => rw [found] at came; cases came
    | ok named => rw [found] at came; cases came; exact ⟨named, rfl⟩
  · cases found : m.symbol a with
    | error fault => rw [found] at came; cases came
    | ok named => rw [found] at came; cases came; exact ⟨named, rfl⟩

theorem Inherited.result (inherited : Inherited program holds)
    (here : program.get? index = some ins) (holding : Holding holds m)
    (came : m.result ins = .ok value) : holds value := by
  unfold Machine.result at came
  split at came
  · obtain ⟨named, rfl⟩ := typeText_ok came
    exact inherited.named named
  · obtain ⟨values, read, computed⟩ := Operation.bind_ok came
    exact inherited.computed (inherited.sources here holding read)
      (Operation.compute_computed computed)

theorem Inherited.gives (inherited : Inherited program holds)
    (here : program.get? index = some ins) (holding : Holding holds m) (gives : Gives ins m value) :
    holds value := by
  cases gives with
  | computed op computed => exact inherited.result here holding computed
  | popped op top => exact holding.data value (by rw [top]; exact List.mem_cons_self)
  | received op => exact inherited.received _ _

/-- A value on the data stack was there, or it was pushed. -/
theorem Acts.mem_data {effect : Except Fault Outcome} (acts : Acts program ins m effect last)
    (member : value ∈ last.data) :
    value ∈ m.data ∨ m.values ins.sources = .ok [value] := by
  cases acts with
  | pushes op read =>
    rcases List.mem_cons.mp member with rfl | member
    · exact Or.inr read
    · exact Or.inl member
  | unpopped op operands top => exact Or.inl (by rw [top]; exact List.mem_cons_of_mem _ member)
  | pops op operands top => exact Or.inl (by rw [top]; exact List.mem_cons_of_mem _ member)
  | _ => exact Or.inl member

@[simp] theorem follow_data (m : Machine) (outcome : Outcome) :
    (m.follow outcome).data = m.data := by
  cases outcome <;> rfl

theorem Moves.mem_data {result : StepResult} (moves : Moves program limit m result last)
    (member : value ∈ last.data) :
    value ∈ m.data ∨
      ∃ ins, m.Executes program limit ins ∧ m.counted.values ins.sources = .ok [value] := by
  cases moves with
  | ended finished => exact Or.inl member
  | cut running given spent => exact Or.inl member
  | @failed ins fault last executes acts =>
    rcases acts.mem_data member with there | read
    · exact Or.inl there
    · exact Or.inr ⟨ins, executes, read⟩
  | @done ins outcome last executes acts =>
    rw [follow_data] at member
    rcases acts.mem_data member with there | read
    · exact Or.inl there
    · exact Or.inr ⟨ins, executes, read⟩

theorem Holding.counted (holding : Holding holds m) : Holding holds m.counted :=
  ⟨holding.slots, holding.data⟩

/-- A step hands a property of values on. -/
theorem Inherited.step (inherited : Inherited program holds)
    (limit : Option Nat) (holding : Holding holds m) :
    Holding holds (m.step program limit).2 := by
  constructor
  · intro place name value held
    rcases step_slot_value held with ⟨origin, before⟩ | ⟨origin, assigns⟩ | unset
    · exact holding.slots origin name value before
    · obtain ⟨ins, executes, gives⟩ := assigns.gives
      exact Or.inr (inherited.gives executes.here holding.counted gives)
    · exact Or.inl unset
  · intro value member
    rcases (step_moves program limit m).mem_data member with there | ⟨ins, executes, read⟩
    · exact holding.data value there
    · exact inherited.sources executes.here holding.counted read value List.mem_cons_self

theorem start_slot? (input : Input) (output : Sink) (place : Place) (name : String) :
    (start input output).frames.slot? place name = none := by
  cases place with
  | global | temporary => rfl
  | localAt index => simp [start, Frames.slot?, Frames.at?]

/-- What is handed on holds wherever steps lead. -/
theorem Inherited.reachable (inherited : Inherited program holds)
    {input : Input} {output : Sink} (reached : Reachable program limit (start input output) m) :
    Holding holds m := by
  apply reached.invariant (Holding holds)
  · constructor
    · intro place name value held
      rw [start_slot?] at held
      cases held
    · intro value member
      cases member
  · intro m holding
    exact inherited.step limit holding

end Machine

end ThreeAddress
