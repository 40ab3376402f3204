import ThreeAddress.Proofs.Rules

set_option autoImplicit false

namespace ThreeAddress

namespace Opcode

/-- The kinds that an operation asks of the values of its sources, where it asks for certain ones. -/
def asks : Opcode → Option (List Kind)
  | .add | .sub | .mul | .idiv => some [.int, .int]
  | .and | .or => some [.bool, .bool]
  | .not => some [.bool]
  | .int2char | .exit => some [.int]
  | .strlen => some [.string]
  | .concat => some [.string, .string]
  | .stri2int | .getchar => some [.string, .int]
  | .setchar => some [.string, .int, .string]
  | _ => none

/-- Whether an operation takes values of these kinds from its sources: those it asks for, two of one
kind that is ordered, two of one kind or one that is nil, or one of any kind. -/
def takes (op : Opcode) (kinds : List Kind) : Bool :=
  match op.asks with
  | some asked => kinds == asked
  | none =>
    match op, kinds with
    | .lt, [a, b] | .gt, [a, b] => a == b && a != .nil
    | .eq, [a, b] | .jumpIfEq, [a, b] | .jumpIfNeq, [a, b] => a == b || a == .nil || b == .nil
    | .move, [_] | .pushs, [_] | .write, [_] => true
    | _, _ => false

/-- The kinds of errors that an instruction can end in. -/
def faultKinds : Opcode → List ErrorKind
  | .createFrame | .label | .jump | .call | .dprint | .brk => []
  | .defVar => [.frameAccess, .variableRedefinition]
  | .pushFrame | .popFrame => [.frameAccess]
  | .ret => [.callStackEmpty]
  | .move | .pushs => [.variableAccess, .missingValue]
  | .pops => [.dataStackEmpty, .variableAccess]
  | .typeOf => [.variableAccess]
  | .read => [.variableAccess, .internal]
  | .write => [.variableAccess, .missingValue, .output]
  | .lt | .gt | .eq | .and | .or | .not | .add | .sub | .mul | .concat | .strlen | .jumpIfEq
  | .jumpIfNeq => [.variableAccess, .missingValue, .operandType]
  | .idiv | .exit => [.variableAccess, .missingValue, .operandType, .operandValue]
  | .int2char | .stri2int | .getchar | .setchar =>
    [.variableAccess, .missingValue, .operandType, .stringOperation]

end Opcode

namespace Operation

variable {op : Opcode} {fault : Fault}

/-- The operation fails with an error of a kind. -/
def Fails {α : Type} (kind : ErrorKind) (result : Except Fault α) : Prop :=
  ∃ fault, result = .error fault ∧ fault.kind = kind

theorem Fails.kind_eq {α : Type} {result : Except Fault α} {kind other : ErrorKind}
    (failed : Fails kind result) (again : Fails other result) : kind = other := by
  obtain ⟨fault, rfl, rfl⟩ := failed
  obtain ⟨same, came, rfl⟩ := again
  rw [Except.error.inj came]

theorem not_fails_ok {α : Type} {kind : ErrorKind} (value : α) : ¬ Fails kind (.ok value) := by
  intro failed
  obtain ⟨fault, came, -⟩ := failed
  cases came

/-- A fault is one that an operation may refuse values with: it is listed, and it is about kinds only
if the kinds of the values are not taken. -/
structure Refused (op : Opcode) (values : List Value) (fault : Fault) : Prop where
  listed : fault.kind ∈ op.faultKinds
  mistyped : fault.kind = .operandType → ∀ kinds : List Kind,
    values.map Value.kind? = kinds.map some → op.takes kinds = false

theorem Refused.of_asks {values : List Value} {asked : List Kind} (about : fault.kind = .operandType)
    (listed : .operandType ∈ op.faultKinds) (asks : op.asks = some asked)
    (wrong : values.map Value.kind? ≠ asked.map some) : Refused op values fault := by
  refine ⟨by rw [about]; exact listed, ?_⟩
  intro _ kinds same
  have different : kinds ≠ asked := by
    rintro rfl
    exact wrong same
  simpa [Opcode.takes, asks] using different

theorem Refused.of_value {values : List Value} (kind : ErrorKind) (about : fault.kind = kind)
    (listed : kind ∈ op.faultKinds) (other : kind ≠ .operandType) : Refused op values fault :=
  ⟨about ▸ listed, fun mistyped => absurd (about.symm.trans mistyped) other⟩

theorem bind_error {α β : Type} {first : Except Fault α} {next : α → Except Fault β}
    (failed : first >>= next = .error fault) :
    first = .error fault ∨ ∃ value, first = .ok value ∧ next value = .error fault := by
  cases first with
  | error reason => exact Or.inl (congrArg Except.error (Except.error.inj failed))
  | ok value => exact Or.inr ⟨value, rfl, failed⟩

theorem int_error {value : Value} (failed : int op value = .error fault) :
    fault.kind = .operandType ∧ value.kind? ≠ some .int := by
  cases value with
  | int n => cases failed
  | _ => cases failed; exact ⟨rfl, by simp [Value.kind?]⟩

theorem bool_error {value : Value} (failed : bool op value = .error fault) :
    fault.kind = .operandType ∧ value.kind? ≠ some .bool := by
  cases value with
  | bool b => cases failed
  | _ => cases failed; exact ⟨rfl, by simp [Value.kind?]⟩

theorem str_error {value : Value} (failed : str op value = .error fault) :
    fault.kind = .operandType ∧ value.kind? ≠ some .string := by
  cases value with
  | str bytes => cases failed
  | _ => cases failed; exact ⟨rfl, by simp [Value.kind?]⟩

theorem kinds_two {a b : Value} {kinds : List Kind}
    (same : [a, b].map Value.kind? = kinds.map some) :
    ∃ first second, kinds = [first, second] ∧ a.kind? = some first ∧ b.kind? = some second := by
  obtain ⟨first, rest, rfl, kindA, behind⟩ := List.map_eq_cons_iff.mp same.symm
  obtain ⟨second, rest, rfl, kindB, empty⟩ := List.map_eq_cons_iff.mp behind
  rw [List.map_eq_nil_iff.mp empty]
  exact ⟨first, second, rfl, kindA.symm, kindB.symm⟩

theorem arithmetic_refused {a b : Value} (kind : op ∈ [.add, .sub, .mul, .idiv])
    (failed : arithmetic op a b = .error fault) : Refused op [a, b] fault := by
  simp only [List.mem_cons, List.not_mem_nil, or_false] at kind
  have table : op.asks = some [.int, .int] ∧ .operandType ∈ op.faultKinds := by
    rcases kind with rfl | rfl | rfl | rfl <;> decide
  unfold arithmetic at failed
  rcases bind_error failed with wrong | ⟨x, -, failed⟩
  · obtain ⟨about, wrong⟩ := int_error wrong
    exact .of_asks about table.2 table.1 (by simp [wrong])
  rcases bind_error failed with wrong | ⟨y, -, failed⟩
  · obtain ⟨about, wrong⟩ := int_error wrong
    exact .of_asks about table.2 table.1 (by simp [wrong])
  rcases kind with rfl | rfl | rfl | rfl
  · cases failed
  · cases failed
  · cases failed
  · dsimp only at failed
    split at failed
    · cases failed
      exact .of_value .operandValue rfl (by decide) (by decide)
    · cases failed

theorem logic_refused {a b : Value} (kind : op ∈ [.and, .or])
    (failed : logic op a b = .error fault) : Refused op [a, b] fault := by
  simp only [List.mem_cons, List.not_mem_nil, or_false] at kind
  have table : op.asks = some [.bool, .bool] ∧ .operandType ∈ op.faultKinds := by
    rcases kind with rfl | rfl <;> decide
  unfold logic at failed
  rcases bind_error failed with wrong | ⟨x, -, failed⟩
  · obtain ⟨about, wrong⟩ := bool_error wrong
    exact .of_asks about table.2 table.1 (by simp [wrong])
  rcases bind_error failed with wrong | ⟨y, -, failed⟩
  · obtain ⟨about, wrong⟩ := bool_error wrong
    exact .of_asks about table.2 table.1 (by simp [wrong])
  rcases kind with rfl | rfl
  · cases failed
  · cases failed

theorem negate_refused {a : Value} (failed : negate a = .error fault) : Refused .not [a] fault := by
  rcases bind_error failed with wrong | ⟨x, -, failed⟩
  · obtain ⟨about, wrong⟩ := bool_error wrong
    exact .of_asks about (by decide) rfl (by simp [wrong])
  · cases failed

theorem concat_refused {a b : Value} (failed : concat a b = .error fault) :
    Refused .concat [a, b] fault := by
  rcases bind_error failed with wrong | ⟨x, -, failed⟩
  · obtain ⟨about, wrong⟩ := str_error wrong
    exact .of_asks about (by decide) rfl (by simp [wrong])
  rcases bind_error failed with wrong | ⟨y, -, failed⟩
  · obtain ⟨about, wrong⟩ := str_error wrong
    exact .of_asks about (by decide) rfl (by simp [wrong])
  · cases failed

theorem strlen_refused {a : Value} (failed : strlen a = .error fault) :
    Refused .strlen [a] fault := by
  rcases bind_error failed with wrong | ⟨x, -, failed⟩
  · obtain ⟨about, wrong⟩ := str_error wrong
    exact .of_asks about (by decide) rfl (by simp [wrong])
  · cases failed

theorem int2char_refused {a : Value} (failed : int2char a = .error fault) :
    Refused .int2char [a] fault := by
  rcases bind_error failed with wrong | ⟨x, -, failed⟩
  · obtain ⟨about, wrong⟩ := int_error wrong
    exact .of_asks about (by decide) rfl (by simp [wrong])
  · split at failed
    · cases failed
    · cases failed
      exact .of_value .stringOperation rfl (by decide) (by decide)

theorem exitCode_refused {a : Value} (failed : exitCode a = .error fault) :
    Refused .exit [a] fault := by
  rcases bind_error failed with wrong | ⟨x, -, failed⟩
  · obtain ⟨about, wrong⟩ := int_error wrong
    exact .of_asks about (by decide) rfl (by simp [wrong])
  · split at failed
    · cases failed
    · cases failed
      exact .of_value .operandValue rfl (by decide) (by decide)

theorem charAt_refused {a index : Value} (kind : op ∈ [.stri2int, .getchar])
    (failed : charAt op a index = .error fault) : Refused op [a, index] fault := by
  simp only [List.mem_cons, List.not_mem_nil, or_false] at kind
  have table : op.asks = some [.string, .int] ∧ .operandType ∈ op.faultKinds ∧
      .stringOperation ∈ op.faultKinds := by
    rcases kind with rfl | rfl <;> decide
  rcases bind_error failed with wrong | ⟨bytes, -, failed⟩
  · obtain ⟨about, wrong⟩ := str_error wrong
    exact .of_asks about table.2.1 table.1 (by simp [wrong])
  rcases bind_error failed with wrong | ⟨i, -, failed⟩
  · obtain ⟨about, wrong⟩ := int_error wrong
    exact .of_asks about table.2.1 table.1 (by simp [wrong])
  dsimp only at failed
  split at failed
  · cases failed
  · cases failed
    exact .of_value .stringOperation rfl table.2.2 (by decide)

theorem setchar_refused {a index replacement : Value}
    (failed : setchar a index replacement = .error fault) :
    Refused .setchar [a, index, replacement] fault := by
  rcases bind_error failed with wrong | ⟨bytes, -, failed⟩
  · obtain ⟨about, wrong⟩ := str_error wrong
    exact .of_asks about (by decide) rfl (by simp [wrong])
  rcases bind_error failed with wrong | ⟨i, -, failed⟩
  · obtain ⟨about, wrong⟩ := int_error wrong
    exact .of_asks about (by decide) rfl (by simp [wrong])
  rcases bind_error failed with wrong | ⟨source, -, failed⟩
  · obtain ⟨about, wrong⟩ := str_error wrong
    exact .of_asks about (by decide) rfl (by simp [wrong])
  -- An empty replacement and a bad index are faults about strings.
  split at failed
  · cases failed
    exact .of_value .stringOperation rfl (by decide) (by decide)
  · dsimp only at failed
    split at failed
    · cases failed
      exact .of_value .stringOperation rfl (by decide) (by decide)
    · cases failed

theorem order?_none {a b : Value} {first second : Kind} (none : order? a b = none)
    (kindA : a.kind? = some first) (kindB : b.kind? = some second) :
    (first == second && first != .nil) = false := by
  cases a <;> cases b <;> simp_all [order?, Value.kind?] <;> grind

theorem relational_refused {a b : Value} (kind : op ∈ [.lt, .gt])
    (failed : relational op a b = .error fault) : Refused op [a, b] fault := by
  simp only [List.mem_cons, List.not_mem_nil, or_false] at kind
  unfold relational at failed
  split at failed
  · cases failed
  · rename_i unordered
    cases failed
    have listed : ErrorKind.operandType ∈ op.faultKinds := by
      rcases kind with rfl | rfl <;> decide
    refine ⟨listed, ?_⟩
    intro _ kinds same
    obtain ⟨first, second, rfl, kindA, kindB⟩ := kinds_two same
    rcases kind with rfl | rfl <;> exact order?_none unordered kindA kindB

theorem equals_refused {a b : Value} (kind : op ∈ [.eq, .jumpIfEq, .jumpIfNeq])
    (failed : equals op a b = .error fault) : Refused op [a, b] fault := by
  simp only [List.mem_cons, List.not_mem_nil, or_false] at kind
  unfold equals at failed
  split at failed <;> cases failed
  rename_i incomparable
  have listed : ErrorKind.operandType ∈ op.faultKinds := by
    rcases kind with rfl | rfl | rfl <;> decide
  refine ⟨listed, ?_⟩
  intro _ kinds same
  obtain ⟨first, second, rfl, kindA, kindB⟩ := kinds_two same
  have apart : (first == second || first == .nil || second == .nil) = false := by
    cases a <;> cases b <;> simp_all [Value.kind?] <;> grind
  rcases kind with rfl | rfl | rfl <;> exact apart

theorem unary_refused {a : Value} (signature : op.signature = [.var, .symb])
    (other : op ≠ .typeOf) (failed : unary op a = .error fault) : Refused op [a] fault := by
  cases op with
  | move => cases failed
  | not => exact negate_refused failed
  | int2char => exact int2char_refused failed
  | strlen => exact strlen_refused failed
  | typeOf => exact absurd rfl other
  | _ => cases signature

theorem map_error {α β : Type} {first : Except Fault α} {next : α → β}
    (failed : first.map next = .error fault) : first = .error fault := by
  cases first with
  | error reason => exact congrArg Except.error (Except.error.inj failed)
  | ok value => cases failed

theorem binary_refused {a b : Value} (signature : op.signature = [.var, .symb, .symb])
    (other : op ≠ .setchar) (failed : binary op a b = .error fault) :
    Refused op [a, b] fault := by
  cases op with
  | add | sub | mul | idiv => exact arithmetic_refused (by decide) failed
  | lt | gt => exact relational_refused (by decide) failed
  | eq => exact equals_refused (by decide) (map_error failed)
  | and | or => exact logic_refused (by decide) failed
  | concat => exact concat_refused failed
  | getchar | stri2int =>
    rcases bind_error failed with failed | ⟨char, -, failed⟩
    · exact charAt_refused (by decide) failed
    · cases failed
  | setchar => exact absurd rfl other
  | _ => cases signature

end Operation

end ThreeAddress
