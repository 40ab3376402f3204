import ThreeAddress.Proofs.Refusals
import ThreeAddress.Proofs.Steps

set_option autoImplicit false

namespace ThreeAddress

namespace Frames

variable {frames : Frames} {v : VarRef} {fault : Fault}

/-- The scope of a variable has a frame, and the frame has the variable. -/
def Accessible (frames : Frames) (v : VarRef) : Prop :=
  ∃ frame value, frames.frame? v.scope = some frame ∧ frame.get? v.name = some value

theorem lookup_error (failed : frames.lookup v = .error fault) : fault.kind = .variableAccess := by
  unfold lookup at failed
  split at failed
  · cases failed
    rfl
  · rename_i frame present
    simp only [resolve, Frames.frame, present] at failed
    split at failed
    · cases failed
      rfl
    · cases failed

theorem assign_error {value : Value} (failed : frames.assign v value = .error fault) :
    ¬ frames.Accessible v ∧ fault.kind = .variableAccess := by
  unfold assign at failed
  split at failed
  · rename_i absent
    cases failed
    refine ⟨?_, rfl⟩
    rintro ⟨frame, value, present, -⟩
    rw [absent] at present
    cases present
  · rename_i frame present
    simp only [replace, Frames.frame, present] at failed
    split at failed
    · rename_i unknown
      cases failed
      refine ⟨?_, rfl⟩
      rintro ⟨other, value, same, known⟩
      cases present.symm.trans same
      rw [unknown] at known
      cases known
    · cases failed

theorem declare_error (failed : frames.declare v = .error fault) :
    fault.kind = .frameAccess ∨ fault.kind = .variableRedefinition := by
  unfold declare Frames.frame at failed
  split at failed
  · rename_i missing
    split at missing <;> cases missing
    cases failed
    exact Or.inl rfl
  · split at failed <;> cases failed
    exact Or.inr rfl

theorem push_error (failed : frames.push = .error fault) : fault.kind = .frameAccess := by
  unfold push at failed
  split at failed <;> cases failed
  rfl

theorem pop_error (failed : frames.pop = .error fault) : fault.kind = .frameAccess := by
  unfold pop at failed
  split at failed <;> cases failed
  rfl

end Frames

theorem Input.readLine_error {input : Input} {fault : Fault}
    (failed : input.readLine.1 = .error fault) : ∃ reason, fault = .input reason := by
  unfold readLine at failed
  split at failed
  · cases failed
    exact ⟨_, rfl⟩
  · cases failed
  · dsimp only at failed
    split at failed <;> cases failed
    exact ⟨_, rfl⟩

theorem Sink.write_error {sink : Sink} {bytes : Bytes} {fault : Fault}
    (failed : (sink.write bytes).1 = .error fault) :
    sink.room ≠ none ∧ fault.kind = .output := by
  unfold write at failed
  split at failed
  · cases failed
  · rename_i room limited
    split at failed <;> cases failed
    exact ⟨by rw [limited]; simp, rfl⟩

namespace Machine

variable {program : Program} {ins : Instruction} {m : Machine} {fault : Fault}

theorem symbol_error {a : Operand} (fit : a.fits .symb = true)
    (failed : m.symbol a = .error fault) :
    fault.kind = .variableAccess ∨ fault.kind = .missingValue := by
  rcases Operand.fits_symb fit with ⟨v, rfl⟩ | ⟨value, kind, literal, -⟩
  · simp only [symbol] at failed
    split at failed
    · rename_i unreachable
      cases failed
      exact Or.inl (Frames.lookup_error unreachable)
    · cases failed
      exact Or.inr rfl
    · cases failed
  · cases a with
    | var v => cases literal
    | _ => simp [symbol, literal] at failed

/-- A value that an operand has is never unset. -/
theorem symbol_kind {a : Operand} {value : Value} (found : m.symbol a = .ok value) :
    ∃ kind, value.kind? = some kind := by
  unfold symbol at found
  split at found
  · split at found
    · cases found
    · cases found
    · rename_i written looked
      cases found
      cases value with
      | unset => exact absurd rfl written
      | _ => exact ⟨_, rfl⟩
  · rename_i other
    cases a with
    | var v => exact absurd rfl (other v)
    | kind | label => simp [Operand.literal?] at found
    | _ =>
      simp only [Operand.literal?, Except.ok.injEq] at found
      subst found
      exact ⟨_, rfl⟩

theorem values_error {sources : List Operand} (fit : ∀ a ∈ sources, a.fits .symb = true)
    (failed : m.values sources = .error fault) :
    fault.kind = .variableAccess ∨ fault.kind = .missingValue := by
  induction sources with
  | nil => cases failed
  | cons a rest ih =>
    rcases Operation.bind_error failed with failed | ⟨x, -, failed⟩
    · exact symbol_error (fit a List.mem_cons_self) failed
    · rcases Operation.bind_error failed with failed | ⟨xs, -, failed⟩
      · exact ih (fun b member => fit b (List.mem_cons_of_mem a member)) failed
      · cases failed

theorem symbol_congr {other : Machine} (same : m.frames = other.frames) (a : Operand) :
    m.symbol a = other.symbol a := by
  cases a <;> simp only [symbol, same]

theorem values_congr {other : Machine} (same : m.frames = other.frames)
    (sources : List Operand) : m.values sources = other.values sources := by
  induction sources with
  | nil => rfl
  | cons a rest ih => rw [Machine.values, Machine.values, symbol_congr same, ih]

theorem values_cons {a : Operand} {rest : List Operand} {values : List Value}
    (read : m.values (a :: rest) = .ok values) :
    ∃ x xs, m.symbol a = .ok x ∧ m.values rest = .ok xs ∧ values = x :: xs := by
  rw [Machine.values] at read
  cases found : m.symbol a with
  | error fault => simp [found, bind, Except.bind] at read
  | ok x =>
    cases others : m.values rest with
    | error fault => simp [found, others, bind, Except.bind] at read
    | ok xs =>
      simp only [found, others, bind, Except.bind, pure, Except.pure, Except.ok.injEq] at read
      exact ⟨x, xs, rfl, rfl, read.symm⟩

theorem values_length {sources : List Operand} {values : List Value}
    (read : m.values sources = .ok values) : values.length = sources.length := by
  induction sources generalizing values with
  | nil =>
    cases read
    rfl
  | cons a rest ih =>
    obtain ⟨x, xs, -, others, rfl⟩ := values_cons read
    simp only [List.length_cons, ih others]

theorem values_kinds {sources : List Operand} {values : List Value}
    (read : m.values sources = .ok values) :
    ∃ kinds : List Kind, values.map Value.kind? = kinds.map some := by
  induction sources generalizing values with
  | nil =>
    cases read
    exact ⟨[], rfl⟩
  | cons a rest ih =>
    obtain ⟨x, xs, found, others, rfl⟩ := values_cons read
    obtain ⟨kind, first⟩ := symbol_kind found
    obtain ⟨kinds, behind⟩ := ih others
    exact ⟨kind :: kinds, by simp [first, behind]⟩

/-- The values of an instruction's sources can be read, and their kinds are not taken. -/
def Mistyped (ins : Instruction) (m : Machine) : Prop :=
  ∃ values kinds, m.values ins.sources = .ok values ∧ values.map Value.kind? = kinds.map some ∧
    ins.op.takes kinds = false

/-- A fault that an instruction may end in: it is listed, it is about kinds only if the sources are
mistyped, and an internal one is about the input. -/
structure Allowed (ins : Instruction) (m : Machine) (fault : Fault) : Prop where
  listed : fault.kind ∈ ins.op.faultKinds
  mistyped : fault.kind = .operandType → Mistyped ins m
  internal : fault.kind = .internal → ∃ reason, fault = .input reason

theorem Allowed.of_kind (kind : ErrorKind) (about : fault.kind = kind)
    (listed : kind ∈ ins.op.faultKinds) (typed : kind ≠ .operandType)
    (external : kind ≠ .internal) : Allowed ins m fault where
  listed := about ▸ listed
  mistyped same := absurd (about.symm.trans same) typed
  internal same := absurd (about.symm.trans same) external

theorem Allowed.of_unread (fit : ∀ a ∈ ins.sources, a.fits .symb = true)
    (access : .variableAccess ∈ ins.op.faultKinds) (missing : .missingValue ∈ ins.op.faultKinds)
    (failed : m.values ins.sources = .error fault) : Allowed ins m fault := by
  rcases values_error fit failed with about | about
  · exact .of_kind .variableAccess about access (by decide) (by decide)
  · exact .of_kind .missingValue about missing (by decide) (by decide)

theorem internal_not_listed {op : Opcode} (other : op ≠ .read) : .internal ∉ op.faultKinds := by
  cases op <;> first | exact absurd rfl other | decide

theorem Allowed.of_refused {values : List Value} (read : m.values ins.sources = .ok values)
    (refused : Operation.Refused ins.op values fault) (other : ins.op ≠ .read) :
    Allowed ins m fault where
  listed := refused.listed
  mistyped about := by
    obtain ⟨kinds, same⟩ := values_kinds read
    exact ⟨values, kinds, read, same, refused.mistyped about kinds same⟩
  internal about := absurd (about ▸ refused.listed) (internal_not_listed other)

theorem typeText_error {a : Operand} (fit : a.fits .symb = true)
    (failed : m.typeText a = .error fault) : fault.kind = .variableAccess := by
  rcases Operand.fits_symb fit with ⟨v, rfl⟩ | ⟨value, kind, literal, -⟩
  · exact Frames.lookup_error (Operation.map_error failed)
  · cases a with
    | var v => cases literal
    | _ => simp [typeText, symbol, literal, Except.map] at failed

/-- An operation that computes from values has one of three shapes. -/
theorem computes_cases {op : Opcode} (computes : op.computes = true) :
    op.signature = [.var, .symb] ∨ op.signature = [.var, .symb, .symb] ∧ op ≠ .setchar ∨
      op = .setchar := by
  cases op <;> simp_all [Opcode.computes, Opcode.signature]

/-- Sources that can be read are refused by the operation, if at all. -/
theorem compute_refused (formed : ins.WellFormed) (op : ins.op.computes = true)
    (typed : ins.op ≠ .typeOf) {values : List Value} (read : m.values ins.sources = .ok values)
    (failed : Operation.compute ins.op values = .error fault) :
    Operation.Refused ins.op values fault := by
  have count := values_length read
  rcases computes_cases op with signature | ⟨signature, other⟩ | setchar
  · obtain ⟨v, a, -, sources, -⟩ := formed.unary op signature
    rw [sources] at count
    obtain ⟨x, rfl⟩ := List.length_eq_one_iff.mp count
    exact Operation.unary_refused signature typed failed
  · obtain ⟨v, a, b, -, sources, -⟩ := formed.binary op signature other
    rw [sources] at count
    obtain ⟨x, y, rfl⟩ := List.length_eq_two.mp count
    exact Operation.binary_refused signature other failed
  · obtain ⟨v, a, b, -, sources, -⟩ := formed.setchar setchar
    rw [sources] at count
    obtain ⟨x, y, z, rfl⟩ := List.length_eq_three.mp count
    rw [setchar] at failed ⊢
    exact Operation.setchar_refused failed

theorem computes_fit (formed : ins.WellFormed) (op : ins.op.computes = true) :
    ∀ a ∈ ins.sources, a.fits .symb = true := by
  rcases computes_cases op with signature | ⟨signature, other⟩ | setchar
  · obtain ⟨v, a, -, sources, fit⟩ := formed.unary op signature
    simp [sources, fit]
  · obtain ⟨v, a, b, -, sources, fitA, fitB⟩ := formed.binary op signature other
    simp [sources, fitA, fitB]
  · obtain ⟨v, a, b, -, sources, fitA, fitB⟩ := formed.setchar setchar
    have own : (Operand.var v).fits .symb = true := rfl
    simp [sources, own, fitA, fitB]

theorem uncomputed_allowed (formed : ins.WellFormed) (op : ins.op.computes = true)
    (failed : m.result ins = .error fault) : Allowed ins m fault := by
  -- `type` looks at a variable without asking for its value, so that none is ever missing.
  by_cases typeOf : ins.op = .typeOf
  · obtain ⟨v, a, -, sources, fit⟩ := formed.unary op (by rw [typeOf]; rfl)
    simp only [result, typeOf, sources] at failed
    exact .of_kind .variableAccess (typeText_error fit failed) (by rw [typeOf]; decide) (by decide)
      (by decide)
  · have table : .variableAccess ∈ ins.op.faultKinds ∧ .missingValue ∈ ins.op.faultKinds ∧
        ins.op ≠ .read := by
      cases same : ins.op <;> simp_all [Opcode.computes, Opcode.faultKinds]
    rw [result_of_ne_typeOf typeOf] at failed
    rcases Operation.bind_error failed with unread | ⟨values, read, refused⟩
    · exact .of_unread (computes_fit formed op) table.1 table.2.1 unread
    · exact .of_refused read (compute_refused formed op typeOf read refused) table.2.2

theorem uncompared_allowed (formed : ins.WellFormed) (op : ins.op.branches = true)
    (failed : m.comparison ins = .error fault) : Allowed ins m fault := by
  obtain ⟨label, a, b, -, sources, fitA, fitB⟩ := formed.branch op
  have table : .variableAccess ∈ ins.op.faultKinds ∧ .missingValue ∈ ins.op.faultKinds ∧
      ins.op ≠ .read ∧ ins.op ∈ [.eq, .jumpIfEq, .jumpIfNeq] := by
    cases same : ins.op <;> simp_all [Opcode.branches, Opcode.faultKinds]
  rcases Operation.bind_error failed with unread | ⟨values, read, refused⟩
  · exact .of_unread (by simp [sources, fitA, fitB]) table.1 table.2.1 unread
  · have count := values_length read
    rw [sources] at count
    obtain ⟨x, y, rfl⟩ := List.length_eq_two.mp count
    exact .of_refused read (Operation.equals_refused table.2.2.2 refused) table.2.2.1

theorem unexited_allowed (formed : ins.WellFormed) (op : ins.op = .exit)
    (failed : m.statusAsked ins = .error fault) : Allowed ins m fault := by
  obtain ⟨a, -, sources, fit⟩ := formed.symbol (by simp [op])
  rcases Operation.bind_error failed with unread | ⟨values, read, refused⟩
  · exact .of_unread (by simp [sources, fit]) (by rw [op]; decide) (by rw [op]; decide) unread
  · have count := values_length read
    rw [sources] at count
    obtain ⟨x, rfl⟩ := List.length_eq_one_iff.mp count
    exact .of_refused read (by rw [op]; exact Operation.exitCode_refused refused)
      (by rw [op]; decide)

theorem unframed_allowed (formed : ins.WellFormed) (op : ins.op.reframes = true)
    (failed : m.reframed ins = .error fault) : Allowed ins m fault := by
  cases same : ins.op with
  | createFrame => simp [reframed, same] at failed
  | pushFrame =>
    simp only [reframed, same] at failed
    exact .of_kind .frameAccess (Frames.push_error failed) (by rw [same]; decide) (by decide)
      (by decide)
  | popFrame =>
    simp only [reframed, same] at failed
    exact .of_kind .frameAccess (Frames.pop_error failed) (by rw [same]; decide) (by decide)
      (by decide)
  | defVar =>
    obtain ⟨first, operands, fit⟩ := formed.one (show ins.op.signature = [.var] by rw [same]; rfl)
    obtain ⟨v, rfl⟩ := Operand.fits_var fit
    simp only [reframed, same, operands] at failed
    rcases Frames.declare_error failed with about | about
    · exact .of_kind .frameAccess about (by rw [same]; decide) (by decide) (by decide)
    · exact .of_kind .variableRedefinition about (by rw [same]; decide) (by decide) (by decide)
  | _ => simp [same, Opcode.reframes] at op

/-- Whatever an instruction of a program fails of is allowed. -/
theorem Acts.allowed (formed : ins.WellFormed) {last : Machine}
    (acts : Acts program ins m (.error fault) last) : Allowed ins m fault := by
  cases acts with
  | uncomputed op computed => exact uncomputed_allowed formed op computed
  | unstored op first computed stored =>
    have listed : .variableAccess ∈ ins.op.faultKinds := by
      cases same : ins.op <;> simp_all [Opcode.computes, Opcode.faultKinds]
    exact .of_kind .variableAccess (Frames.assign_error stored).2 listed (by decide) (by decide)
  | unframed op changed => exact unframed_allowed formed op changed
  | unreturned op empty =>
    exact .of_kind .callStackEmpty rfl (by rw [op]; decide) (by decide) (by decide)
  | unread op read =>
    obtain ⟨a, -, sources, fit⟩ := formed.symbol (by tauto)
    have listed : .variableAccess ∈ ins.op.faultKinds ∧ .missingValue ∈ ins.op.faultKinds := by
      rcases op with op | op <;> rw [op] <;> decide
    exact .of_unread (by simp [sources, fit]) listed.1 listed.2 read
  | emptied op empty =>
    exact .of_kind .dataStackEmpty rfl (by rw [op]; decide) (by decide) (by decide)
  | unpopped op operands top stored =>
    exact .of_kind .variableAccess (Frames.assign_error stored).2 (by rw [op]; decide) (by decide)
      (by decide)
  | unreadable op came =>
    obtain ⟨reason, rfl⟩ := Input.readLine_error came
    refine ⟨?_, by simp [Fault.kind], fun _ => ⟨reason, rfl⟩⟩
    rw [op]
    exact List.mem_cons_of_mem _ List.mem_cons_self
  | unreceived op operands came stored =>
    exact .of_kind .variableAccess (Frames.assign_error stored).2 (by rw [op]; decide) (by decide)
      (by decide)
  | unwritten op read refused =>
    exact .of_kind .output (Sink.write_error refused).2 (by rw [op]; decide) (by decide)
      (by decide)
  | uncompared op compared => exact uncompared_allowed formed op compared
  | unexited op asked => exact unexited_allowed formed op asked

/-- A step of a program fails by the limit, at no instruction, or at the instruction that it
executes with an error that the tables allow: one of the kinds listed for the operation, internal only
about the input, and about kinds only if the sources have values of kinds that are not taken. -/
theorem failed_step_allowed (program : Program) (limit : Option Nat)
    (m last : Machine) (error : RuntimeError)
    (failed : m.step program limit = (.failed error, last)) :
    (∃ bound, limit = some bound ∧ bound ≤ m.steps ∧ error = ⟨.stepLimit bound, none⟩) ∨
      ∃ ins, m.Executes program limit ins ∧ error.site = some ⟨ins.order, ins.op⟩ ∧
        error.kind ∈ ins.op.faultKinds ∧
        (error.kind = .internal → ∃ reason, error.fault = .input reason) ∧
        (error.kind = .operandType →
          ∃ values kinds, m.values ins.sources = .ok values ∧
            values.map Value.kind? = kinds.map some ∧ ins.op.takes kinds = false) := by
  have moves := step_moves program limit m
  rw [failed] at moves
  cases moves with
  | cut running given spent => exact Or.inl ⟨_, given, spent, rfl⟩
  | failed executes acts =>
    have allowed := acts.allowed (Program.formed executes.here)
    refine Or.inr ⟨_, executes, rfl, allowed.listed, allowed.internal, ?_⟩
    intro about
    obtain ⟨values, kinds, read, same, refused⟩ := allowed.mistyped about
    have uncounted : m.frames = m.counted.frames := rfl
    exact ⟨values, kinds, (values_congr uncounted _).trans read, same, refused⟩

/-- Adds a truth value, out of a variable, to a number. -/
def mixedSum : Program :=
  ⟨#[⟨1, .defVar, [.var ⟨.global, "x"⟩]⟩, ⟨2, .move, [.var ⟨.global, "x"⟩, .bool true]⟩,
    ⟨3, .add, [.var ⟨.global, "x"⟩, .int 1, .var ⟨.global, "x"⟩]⟩], by decide⟩

theorem failed_step_allowed_mixedSum :
    let m := (start (.bytes []) {}).after mixedSum none 2
    let error : RuntimeError := ⟨.wrongKind .add .int (.bool true), some ⟨3, .add⟩⟩
    m.step mixedSum none = (.failed error, { m with steps := 3 }) ∧
      ∃ ins, m.Executes mixedSum none ins ∧ error.site = some ⟨ins.order, ins.op⟩ ∧
        error.kind ∈ ins.op.faultKinds ∧
        ∃ values kinds, m.values ins.sources = .ok values ∧
          values.map Value.kind? = kinds.map some ∧ ins.op.takes kinds = false := by
  intro m error
  have failed : m.step mixedSum none = (.failed error, { m with steps := 3 }) := by decide
  refine ⟨failed, ?_⟩
  rcases failed_step_allowed mixedSum none m _ error failed with
    ⟨bound, given, -⟩ | ⟨ins, executes, site, listed, -, mistyped⟩
  · cases given
  · exact ⟨ins, executes, site, listed, mistyped rfl⟩

end Machine

end ThreeAddress
