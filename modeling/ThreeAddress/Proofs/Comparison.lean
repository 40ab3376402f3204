import Mathlib
import ThreeAddress.Proofs.Faults

set_option autoImplicit false

namespace ThreeAddress

namespace Operation

/-- The order of a dictionary: a string comes before its continuations, and otherwise the first byte
that differs decides. -/
def Precedes (x y : Bytes) : Prop :=
  (∃ b rest, y = x ++ b :: rest) ∨
    ∃ common b c restX restY, b < c ∧ x = common ++ b :: restX ∧ y = common ++ c :: restY

/-- What it is for a value to come before another. -/
inductive Before : Value → Value → Prop
  | int {x y : Int64} (less : x.toInt < y.toInt) : Before (.int x) (.int y)
  | bool : Before (.bool false) (.bool true)
  | str {x y : Bytes} (less : Precedes x y) : Before (.str x) (.str y)

/-- Two values that have an order between them. -/
structure Comparable (a b : Value) : Prop where
  left : a ≠ .nil
  right : b ≠ .nil
  same : a.kind? = b.kind?

theorem precedes_nil (y : Bytes) : Precedes [] y ↔ y ≠ [] := by
  constructor
  · rintro (⟨b, rest, rfl⟩ | ⟨common, b, c, restX, restY, -, empty, -⟩)
    · exact List.cons_ne_nil b rest
    · simp at empty
  · intro filled
    obtain ⟨b, rest, rfl⟩ := List.exists_cons_of_ne_nil filled
    exact .inl ⟨b, rest, rfl⟩

theorem not_precedes_nil (x : Bytes) : ¬ Precedes x [] := by
  rintro (⟨b, rest, empty⟩ | ⟨common, b, c, restX, restY, -, -, empty⟩) <;> simp at empty

theorem precedes_cons {b c : UInt8} {x y : Bytes} :
    Precedes (b :: x) (c :: y) ↔ b < c ∨ b = c ∧ Precedes x y := by
  constructor
  · rintro (⟨d, rest, split⟩ | ⟨common, d, e, restX, restY, less, splitX, splitY⟩)
    · obtain ⟨rfl, rfl⟩ := List.cons.inj split
      exact .inr ⟨rfl, .inl ⟨d, rest, rfl⟩⟩
    · cases common with
      | nil =>
        obtain ⟨rfl, rfl⟩ := List.cons.inj splitX
        obtain ⟨rfl, rfl⟩ := List.cons.inj splitY
        exact .inl less
      | cons first common =>
        obtain ⟨rfl, rfl⟩ := List.cons.inj splitX
        obtain ⟨rfl, rfl⟩ := List.cons.inj splitY
        exact .inr ⟨rfl, .inr ⟨common, d, e, restX, restY, less, rfl, rfl⟩⟩
  · rintro (less | ⟨rfl, ⟨d, rest, rfl⟩ | ⟨common, d, e, restX, restY, less, rfl, rfl⟩⟩)
    · exact .inr ⟨[], b, c, x, y, less, rfl, rfl⟩
    · exact .inl ⟨d, rest, rfl⟩
    · exact .inr ⟨b :: common, d, e, restX, restY, less, rfl, rfl⟩

theorem compare_eq_lt_iff (x y : Bytes) : compare x y = .lt ↔ Precedes x y := by
  induction x generalizing y with
  | nil =>
    cases y with
    | nil => simp [precedes_nil, Std.ReflOrd.compare_self]
    | cons c y => exact iff_of_true List.compareLex_nil_cons ((precedes_nil _).mpr nofun)
  | cons b x ih =>
    cases y with
    | nil =>
      have longer : compare (b :: x) [] = .gt := List.compareLex_cons_nil
      simp [longer, not_precedes_nil]
    | cons c y =>
      have bytes : compare (b :: x) (c :: y) = (compare b c).then (compare x y) :=
        List.compareLex_cons_cons
      rw [bytes, Ordering.then_eq_lt, ih, precedes_cons, Std.compare_eq_lt,
        Std.LawfulEqOrd.compare_eq_iff_eq]

theorem order?_eq_lt_iff {a b : Value} : order? a b = some .lt ↔ Before a b := by
  constructor
  · intro less
    cases a <;> cases b <;> simp only [order?, Option.some.injEq, reduceCtorEq] at less
    case int.int => exact .int (Int64.lt_iff_toInt_lt.mp (Std.compare_eq_lt.mp less))
    case bool.bool x y =>
      cases x <;> cases y <;> first | exact .bool | cases less
    case str.str => exact .str ((compare_eq_lt_iff _ _).mp less)
  · intro before
    cases before with
    | int less => exact congrArg some (Std.compare_eq_lt.mpr (Int64.lt_iff_toInt_lt.mpr less))
    | bool => rfl
    | str less => exact congrArg some ((compare_eq_lt_iff _ _).mpr less)

/-- Comparing the other way round gives the opposite outcome. -/
theorem order?_swap (a b : Value) : order? b a = (order? a b).map Ordering.swap := by
  cases a <;> cases b <;> first | rfl | exact congrArg some Std.OrientedOrd.eq_swap

theorem order?_eq_gt_iff {a b : Value} : order? a b = some .gt ↔ Before b a := by
  rw [← order?_eq_lt_iff, order?_swap a b]
  cases order? a b with
  | none => simp
  | some ordering => cases ordering <;> simp

theorem eq_of_order?_eq {a b : Value} (equal : order? a b = some .eq) : a = b := by
  cases a <;> cases b <;> simp only [order?, Option.some.injEq, reduceCtorEq] at equal <;>
    exact congrArg _ (Std.LawfulEqOrd.compare_eq_iff_eq.mp equal)

theorem Before.irrefl (a : Value) : ¬ Before a a := by
  intro before
  cases before with
  | int less => exact Int.lt_irrefl _ less
  | str less => exact absurd ((compare_eq_lt_iff _ _).mpr less) (by simp [Std.ReflOrd.compare_self])

theorem Before.trans {a b c : Value} (first : Before a b) (second : Before b c) : Before a c := by
  cases first with
  | int less =>
    cases second with
    | int more => exact .int (Int.lt_trans less more)
  | bool => cases second
  | str less =>
    cases second with
    | str more =>
      refine .str ((compare_eq_lt_iff _ _).mp ?_)
      exact Std.TransCmp.lt_trans ((compare_eq_lt_iff _ _).mpr less)
        ((compare_eq_lt_iff _ _).mpr more)

theorem order?_eq_none_iff {a b : Value} (setA : a ≠ .unset) :
    order? a b = none ↔ ¬ Comparable a b := by
  constructor
  · rintro none ⟨left, right, same⟩
    cases a <;> cases b <;> first | contradiction | cases same
  · intro apart
    cases a <;> cases b <;> first | rfl | exact absurd ⟨nofun, nofun, rfl⟩ apart

/-- Of two different values that have an order between them, one comes first. -/
theorem Comparable.trichotomy {a b : Value} (comparable : Comparable a b) (set : a ≠ .unset) :
    Before a b ∨ Before b a ∨ a = b := by
  cases compared : order? a b with
  | none => exact absurd comparable ((order?_eq_none_iff set).mp compared)
  | some ordering =>
    cases ordering with
    | lt => exact .inl (order?_eq_lt_iff.mp compared)
    | gt => exact .inr (.inl (order?_eq_gt_iff.mp compared))
    | eq => exact .inr (.inr (eq_of_order?_eq compared))

/-- The operation computes true. -/
def Confirms (op : Opcode) (a b : Value) : Prop :=
  binary op a b = .ok (.bool true)

/-- Whether two values are equal does not depend on which instruction asks, nor does whether they can
be compared. -/
theorem equals_cases (a b : Value) :
    (∃ equal, ∀ op, equals op a b = .ok equal) ∨
      ∀ op, equals op a b = .error (.incomparable op a b) := by
  cases a <;> cases b <;> first | exact .inl ⟨_, fun _ => rfl⟩ | exact .inr fun _ => rfl

theorem equals_eq_ok_iff {a b : Value} (setA : a ≠ .unset) (setB : b ≠ .unset) (op : Opcode)
    (equal : Bool) :
    equals op a b = .ok equal ↔
      equal = decide (a = b) ∧ (a.kind? = b.kind? ∨ a = .nil ∨ b = .nil) := by
  cases a <;> cases b <;> simp_all [equals, Value.kind?, Bool.beq_eq_decide_eq, eq_comm]

theorem fails_equals_iff {a b : Value} (setA : a ≠ .unset) (setB : b ≠ .unset) (op : Opcode) :
    Fails .operandType (equals op a b) ↔ a ≠ .nil ∧ b ≠ .nil ∧ a.kind? ≠ b.kind? := by
  have answered := equals_eq_ok_iff setA setB op (decide (a = b))
  rcases equals_cases a b with ⟨equal, same⟩ | refused
  · have fit := (equals_eq_ok_iff setA setB op equal).mp (same op)
    simp only [Fails, same, reduceCtorEq, false_and, exists_false, false_iff]
    tauto
  · simp only [refused, reduceCtorEq, true_and, false_iff] at answered
    refine ⟨fun _ => by tauto, fun _ => ⟨_, refused op, rfl⟩⟩

theorem not_comparable_iff {a b : Value} :
    ¬ Comparable a b ↔ a = .nil ∨ b = .nil ∨ a.kind? ≠ b.kind? := by
  constructor
  · intro apart
    by_contra fit
    simp only [not_or, not_not] at fit
    exact apart ⟨fit.1, fit.2.1, fit.2.2⟩
  · rintro (nil | nil | different) comparable
    · exact comparable.left nil
    · exact comparable.right nil
    · exact different comparable.same

theorem binary_of_order {a b : Value} {op : Opcode} (order : op ∈ [.lt, .gt]) {ordering : Ordering}
    (compared : order? a b = some ordering) :
    binary op a b = .ok (.bool (ordering == if op = .lt then .lt else .gt)) := by
  simp only [List.mem_cons, List.not_mem_nil, or_false] at order
  rcases order with rfl | rfl <;> simp only [binary, relational, compared]

theorem binary_of_unordered {a b : Value} {op : Opcode} (order : op ∈ [.lt, .gt])
    (compared : order? a b = none) : binary op a b = .error (.unordered op a b) := by
  simp only [List.mem_cons, List.not_mem_nil, or_false] at order
  rcases order with rfl | rfl <;> simp only [binary, relational, compared]

theorem confirms_order_iff {a b : Value} {op : Opcode} (order : op ∈ [.lt, .gt]) :
    Confirms op a b ↔ order? a b = some (if op = .lt then .lt else .gt) := by
  cases compared : order? a b with
  | none => simp [Confirms, binary_of_unordered order compared]
  | some ordering => simp [Confirms, binary_of_order order compared]

theorem confirms_lt_iff {a b : Value} : Confirms .lt a b ↔ Before a b :=
  (confirms_order_iff (by simp)).trans order?_eq_lt_iff

theorem Confirms.lt_trans {a b c : Value} (first : Confirms .lt a b) (second : Confirms .lt b c) :
    Confirms .lt a c :=
  confirms_lt_iff.mpr ((confirms_lt_iff.mp first).trans (confirms_lt_iff.mp second))

theorem confirms_gt_iff {a b : Value} : Confirms .gt a b ↔ Before b a :=
  (confirms_order_iff (by simp)).trans order?_eq_gt_iff

theorem confirms_eq_iff {a b : Value} (setA : a ≠ .unset) (setB : b ≠ .unset) :
    Confirms .eq a b ↔ a = b := by
  have answered := equals_eq_ok_iff setA setB .eq true
  constructor
  · intro confirms
    cases compared : equals .eq a b with
    | error fault => simp [Confirms, binary, compared, Except.map] at confirms
    | ok equal =>
      simp only [Confirms, binary, compared, Except.map, Except.ok.injEq, Value.bool.injEq] at confirms
      subst confirms
      exact of_decide_eq_true (answered.mp compared).1.symm
  · rintro rfl
    rw [Confirms, binary, answered.mpr ⟨by simp, .inl rfl⟩]
    rfl

/-- Two values can be ordered exactly if the order is defined between them, in either direction. -/
theorem fails_order_iff {a b : Value} (setA : a ≠ .unset) {op : Opcode} (order : op ∈ [.lt, .gt]) :
    Fails .operandType (binary op a b) ↔ ¬ Comparable a b := by
  rw [← order?_eq_none_iff setA]
  cases compared : order? a b with
  | none => exact iff_of_true ⟨_, binary_of_unordered order compared, rfl⟩ rfl
  | some ordering =>
    rw [binary_of_order order compared]
    exact iff_of_false (not_fails_ok _) nofun

/-- Where there is an order, `gt` is `lt` with the operands exchanged. -/
theorem Comparable.gt_eq_lt {a b : Value} (comparable : Comparable a b) (setA : a ≠ .unset) :
    ∃ less, binary .lt b a = .ok (.bool less) ∧ binary .gt a b = .ok (.bool less) := by
  cases compared : order? a b with
  | none => exact absurd comparable ((order?_eq_none_iff setA).mp compared)
  | some ordering =>
    have turned : order? b a = some ordering.swap := by rw [order?_swap a b, compared]; rfl
    refine ⟨ordering == .gt, ?_, binary_of_order (by simp) compared⟩
    rw [binary_of_order (by simp) turned]
    cases ordering <;> rfl

/-- Where there is an order, one of the three comparisons is true and no other. -/
theorem Comparable.one_confirms {a b : Value} (comparable : Comparable a b) (setA : a ≠ .unset)
    (setB : b ≠ .unset) : ∃! op, op ∈ [Opcode.lt, .gt, .eq] ∧ Confirms op a b := by
  have only : ∀ {op : Opcode}, op ∈ [Opcode.lt, .gt, .eq] → Confirms op a b →
      op = .lt ∧ Before a b ∨ op = .gt ∧ Before b a ∨ op = .eq ∧ a = b := by
    intro op listed confirms
    simp only [List.mem_cons, List.not_mem_nil, or_false] at listed
    rcases listed with rfl | rfl | rfl
    · exact .inl ⟨rfl, confirms_lt_iff.mp confirms⟩
    · exact .inr (.inl ⟨rfl, confirms_gt_iff.mp confirms⟩)
    · exact .inr (.inr ⟨rfl, (confirms_eq_iff setA setB).mp confirms⟩)
  rcases comparable.trichotomy setA with less | more | rfl
  · refine ⟨.lt, ⟨by simp, confirms_lt_iff.mpr less⟩, ?_⟩
    rintro op ⟨listed, confirms⟩
    rcases only listed confirms with ⟨same, -⟩ | ⟨-, more⟩ | ⟨-, rfl⟩
    · exact same
    · exact absurd (less.trans more) (Before.irrefl a)
    · exact absurd less (Before.irrefl a)
  · refine ⟨.gt, ⟨by simp, confirms_gt_iff.mpr more⟩, ?_⟩
    rintro op ⟨listed, confirms⟩
    rcases only listed confirms with ⟨-, less⟩ | ⟨same, -⟩ | ⟨-, rfl⟩
    · exact absurd (less.trans more) (Before.irrefl a)
    · exact same
    · exact absurd more (Before.irrefl a)
  · refine ⟨.eq, ⟨by simp, (confirms_eq_iff setA setB).mpr rfl⟩, ?_⟩
    rintro op ⟨listed, confirms⟩
    rcases only listed confirms with ⟨-, less⟩ | ⟨-, less⟩ | ⟨same, -⟩
    · exact absurd less (Before.irrefl a)
    · exact absurd less (Before.irrefl a)
    · exact same

/-- The values of one kind, where that kind is not nil, are in a strict total order. -/
theorem lt_isStrictTotalOrder {kind : Kind} (ordered : kind ≠ .nil) :
    IsStrictTotalOrder {a : Value // a.kind? = some kind} fun a b => Confirms .lt a b where
  irrefl a confirms := Before.irrefl _ (confirms_lt_iff.mp confirms)
  trans _ _ _ first second := first.lt_trans second
  trichotomous := by
    rintro ⟨a, kindA⟩ ⟨b, kindB⟩ notLess notMore
    have filled : ∀ {value : Value}, value.kind? = some kind → value ≠ .nil ∧ value ≠ .unset := by
      intro value known
      refine ⟨?_, ?_⟩
      · rintro rfl
        exact ordered (Option.some.inj known).symm
      · rintro rfl
        cases known
    have comparable : Comparable a b :=
      ⟨(filled kindA).1, (filled kindB).1, kindA.trans kindB.symm⟩
    rcases comparable.trichotomy (filled kindA).2 with less | more | rfl
    · exact absurd (confirms_lt_iff.mpr less) notLess
    · exact absurd (confirms_lt_iff.mpr more) notMore
    · rfl

end Operation

namespace Machine

variable {program : Program} {limit : Option Nat} {m : Machine}

/-- The step goes to where the label is defined, and changes nothing else. -/
def JumpsTo (program : Program) (limit : Option Nat) (label : String) (m : Machine) : Prop :=
  ∃ target, program.labelPosition? label = some target ∧
    m.step program limit = (.done (.jump target), { m.counted with position := target })

/-- The step goes on to the next instruction, and changes nothing else. -/
def PassesOn (program : Program) (limit : Option Nat) (m : Machine) : Prop :=
  m.step program limit = (.done .advance, { m.counted with position := m.position + 1 })

/-- The step fails by an error of the kind, and changes nothing. -/
def FailsBy (program : Program) (limit : Option Nat) (kind : ErrorKind) (m : Machine) : Prop :=
  ∃ error, m.step program limit = (.failed error, m.counted) ∧ error.kind = kind

theorem PassesOn.not_jumpsTo {label : String} (passes : m.PassesOn program limit) :
    ¬ m.JumpsTo program limit label := by
  rintro ⟨target, -, stepped⟩
  rw [PassesOn, stepped] at passes
  simp at passes

theorem FailsBy.not_jumpsTo {kind : ErrorKind} {label : String}
    (fails : m.FailsBy program limit kind) : ¬ m.JumpsTo program limit label := by
  rintro ⟨target, -, stepped⟩
  obtain ⟨error, failed, -⟩ := fails
  rw [stepped] at failed
  simp at failed

theorem symbols_congr {other : Machine} (same : m.frames = other.frames) (a b : Operand) :
    m.symbols a b = other.symbols a b := by
  rw [symbols, symbols, symbol_congr same, symbol_congr same]

/-- The comparison that a branch makes, with the machine's values of its operands. -/
def compared (op : Opcode) (a b : Operand) (m : Machine) : Except Fault Bool :=
  (m.symbols a b).bind fun (x, y) => Operation.equals op x y

theorem counted_compared (op : Opcode) (a b : Operand) (m : Machine) :
    m.counted.compared op a b = m.compared op a b := rfl

section Branch

variable {op : Opcode} {order : UInt64} {label : String} {a b : Operand}
  (branches : op.branches = true)

include branches

theorem execute_compared {answer : Bool} (answered : m.compared op a b = .ok answer) :
    execute program ⟨order, op, [.label label, a, b]⟩ m =
      if answer = (op == .jumpIfEq) then jump program m label else (.ok .advance, m) := by
  rw [compared] at answered
  cases op <;> cases branches <;> simp only [execute, executeBranch, answered]

theorem execute_uncompared {fault : Fault} (failed : m.compared op a b = .error fault) :
    execute program ⟨order, op, [.label label, a, b]⟩ m = m.fail fault := by
  rw [compared] at failed
  cases op <;> cases branches <;> simp only [execute, executeBranch, failed]

variable (executes : m.Executes program limit ⟨order, op, [.label label, a, b]⟩)

include executes

theorem Executes.branch_fails {fault : Fault} (failed : m.compared op a b = .error fault) :
    m.FailsBy program limit fault.kind := by
  rw [← counted_compared] at failed
  exact ⟨_, executes.step_error (execute_uncompared branches failed), rfl⟩

theorem Executes.branch_jumps
    (answered : m.compared op a b = .ok (op == .jumpIfEq)) : m.JumpsTo program limit label := by
  have targets : op.targetsLabel = true := by cases op <;> first | rfl | cases branches
  obtain ⟨target, found⟩ := Program.target_found executes.here targets rfl
  rw [← counted_compared] at answered
  refine ⟨target, found, executes.step_ok ?_⟩
  rw [execute_compared branches answered]
  simp only [↓reduceIte, jump, Machine.target, found]

theorem Executes.branch_passes (answered : m.compared op a b = .ok (!(op == .jumpIfEq))) :
    m.PassesOn program limit := by
  rw [← counted_compared] at answered
  have stepped : execute program ⟨order, op, [.label label, a, b]⟩ m.counted =
      (.ok .advance, m.counted) := by
    rw [execute_compared branches answered, if_neg (by simp)]
  exact executes.step_ok stepped

end Branch

theorem result_eq (m : Machine) (order : UInt64) (v : VarRef) (a b : Operand) :
    m.result ⟨order, .eq, [.var v, a, b]⟩ = (m.compared .eq a b).map .bool := by
  rw [result_of_ne_typeOf (by simp)]
  show (m.values [a, b]).bind (Operation.compute .eq) = _
  rw [values_two, compared]
  cases m.symbols a b <;> rfl

/-- What the comparison comes to does not depend on which instruction asks, but for the name in its
error. -/
theorem compared_cases (m : Machine) (a b : Operand) :
    (∃ equal, ∀ op, m.compared op a b = .ok equal) ∨
      ∃ kind, ∀ op, ∃ fault, m.compared op a b = .error fault ∧ fault.kind = kind := by
  cases read : m.symbols a b with
  | error fault => exact .inr ⟨fault.kind, fun op => ⟨fault, by rw [compared, read]; rfl, rfl⟩⟩
  | ok values =>
    have unfolded : ∀ op, m.compared op a b = Operation.equals op values.1 values.2 := by
      intro op
      rw [compared, read]
      rfl
    rcases Operation.equals_cases values.1 values.2 with ⟨equal, same⟩ | refused
    · exact .inl ⟨equal, fun op => (unfolded op).trans (same op)⟩
    · exact .inr ⟨.operandType, fun op => ⟨_, (unfolded op).trans (refused op), rfl⟩⟩

section Opposites

variable {other : Program} {bound : Option Nat} {n : Machine} {i j : UInt64} {label : String}
  {a b : Operand}
  (equal : m.Executes program limit ⟨i, .jumpIfEq, [.label label, a, b]⟩)
  (unequal : n.Executes other bound ⟨j, .jumpIfNeq, [.label label, a, b]⟩)
  (same : n.frames = m.frames)

include equal unequal same

/-- With the same operands in the same frames, both branches fail by one kind of error, or one of them
jumps and the other does not. -/
theorem branches_opposite :
    (∃ kind, m.FailsBy program limit kind ∧ n.FailsBy other bound kind) ∨
      m.JumpsTo program limit label ∧ n.PassesOn other bound ∨
      m.PassesOn program limit ∧ n.JumpsTo other bound label := by
  have moved : n.compared .jumpIfNeq a b = m.compared .jumpIfNeq a b := by
    rw [compared, compared, symbols_congr same]
  rcases m.compared_cases a b with ⟨answer, answered⟩ | ⟨kind, failed⟩
  · cases answer with
    | true =>
      refine .inr (.inl ⟨equal.branch_jumps rfl (answered _), ?_⟩)
      exact unequal.branch_passes rfl (moved.trans (answered _))
    | false =>
      refine .inr (.inr ⟨equal.branch_passes rfl (answered _), ?_⟩)
      exact unequal.branch_jumps rfl (moved.trans (answered _))
  · obtain ⟨fault, first, rfl⟩ := failed .jumpIfEq
    obtain ⟨twin, second, kind⟩ := failed .jumpIfNeq
    refine .inl ⟨fault.kind, equal.branch_fails rfl first, ?_⟩
    rw [← kind]
    exact unequal.branch_fails rfl (moved.trans second)

end Opposites

/-- `jumpifeq` jumps exactly if `eq` would compute true. -/
theorem Executes.jumpsTo_iff {i : UInt64} {label : String} {a b : Operand}
    (executes : m.Executes program limit ⟨i, .jumpIfEq, [.label label, a, b]⟩) (order : UInt64)
    (v : VarRef) :
    m.JumpsTo program limit label ↔
      m.result ⟨order, .eq, [.var v, a, b]⟩ = .ok (.bool true) := by
  rw [result_eq]
  rcases m.compared_cases a b with ⟨answer, answered⟩ | ⟨kind, failed⟩
  · rw [answered]
    cases answer with
    | true => exact iff_of_true (executes.branch_jumps rfl (answered _)) rfl
    | false =>
      refine iff_of_false (executes.branch_passes rfl (answered _)).not_jumpsTo ?_
      simp [Except.map]
  · obtain ⟨fault, first, -⟩ := failed .jumpIfEq
    obtain ⟨twin, second, -⟩ := failed .eq
    refine iff_of_false (executes.branch_fails rfl first).not_jumpsTo ?_
    simp [second, Except.map]

end Machine

open Operation in
/-- Equality is defined between values of one kind and with nil, the order between values of one kind
other than nil; `lt`, `gt` and `eq` exclude each other there, `lt` is a strict total order, and the two
branches are opposites in every state. -/
theorem comparison_laws :
    (∀ a b : Value, a ≠ .unset → b ≠ .unset →
      (∀ op, (equals op a b = .ok true ↔ a = b) ∧
        (equals op a b = .ok false ↔ a ≠ b ∧ (a.kind? = b.kind? ∨ a = .nil ∨ b = .nil)) ∧
        (Fails .operandType (equals op a b) ↔ a ≠ .nil ∧ b ≠ .nil ∧ a.kind? ≠ b.kind?)) ∧
      (∀ op ∈ [.lt, .gt],
        (Fails .operandType (binary op a b) ↔ a = .nil ∨ b = .nil ∨ a.kind? ≠ b.kind?)) ∧
      (¬ (a = .nil ∨ b = .nil ∨ a.kind? ≠ b.kind?) →
        (∃ less, binary .lt b a = .ok (.bool less) ∧ binary .gt a b = .ok (.bool less)) ∧
        ∃! op, op ∈ [Opcode.lt, .gt, .eq] ∧ Confirms op a b)) ∧
    (∀ a b : Value, Confirms .lt a b ↔ Before a b) ∧
    (∀ a b c : Value, Confirms .lt a b → Confirms .lt b c → Confirms .lt a c) ∧
    (∀ kind : Kind, kind ≠ .nil →
      IsStrictTotalOrder {a : Value // a.kind? = some kind} fun a b => Confirms .lt a b) ∧
    ∀ (p q : Program) (limit bound : Option Nat) (m n : Machine) (i j : UInt64) (label : String)
      (a b : Operand), m.Executes p limit ⟨i, .jumpIfEq, [.label label, a, b]⟩ →
      n.Executes q bound ⟨j, .jumpIfNeq, [.label label, a, b]⟩ → n.frames = m.frames →
      ((∃ kind, m.FailsBy p limit kind ∧ n.FailsBy q bound kind) ∨
        m.JumpsTo p limit label ∧ n.PassesOn q bound ∨
        m.PassesOn p limit ∧ n.JumpsTo q bound label) ∧
      ∀ order v, m.JumpsTo p limit label ↔
        m.result ⟨order, .eq, [.var v, a, b]⟩ = .ok (.bool true) := by
  refine ⟨?_, fun _ _ => confirms_lt_iff, fun _ _ _ => Confirms.lt_trans,
    fun _ => lt_isStrictTotalOrder, ?_⟩
  · intro a b setA setB
    refine ⟨fun op => ⟨?_, ?_, fails_equals_iff setA setB op⟩, ?_, ?_⟩
    · rw [equals_eq_ok_iff setA setB]
      constructor
      · rintro ⟨equal, -⟩
        exact of_decide_eq_true equal.symm
      · rintro rfl
        exact ⟨by simp, .inl rfl⟩
    · rw [equals_eq_ok_iff setA setB, eq_comm, decide_eq_false_iff_not]
    · intro op order
      rw [fails_order_iff setA order, not_comparable_iff]
    · intro fit
      have comparable : Comparable a b := not_not.mp (not_comparable_iff.not.mpr fit)
      exact ⟨comparable.gt_eq_lt setA, comparable.one_confirms setA setB⟩
  · intro p q limit bound m n i j label a b equal unequal same
    exact ⟨Machine.branches_opposite equal unequal same,
      equal.jumpsTo_iff⟩

/-- Branches twice on whether nil is a number. -/
def nilBranches : Program :=
  ⟨#[⟨1, .label, [.label "again"]⟩, ⟨2, .jumpIfEq, [.label "again", .nil, .int 1]⟩,
    ⟨3, .jumpIfNeq, [.label "again", .nil, .int 1]⟩], by decide⟩

open Operation in
theorem comparison_laws_nilBranches :
    let m := (Machine.start (.bytes []) {}).after nilBranches none 1
    let n := (Machine.start (.bytes []) {}).after nilBranches none 2
    (m.Executes nilBranches none ⟨2, .jumpIfEq, [.label "again", .nil, .int 1]⟩ ∧
      n.Executes nilBranches none ⟨3, .jumpIfNeq, [.label "again", .nil, .int 1]⟩ ∧
      n.frames = m.frames ∧ m.PassesOn nilBranches none ∧ n.JumpsTo nilBranches none "again") ∧
    Confirms .lt (.str [97]) (.str [98]) ∧ Fails .operandType (binary .gt .nil (.int 1)) ∧
    (∃! op, op ∈ [Opcode.lt, .gt, .eq] ∧ Confirms op (.str [97]) (.str [97, 98])) ∧
    IsStrictTotalOrder {a : Value // a.kind? = some .string} fun a b => Confirms .lt a b := by
  intro m n
  have equal : m.Executes nilBranches none ⟨2, .jumpIfEq, [.label "again", .nil, .int 1]⟩ :=
    ⟨by decide, rfl, rfl⟩
  have unequal : n.Executes nilBranches none ⟨3, .jumpIfNeq, [.label "again", .nil, .int 1]⟩ :=
    ⟨by decide, rfl, rfl⟩
  have passed : (m.step nilBranches none).1 = .done .advance := rfl
  obtain ⟨values, -, chained, total, branches⟩ := comparison_laws
  refine ⟨⟨equal, unequal, rfl, ?_⟩, ?_, ?_, ?_, total .string (by decide)⟩
  · rcases (branches _ _ _ _ m n _ _ _ _ _ equal unequal rfl).1 with
      ⟨kind, ⟨error, failed, -⟩, -⟩ | ⟨⟨target, -, jumped⟩, -⟩ | opposite
    · rw [failed] at passed
      cases passed
    · rw [jumped] at passed
      cases passed
    · exact opposite
  · -- "a" comes before "ab", and "ab" before "b"
    exact chained _ (.str [97, 98]) _ rfl rfl
  · exact ((values .nil (.int 1) (by decide) (by decide)).2.1 .gt (by simp)).mpr (.inl rfl)
  · exact ((values (.str [97]) (.str [97, 98]) (by decide) (by decide)).2.2 (by decide)).2

end ThreeAddress
