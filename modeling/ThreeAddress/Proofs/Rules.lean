import ThreeAddress.Machine
import ThreeAddress.Proofs.Checks

set_option autoImplicit false

namespace ThreeAddress

namespace Opcode

/-- Whether the operation computes a value and stores it in its first operand. -/
def computes : Opcode → Bool
  | .move | .not | .int2char | .strlen | .typeOf | .add | .sub | .mul | .idiv | .lt | .gt | .eq | .and
  | .or | .stri2int | .concat | .getchar | .setchar => true
  | _ => false

/-- Whether the operation declares a variable or moves a frame. -/
def reframes : Opcode → Bool
  | .createFrame | .pushFrame | .popFrame | .defVar => true
  | _ => false

/-- Whether the operation goes to a label that depends on a comparison. -/
def branches : Opcode → Bool
  | .jumpIfEq | .jumpIfNeq => true
  | _ => false

end Opcode

/-- The operands whose values an instruction needs. `setchar` needs that of the variable it changes. -/
def Instruction.sources (ins : Instruction) : List Operand :=
  match ins.op with
  | .setchar | .pushs | .write | .exit => ins.operands
  | op => if op.computes || op.branches then ins.operands.tail else []

namespace Instruction

variable {ins : Instruction}

theorem sources_of_computes (op : ins.op.computes = true) (other : ins.op ≠ .setchar) :
    ins.sources = ins.operands.tail := by
  unfold sources
  split <;> simp_all [Opcode.computes]

theorem sources_of_branches (op : ins.op.branches = true) : ins.sources = ins.operands.tail := by
  unfold sources
  split <;> simp_all [Opcode.branches]

theorem WellFormed.unary (formed : ins.WellFormed) (op : ins.op.computes = true)
    (signature : ins.op.signature = [.var, .symb]) :
    ∃ v a, ins.operands = [.var v, a] ∧ ins.sources = [a] ∧ a.fits .symb = true := by
  obtain ⟨first, a, operands, fit, symbol⟩ := formed.two signature
  obtain ⟨v, rfl⟩ := Operand.fits_var fit
  have other : ins.op ≠ .setchar := by
    intro same
    simp [same, Opcode.signature] at signature
  exact ⟨v, a, operands, by rw [sources_of_computes op other, operands]; rfl, symbol⟩

theorem WellFormed.binary (formed : ins.WellFormed) (op : ins.op.computes = true)
    (signature : ins.op.signature = [.var, .symb, .symb]) (other : ins.op ≠ .setchar) :
    ∃ v a b, ins.operands = [.var v, a, b] ∧ ins.sources = [a, b] ∧ a.fits .symb = true ∧
      b.fits .symb = true := by
  obtain ⟨first, a, b, operands, fit, symbols⟩ := formed.three signature
  obtain ⟨v, rfl⟩ := Operand.fits_var fit
  exact ⟨v, a, b, operands, by rw [sources_of_computes op other, operands]; rfl, symbols⟩

theorem WellFormed.setchar (formed : ins.WellFormed) (op : ins.op = .setchar) :
    ∃ v a b, ins.operands = [.var v, a, b] ∧ ins.sources = [.var v, a, b] ∧
      a.fits .symb = true ∧ b.fits .symb = true := by
  obtain ⟨first, a, b, operands, fit, symbols⟩ :=
    formed.three (show ins.op.signature = [.var, .symb, .symb] by rw [op]; rfl)
  obtain ⟨v, rfl⟩ := Operand.fits_var fit
  exact ⟨v, a, b, operands, by simp only [sources, op, operands], symbols⟩

theorem WellFormed.symbol (formed : ins.WellFormed)
    (op : ins.op = .pushs ∨ ins.op = .write ∨ ins.op = .exit) :
    ∃ a, ins.operands = [a] ∧ ins.sources = [a] ∧ a.fits .symb = true := by
  have table : ins.op.signature = [.symb] ∧ ins.sources = ins.operands := by
    unfold sources
    rcases op with op | op | op <;> simp [op, Opcode.signature]
  obtain ⟨a, operands, symbol⟩ := formed.one table.1
  exact ⟨a, operands, table.2.trans operands, symbol⟩

theorem WellFormed.branch (formed : ins.WellFormed) (op : ins.op.branches = true) :
    ∃ label a b, ins.operands = [.label label, a, b] ∧ ins.sources = [a, b] ∧
      a.fits .symb = true ∧ b.fits .symb = true := by
  have signature : ins.op.signature = [.label, .symb, .symb] := by
    cases same : ins.op <;> simp_all [Opcode.branches, Opcode.signature]
  obtain ⟨first, a, b, operands, fit, symbols⟩ := formed.three signature
  obtain ⟨label, rfl⟩ := Operand.fits_label fit
  exact ⟨label, a, b, operands, by rw [sources_of_branches op, operands]; rfl, symbols⟩

end Instruction

/-- The result of an operation on the values of its sources. -/
def Operation.compute (op : Opcode) : List Value → Except Fault Value
  | [a] => unary op a
  | [a, b] => binary op a b
  | [a, b, c] => if op = .setchar then setchar a b c else .error (.badShape op)
  | _ => .error (.badShape op)

namespace Machine

variable {program : Program} {ins : Instruction} {m : Machine}

/-- The values of operands, or the fault of the first that has none. -/
def values (m : Machine) : List Operand → Except Fault (List Value)
  | [] => .ok []
  | a :: rest => do
    let x ← m.symbol a
    let xs ← m.values rest
    return x :: xs

/-- The name of the kind of an operand, as `type` looks at it. -/
def typeText (m : Machine) : Operand → Except Fault Value
  | .var v => (m.frames.lookup v).map fun value => .str (Utf8.ofString value.typeName)
  | a => (m.symbol a).map fun value => .str (Utf8.ofString value.typeName)

def result (ins : Instruction) (m : Machine) : Except Fault Value :=
  match ins.op, ins.sources with
  | .typeOf, [a] => m.typeText a
  | op, sources => (m.values sources).bind (Operation.compute op)

/-- How the comparison of a branch comes out. -/
def comparison (ins : Instruction) (m : Machine) : Except Fault Bool :=
  (m.values ins.sources).bind fun
    | [x, y] => Operation.equals ins.op x y
    | _ => .error (.badShape ins.op)

/-- The status that `exit` asks for. -/
def statusAsked (ins : Instruction) (m : Machine) : Except Fault Nat :=
  (m.values ins.sources).bind fun
    | [x] => Operation.exitCode x
    | _ => .error (.badShape ins.op)

/-- The frames after an instruction that declares a variable or moves a frame. -/
def reframed (ins : Instruction) (m : Machine) : Except Fault Frames :=
  match ins.op, ins.operands with
  | .createFrame, _ => .ok m.frames.createTemporary
  | .pushFrame, _ => m.frames.push
  | .popFrame, _ => m.frames.pop
  | .defVar, [.var v] => m.frames.declare v
  | op, _ => .error (.badShape op)

/-- All that an instruction can do: what comes of it, and the machine after it. -/
inductive Acts (program : Program) (ins : Instruction) (m : Machine) :
    Except Fault Outcome → Machine → Prop
  | passes (op : ins.op = .label ∨ ins.op = .dprint ∨ ins.op = .brk) :
      Acts program ins m (.ok .advance) m
  | uncomputed {fault : Fault} (op : ins.op.computes = true)
      (computed : m.result ins = .error fault) : Acts program ins m (.error fault) m
  | unstored {v : VarRef} {value : Value} {fault : Fault} (op : ins.op.computes = true)
      (first : ins.operands.head? = some (.var v)) (computed : m.result ins = .ok value)
      (stored : m.frames.assign v value = .error fault) : Acts program ins m (.error fault) m
  | stores {v : VarRef} {value : Value} {frames : Frames} (op : ins.op.computes = true)
      (first : ins.operands.head? = some (.var v)) (computed : m.result ins = .ok value)
      (stored : m.frames.assign v value = .ok frames) :
      Acts program ins m (.ok .advance) { m with frames }
  | unframed {fault : Fault} (op : ins.op.reframes = true)
      (changed : m.reframed ins = .error fault) : Acts program ins m (.error fault) m
  | reframes {frames : Frames} (op : ins.op.reframes = true)
      (changed : m.reframed ins = .ok frames) : Acts program ins m (.ok .advance) { m with frames }
  | calls {label : String} {index : Nat} (op : ins.op = .call)
      (first : ins.operands.head? = some (.label label))
      (found : program.labelPosition? label = some index) :
      Acts program ins m (.ok (.jump index)) { m with calls := m.position :: m.calls }
  | unreturned (op : ins.op = .ret) (empty : m.calls = []) :
      Acts program ins m (.error .callStackEmpty) m
  | returns {position : Nat} {calls : CallStack} (op : ins.op = .ret)
      (top : m.calls = position :: calls) :
      Acts program ins m (.ok (.jump (position + 1))) { m with calls }
  | unread {fault : Fault} (op : ins.op = .pushs ∨ ins.op = .write)
      (read : m.values ins.sources = .error fault) : Acts program ins m (.error fault) m
  | pushes {value : Value} (op : ins.op = .pushs) (read : m.values ins.sources = .ok [value]) :
      Acts program ins m (.ok .advance) { m with data := value :: m.data }
  | emptied (op : ins.op = .pops) (empty : m.data = []) :
      Acts program ins m (.error .dataStackEmpty) m
  | unpopped {v : VarRef} {value : Value} {data : DataStack} {fault : Fault} (op : ins.op = .pops)
      (operands : ins.operands = [.var v]) (top : m.data = value :: data)
      (stored : m.frames.assign v value = .error fault) :
      Acts program ins m (.error fault) { m with data }
  | pops {v : VarRef} {value : Value} {data : DataStack} {frames : Frames} (op : ins.op = .pops)
      (operands : ins.operands = [.var v]) (top : m.data = value :: data)
      (stored : m.frames.assign v value = .ok frames) :
      Acts program ins m (.ok .advance) { m with data, frames }
  | unreadable {fault : Fault} (op : ins.op = .read) (came : m.input.readLine.1 = .error fault) :
      Acts program ins m (.error fault) { m with input := m.input.readLine.2 }
  | unreceived {v : VarRef} {kind : Kind} {line : Option String} {fault : Fault}
      (op : ins.op = .read) (operands : ins.operands = [.var v, .kind kind])
      (came : m.input.readLine.1 = .ok line)
      (stored : m.frames.assign v (Operation.convertInput kind line) = .error fault) :
      Acts program ins m (.error fault) { m with input := m.input.readLine.2 }
  | receives {v : VarRef} {kind : Kind} {line : Option String} {frames : Frames}
      (op : ins.op = .read) (operands : ins.operands = [.var v, .kind kind])
      (came : m.input.readLine.1 = .ok line)
      (stored : m.frames.assign v (Operation.convertInput kind line) = .ok frames) :
      Acts program ins m (.ok .advance) { m with input := m.input.readLine.2, frames }
  | unwritten {value : Value} {fault : Fault} (op : ins.op = .write)
      (read : m.values ins.sources = .ok [value])
      (refused : (m.output.write value.render).1 = .error fault) :
      Acts program ins m (.error fault) { m with output := (m.output.write value.render).2 }
  | writes {value : Value} (op : ins.op = .write) (read : m.values ins.sources = .ok [value])
      (taken : (m.output.write value.render).1 = .ok ()) :
      Acts program ins m (.ok .advance) { m with output := (m.output.write value.render).2 }
  | jumps {label : String} {index : Nat} (op : ins.op = .jump)
      (first : ins.operands.head? = some (.label label))
      (found : program.labelPosition? label = some index) :
      Acts program ins m (.ok (.jump index)) m
  | uncompared {fault : Fault} (op : ins.op.branches = true)
      (compared : m.comparison ins = .error fault) : Acts program ins m (.error fault) m
  | branches {label : String} {index : Nat} (op : ins.op.branches = true)
      (first : ins.operands.head? = some (.label label))
      (compared : m.comparison ins = .ok (ins.op == .jumpIfEq))
      (found : program.labelPosition? label = some index) :
      Acts program ins m (.ok (.jump index)) m
  | stays (op : ins.op.branches = true)
      (compared : m.comparison ins = .ok (!(ins.op == .jumpIfEq))) :
      Acts program ins m (.ok .advance) m
  | unexited {fault : Fault} (op : ins.op = .exit) (asked : m.statusAsked ins = .error fault) :
      Acts program ins m (.error fault) m
  | exits {code : Nat} (op : ins.op = .exit) (asked : m.statusAsked ins = .ok code) :
      Acts program ins m (.ok (.exit code)) m

theorem values_one (m : Machine) (a : Operand) :
    m.values [a] = (m.symbol a).map fun x => [x] := by
  rw [values]
  cases m.symbol a <;> rfl

theorem values_two (m : Machine) (a b : Operand) :
    m.values [a, b] = (m.symbols a b).map fun (x, y) => [x, y] := by
  rw [values, values_one, symbols]
  cases m.symbol a with
  | error fault => rfl
  | ok x => cases m.symbol b <;> rfl

theorem values_three (m : Machine) (a b c : Operand) :
    m.values [a, b, c] =
      (m.symbol a).bind fun x => (m.symbols b c).map fun (y, z) => [x, y, z] := by
  rw [values, values_two]
  cases m.symbol a with
  | error fault => rfl
  | ok x => cases m.symbols b c <;> rfl

theorem result_of_ne_typeOf (other : ins.op ≠ .typeOf) :
    m.result ins = (m.values ins.sources).bind (Operation.compute ins.op) := by
  unfold result
  split
  · rename_i op sources
    exact absurd op other
  · rfl

theorem store_acts {v : VarRef} {result : Except Fault Value} (op : ins.op.computes = true)
    (first : ins.operands.head? = some (.var v)) (computed : m.result ins = result) :
    Acts program ins m (m.store v result).1 (m.store v result).2 := by
  cases result with
  | error fault => exact .uncomputed op computed
  | ok value =>
    cases stored : m.frames.assign v value with
    | error fault =>
      simp only [store, stored]
      exact .unstored op first computed stored
    | ok frames =>
      simp only [store, stored]
      exact .stores op first computed stored

theorem executeUnary_acts (formed : ins.WellFormed) (op : ins.op.computes = true)
    (signature : ins.op.signature = [.var, .symb]) (other : ins.op ≠ .typeOf) :
    Acts program ins m (executeUnary ins m).1 (executeUnary ins m).2 := by
  obtain ⟨v, a, operands, sources, -⟩ := formed.unary op signature
  have computed : m.result ins = (m.symbol a).bind (Operation.unary ins.op) := by
    rw [result_of_ne_typeOf other, sources, values_one]
    cases m.symbol a <;> rfl
  simp only [executeUnary, operands]
  exact store_acts op (by rw [operands]; rfl) computed

theorem executeBinary_acts (formed : ins.WellFormed) (op : ins.op.computes = true)
    (signature : ins.op.signature = [.var, .symb, .symb]) (other : ins.op ≠ .setchar) :
    Acts program ins m (executeBinary ins m).1 (executeBinary ins m).2 := by
  obtain ⟨v, a, b, operands, sources, -, -⟩ := formed.binary op signature other
  have computed : m.result ins =
      (m.symbols a b).bind fun (x, y) => Operation.binary ins.op x y := by
    rw [result_of_ne_typeOf (by intro same; simp [same, Opcode.signature] at signature), sources,
      values_two]
    cases m.symbols a b <;> rfl
  simp only [executeBinary, operands]
  exact store_acts op (by rw [operands]; rfl) computed

theorem executeSetchar_acts (formed : ins.WellFormed) (op : ins.op = .setchar) :
    Acts program ins m (executeSetchar ins m).1 (executeSetchar ins m).2 := by
  obtain ⟨v, a, b, operands, sources, -, -⟩ := formed.setchar op
  have computed : m.result ins = (m.symbol (.var v)).bind fun current =>
      (m.symbols a b).bind fun (index, replacement) =>
        Operation.setchar current index replacement := by
    rw [result_of_ne_typeOf (by rw [op]; decide), sources, values_three, op]
    cases m.symbol (.var v) with
    | error fault => rfl
    | ok current => cases m.symbols a b <;> rfl
  simp only [executeSetchar, operands]
  exact store_acts (by rw [op]; rfl) (by rw [operands]; rfl) computed

theorem executeType_acts (formed : ins.WellFormed) (op : ins.op = .typeOf) :
    Acts program ins m (executeType ins m).1 (executeType ins m).2 := by
  have computes : ins.op.computes = true := by rw [op]; rfl
  obtain ⟨v, a, operands, sources, -⟩ := formed.unary computes (by rw [op]; rfl)
  have computed : m.result ins = m.typeText a := by
    simp only [result, op, sources]
  have first : ins.operands.head? = some (.var v) := by rw [operands]; rfl
  cases a with
  | var a =>
    simp only [executeType, operands]
    exact store_acts computes first computed
  | _ =>
    simp only [executeType, operands]
    exact store_acts computes first computed

theorem withFrames_acts (op : ins.op.reframes = true) {changed : Except Fault Frames}
    (same : m.reframed ins = changed) :
    Acts program ins m (m.withFrames changed).1 (m.withFrames changed).2 := by
  cases changed with
  | error fault => exact .unframed op same
  | ok frames => exact .reframes op same

theorem executeDefvar_acts (formed : ins.WellFormed) (op : ins.op = .defVar) :
    Acts program ins m (executeDefvar ins m).1 (executeDefvar ins m).2 := by
  obtain ⟨first, operands, fit⟩ := formed.one (show ins.op.signature = [.var] by rw [op]; rfl)
  obtain ⟨v, rfl⟩ := Operand.fits_var fit
  simp only [executeDefvar, operands]
  exact withFrames_acts (by rw [op]; rfl) (by simp only [reframed, op, operands])

theorem executeCall_acts (formed : ins.WellFormed) (op : ins.op = .call)
    (target : ∀ label, ins.operands.head? = some (.label label) →
      ∃ index, program.labelPosition? label = some index) :
    Acts program ins m (executeCall program ins m).1 (executeCall program ins m).2 := by
  obtain ⟨first, operands, fit⟩ := formed.one (show ins.op.signature = [.label] by rw [op]; rfl)
  obtain ⟨label, rfl⟩ := Operand.fits_label fit
  have first : ins.operands.head? = some (.label label) := by rw [operands]; rfl
  obtain ⟨index, found⟩ := target label first
  simp only [executeCall, operands, Machine.target, found]
  exact .calls op first found

theorem executeReturn_acts (op : ins.op = .ret) :
    Acts program ins m (executeReturn m).1 (executeReturn m).2 := by
  cases top : m.calls with
  | nil =>
    simp only [executeReturn, top, CallStack.pop]
    exact .unreturned op top
  | cons position calls =>
    simp only [executeReturn, top, CallStack.pop]
    exact .returns op top

theorem executePushs_acts (formed : ins.WellFormed) (op : ins.op = .pushs) :
    Acts program ins m (executePushs ins m).1 (executePushs ins m).2 := by
  obtain ⟨a, operands, sources, -⟩ := formed.symbol (by simp [op])
  have read : m.values ins.sources = (m.symbol a).map fun x => [x] := by
    rw [sources, values_one]
  cases found : m.symbol a with
  | error fault =>
    simp only [executePushs, operands, found]
    exact .unread (Or.inl op) (by rw [read, found]; rfl)
  | ok value =>
    simp only [executePushs, operands, found]
    exact .pushes op (by rw [read, found]; rfl)

theorem executePops_acts (formed : ins.WellFormed) (op : ins.op = .pops) :
    Acts program ins m (executePops ins m).1 (executePops ins m).2 := by
  obtain ⟨first, operands, fit⟩ := formed.one (show ins.op.signature = [.var] by rw [op]; rfl)
  obtain ⟨v, rfl⟩ := Operand.fits_var fit
  cases top : m.data with
  | nil =>
    simp only [executePops, operands, top, DataStack.pop]
    exact .emptied op top
  | cons value data =>
    simp only [executePops, operands, top, DataStack.pop, store]
    cases stored : m.frames.assign v value with
    | error fault => exact .unpopped op operands top stored
    | ok frames => exact .pops op operands top stored

theorem executeRead_acts (formed : ins.WellFormed) (op : ins.op = .read) :
    Acts program ins m (executeRead ins m).1 (executeRead ins m).2 := by
  obtain ⟨first, second, operands, fitFirst, fitSecond⟩ :=
    formed.two (show ins.op.signature = [.var, .kind] by rw [op]; rfl)
  obtain ⟨v, rfl⟩ := Operand.fits_var fitFirst
  obtain ⟨kind, rfl⟩ := Operand.fits_kind fitSecond
  cases came : m.input.readLine.1 with
  | error fault =>
    simp only [executeRead, operands, came]
    exact .unreadable op came
  | ok line =>
    simp only [executeRead, operands, came, Except.map, store]
    cases stored : m.frames.assign v (Operation.convertInput kind line) with
    | error fault => exact .unreceived op operands came stored
    | ok frames => exact .receives op operands came stored

theorem executeWrite_acts (formed : ins.WellFormed) (op : ins.op = .write) :
    Acts program ins m (executeWrite ins m).1 (executeWrite ins m).2 := by
  obtain ⟨a, operands, sources, -⟩ := formed.symbol (by simp [op])
  have read : m.values ins.sources = (m.symbol a).map fun x => [x] := by
    rw [sources, values_one]
  cases found : m.symbol a with
  | error fault =>
    simp only [executeWrite, operands, found]
    exact .unread (Or.inr op) (by rw [read, found]; rfl)
  | ok value =>
    have read : m.values ins.sources = .ok [value] := by rw [read, found]; rfl
    simp only [executeWrite, operands, found]
    cases taken : (m.output.write value.render).1 with
    | error fault => exact .unwritten op read taken
    | ok => exact .writes op read taken

theorem executeJump_acts (formed : ins.WellFormed) (op : ins.op = .jump)
    (target : ∀ label, ins.operands.head? = some (.label label) →
      ∃ index, program.labelPosition? label = some index) :
    Acts program ins m (executeJump program ins m).1 (executeJump program ins m).2 := by
  obtain ⟨first, operands, fit⟩ := formed.one (show ins.op.signature = [.label] by rw [op]; rfl)
  obtain ⟨label, rfl⟩ := Operand.fits_label fit
  have first : ins.operands.head? = some (.label label) := by rw [operands]; rfl
  obtain ⟨index, found⟩ := target label first
  simp only [executeJump, operands, jump, Machine.target, found]
  exact .jumps op first found

theorem executeBranch_acts (formed : ins.WellFormed) (op : ins.op.branches = true)
    (target : ∀ label, ins.operands.head? = some (.label label) →
      ∃ index, program.labelPosition? label = some index) :
    Acts program ins m (executeBranch program ins m).1 (executeBranch program ins m).2 := by
  obtain ⟨label, a, b, operands, sources, -, -⟩ := formed.branch op
  have first : ins.operands.head? = some (.label label) := by rw [operands]; rfl
  obtain ⟨index, found⟩ := target label first
  have compared : m.comparison ins =
      (m.symbols a b).bind fun (x, y) => Operation.equals ins.op x y := by
    rw [comparison, sources, values_two]
    cases m.symbols a b <;> rfl
  cases outcome : (m.symbols a b).bind fun (x, y) => Operation.equals ins.op x y with
  | error fault =>
    simp only [executeBranch, operands, outcome]
    exact .uncompared op (by rw [compared, outcome])
  | ok equal =>
    by_cases taken : equal = (ins.op == .jumpIfEq)
    · simp only [executeBranch, operands, outcome, taken, ↓reduceIte, jump, Machine.target, found]
      exact .branches op first (by rw [compared, outcome, taken]) found
    · simp only [executeBranch, operands, outcome, taken, ↓reduceIte]
      exact .stays op (by rw [compared, outcome, Bool.eq_not.mpr taken])

theorem executeExit_acts (formed : ins.WellFormed) (op : ins.op = .exit) :
    Acts program ins m (executeExit ins m).1 (executeExit ins m).2 := by
  obtain ⟨a, operands, sources, -⟩ := formed.symbol (by simp [op])
  have asked : m.statusAsked ins = (m.symbol a).bind Operation.exitCode := by
    rw [statusAsked, sources, values_one]
    cases m.symbol a <;> rfl
  cases outcome : (m.symbol a).bind Operation.exitCode with
  | error fault =>
    simp only [executeExit, operands, outcome]
    exact .unexited op (by rw [asked, outcome])
  | ok code =>
    simp only [executeExit, operands, outcome]
    exact .exits op (by rw [asked, outcome])

/-- The signature leaves `dprint` an operand to show, so that it does not fail. -/
theorem executeDprint_passes (formed : ins.WellFormed) (op : ins.op = .dprint) :
    executeDprint ins m = (.ok .advance, m) := by
  obtain ⟨a, operands, -⟩ := formed.one (show ins.op.signature = [.symb] by rw [op]; rfl)
  simp only [executeDprint, operands]

/-- An instruction of a program acts by the rules. -/
theorem execute_acts {index : Nat} (found : program.get? index = some ins) (m : Machine) :
    Acts program ins m (execute program ins m).1 (execute program ins m).2 := by
  have formed := Program.formed found
  -- A label that is gone to is always found, which leaves jumps and calls no way to fail.
  have target : ins.op.targetsLabel = true → ∀ label,
      ins.operands.head? = some (.label label) →
      ∃ index, program.labelPosition? label = some index :=
    fun targets label first => Program.target_found found targets first
  cases op : ins.op with
  | move | not | int2char | strlen =>
    simp only [execute, op]
    exact executeUnary_acts formed (by rw [op]; rfl) (by rw [op]; rfl) (by rw [op]; decide)
  | add | sub | mul | idiv | lt | gt | eq | and | or | stri2int | concat | getchar =>
    simp only [execute, op]
    exact executeBinary_acts formed (by rw [op]; rfl) (by rw [op]; rfl) (by rw [op]; decide)
  | setchar => simpa only [execute, op] using executeSetchar_acts formed op
  | typeOf => simpa only [execute, op] using executeType_acts formed op
  | createFrame =>
    simp only [execute, op]
    exact .reframes (by rw [op]; rfl) (by simp only [reframed, op])
  | pushFrame | popFrame =>
    simp only [execute, op]
    exact withFrames_acts (by rw [op]; rfl) (by simp only [reframed, op])
  | defVar => simpa only [execute, op] using executeDefvar_acts formed op
  | call =>
    simpa only [execute, op] using executeCall_acts formed op (target (by rw [op]; rfl))
  | ret => simpa only [execute, op] using executeReturn_acts op
  | pushs => simpa only [execute, op] using executePushs_acts formed op
  | pops => simpa only [execute, op] using executePops_acts formed op
  | read => simpa only [execute, op] using executeRead_acts formed op
  | write => simpa only [execute, op] using executeWrite_acts formed op
  | jump =>
    simpa only [execute, op] using executeJump_acts formed op (target (by rw [op]; rfl))
  | jumpIfEq | jumpIfNeq =>
    simp only [execute, op]
    exact executeBranch_acts formed (by rw [op]; rfl) (target (by rw [op]; rfl))
  | exit => simpa only [execute, op] using executeExit_acts formed op
  | dprint =>
    simp only [execute, op, executeDprint_passes formed op]
    exact .passes (by simp [op])
  | label | brk =>
    simp only [execute, op]
    exact .passes (by simp [op])

end Machine

end ThreeAddress
