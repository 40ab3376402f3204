import Mathlib
import ThreeAddress.Proofs.Handoff
import ThreeAddress.Proofs.Limit
import ThreeAddress.Proofs.Listing
import ThreeAddress.Proofs.Outcome

set_option autoImplicit false

namespace ThreeAddress.Session

open Machine (Ends Halts Leaves IsFailure outputOf)

variable {around : Surroundings} {file : String} {input : Option String} {maxSteps : Option Nat}
  {program : Program} {limit : Option Nat} {start last : Machine} {count : Nat}

/-- A run begins: the settings leave it a limit, the program is loaded, and its input is opened. -/
structure Begins (around : Surroundings) (file : String) (input : Option String)
    (maxSteps : Option Nat) (program : Program) (limit : Option Nat) (start : Machine) : Prop where
  settings : ∃ found, findSettings around.settings = .ok found ∧
    limit = ((found.map Prod.snd).getD {}).limit maxSteps
  loaded : loadProgram file (around.look file) = .ok program
  opened : ∃ lines, openInput around input = .ok lines ∧ start = Machine.start lines {}

/-- The nearest regular file of those where settings may be cannot be opened or read, or what it holds
are no settings. -/
def Misconfigured (places : List (String × Lookup)) : Prop :=
  ∃ passed path opened rest, places = passed ++ (path, Lookup.file opened) :: rest ∧
    (∀ entry ∈ passed, ∀ other, entry.2 ≠ Lookup.file other) ∧
    ∀ text, (Lookup.file opened).text = .ok text → Settings.parse? text = none

/-- What keeps a run from beginning. The settings go before everything else. -/
inductive Refused (around : Surroundings) (file : String) (input : Option String) :
    SessionError → Prop
  | settings {error : SessionError} (unread : findSettings around.settings = .error error) :
      Refused around file input error
  | program {error : SessionError} {found : Option (String × Settings)}
      (configured : findSettings around.settings = .ok found)
      (unloaded : loadProgram file (around.look file) = .error error) :
      Refused around file input error
  | input {error : SessionError} {found : Option (String × Settings)}
      (configured : findSettings around.settings = .ok found)
      (unopened : openInput around input = .error error) :
      Refused around file input error

theorem Refused.not_begins {error : SessionError} (refused : Refused around file input error) :
    ¬ Begins around file input maxSteps program limit start := by
  intro begins
  cases refused with
  | settings unread =>
    obtain ⟨found, read, -⟩ := begins.settings
    cases read.symm.trans unread
  | program configured unloaded => cases begins.loaded.symm.trans unloaded
  | input configured unopened =>
    obtain ⟨lines, opened, -⟩ := begins.opened
    cases opened.symm.trans unopened

theorem Begins.unique (begins : Begins around file input maxSteps program limit start)
    {otherProgram : Program} {otherLimit : Option Nat} {otherStart : Machine}
    (other : Begins around file input maxSteps otherProgram otherLimit otherStart) :
    otherProgram = program ∧ otherLimit = limit ∧ otherStart = start := by
  obtain ⟨⟨found, read, rfl⟩, loaded, ⟨lines, opened, rfl⟩⟩ := begins
  obtain ⟨⟨otherFound, otherRead, rfl⟩, otherLoaded, ⟨otherLines, otherOpened, rfl⟩⟩ := other
  cases otherRead.symm.trans read
  cases otherLoaded.symm.trans loaded
  cases otherOpened.symm.trans opened
  exact ⟨rfl, rfl, rfl⟩

/-- A run begins with nothing written, into an output without a bound, and not at its end. -/
theorem Begins.fresh (begins : Begins around file input maxSteps program limit start) :
    start.exited = none ∧ start.output = {} := by
  obtain ⟨lines, -, rfl⟩ := begins.opened
  exact ⟨rfl, rfl⟩

theorem readSettings_error {path : String} {found : Lookup} {error : SessionError}
    (unread : readSettings path found = .error error) :
    error.exitCode = 13 ∧ ∀ text, found.text = .ok text → Settings.parse? text = none := by
  unfold readSettings at unread
  split at unread
  · rename_i reason closed
    cases unread
    refine ⟨rfl, ?_⟩
    intro text read
    cases closed.symm.trans read
  · rename_i content read
    split at unread
    · rename_i invalid
      cases unread
      refine ⟨rfl, ?_⟩
      intro text again
      cases read.symm.trans again
      exact invalid
    · cases unread

theorem findSettings_error {places : List (String × Lookup)} {error : SessionError}
    (unread : findSettings places = .error error) :
    error.exitCode = 13 ∧ Misconfigured places := by
  fun_induction findSettings places with
  | case1 => cases unread
  | case2 path opened rest =>
    cases found : readSettings path (.file opened) with
    | ok settings =>
      rw [found] at unread
      cases unread
    | error reason =>
      rw [found] at unread
      cases unread
      obtain ⟨code, closed⟩ := readSettings_error found
      exact ⟨code, [], path, opened, rest, rfl, nofun, closed⟩
  | case3 first rest other ih =>
    obtain ⟨code, passed, path, opened, behind, rfl, none, closed⟩ := ih unread
    refine ⟨code, first :: passed, path, opened, behind, rfl, ?_, closed⟩
    rw [List.forall_mem_cons]
    refine ⟨?_, none⟩
    intro found same
    exact other first.1 found (Prod.ext rfl same)

theorem findSettings_skip {passed : List (String × Lookup)}
    (none : ∀ entry ∈ passed, ∀ other, entry.2 ≠ Lookup.file other) (rest : List (String × Lookup)) :
    findSettings (passed ++ rest) = findSettings rest := by
  induction passed with
  | nil => rfl
  | cons entry passed ih =>
    rw [List.forall_mem_cons] at none
    rw [List.cons_append, ← ih none.2]
    obtain ⟨path, found⟩ := entry
    cases found with
    | file opened => exact absurd rfl (none.1 opened)
    | _ => rfl

theorem Misconfigured.findSettings {places : List (String × Lookup)}
    (misconfigured : Misconfigured places) (found : Option (String × Settings)) :
    Session.findSettings places ≠ .ok found := by
  obtain ⟨passed, path, opened, rest, rfl, none, closed⟩ := misconfigured
  rw [findSettings_skip none, Session.findSettings, readSettings]
  cases read : (Lookup.file opened).text with
  | error reason => nofun
  | ok text =>
    simp only [closed text read]
    nofun

theorem loadProgram_error {found : Lookup} {error : SessionError}
    (unloaded : loadProgram file found = .error error) :
    (∃ reason, found.text = .error reason ∧ error = .unopened file reason) ∨
      ∃ text cause, found.text = .ok text ∧ Program.parse text = .error cause ∧
        error = .build cause := by
  unfold loadProgram at unloaded
  split at unloaded
  · rename_i reason unread
    cases unloaded
    exact Or.inl ⟨reason, unread, rfl⟩
  · rename_i text read
    split at unloaded
    · rename_i cause unbuilt
      cases unloaded
      exact Or.inr ⟨text, cause, read, unbuilt, rfl⟩
    · cases unloaded

theorem openInput_error {error : SessionError} (unopened : openInput around input = .error error) :
    ∃ path reason, input = some path ∧ (around.look path).input = .error reason ∧
      error = .unopened path reason := by
  cases input with
  | none => cases unopened
  | some path =>
    rw [openInput] at unopened
    split at unopened
    · rename_i reason refused
      cases unopened
      exact ⟨path, reason, rfl, refused, rfl⟩
    · cases unopened

/-- The status of a session by what its run comes to. -/
def statusOf : Except SessionError ExitStatus → Nat
  | .ok status => status.code
  | .error error => error.exitCode

/-- A report tells what a run came to. -/
structure Reports (report : Report) (ran : Except SessionError ExitStatus × Machine) : Prop where
  code : report.code = statusOf ran.1
  stdout : report.stdout = ran.2.output.written
  machine : report.machine = some ran.2

/-- A report tells of an error before a run. -/
structure Refuses (report : Report) (error : SessionError) : Prop where
  code : report.code = error.exitCode
  stdout : report.stdout = []
  machine : report.machine = none

theorem run_reports {lines : Input} (loaded : loadProgram file (around.look file) = .ok program)
    (opened : openInput around input = .ok lines) (directive : String) (limit : Option Nat) :
    Reports (run around directive file input limit)
      (runProgram program limit (Machine.start lines {})) := by
  have start : ({ input := lines } : Machine) = Machine.start lines {} := rfl
  simp only [run, loaded, opened, start]
  rcases runProgram program limit (Machine.start lines {}) with ⟨error | status, last⟩
  · exact ⟨rfl, rfl, rfl⟩
  · exact ⟨rfl, rfl, rfl⟩

/-- A session that is asked for a run fails before it begins one, or reports what the run comes to. -/
theorem perform_cases {args : List String} {verbose : Bool}
    (asked : Command.parse? args = some (.command (.run file input maxSteps verbose))) :
    (∃ error, Refused around file input error ∧ Refuses (perform around args) error) ∨
      ∃ program limit start, Begins around file input maxSteps program limit start ∧
        Reports (perform around args) (runProgram program limit start) := by
  simp only [perform, asked, execute]
  cases read : findSettings around.settings with
  | error error => exact Or.inl ⟨error, .settings read, rfl, rfl, rfl⟩
  | ok found =>
    cases loaded : loadProgram file (around.look file) with
    | error error =>
      refine Or.inl ⟨error, .program read loaded, ?_⟩
      simp only [run, loaded]
      exact ⟨rfl, rfl, rfl⟩
    | ok program =>
      cases opened : openInput around input with
      | error error =>
        refine Or.inl ⟨error, .input read opened, ?_⟩
        simp only [run, loaded, opened]
        exact ⟨rfl, rfl, rfl⟩
      | ok lines =>
        have begins : Begins around file input maxSteps program _ (Machine.start lines {}) :=
          ⟨⟨found, read, rfl⟩, loaded, lines, opened, rfl⟩
        exact Or.inr ⟨program, _, _, begins, run_reports loaded opened _ _⟩

/-- Three causes keep a run from beginning, and each has statuses of its own. -/
theorem Refused.causes {error : SessionError} (refused : Refused around file input error) :
    error.exitCode = 13 ∧ Misconfigured around.settings ∨
      error.exitCode = 11 ∧
        ((∃ reason, (around.look file).text = .error reason) ∨
          ∃ path reason, input = some path ∧ (around.look path).input = .error reason) ∨
      error.exitCode ∈ [32, 33, 34, 52] ∧ ∃ text cause, (around.look file).text = .ok text ∧
        Program.parse text = .error cause ∧ error.exitCode = cause.kind.exitCode := by
  cases refused with
  | settings unread => exact Or.inl (findSettings_error unread)
  | program configured unloaded =>
    rcases loadProgram_error unloaded with ⟨reason, unread, rfl⟩ | ⟨text, cause, read, unbuilt, rfl⟩
    · exact Or.inr (Or.inl ⟨rfl, Or.inl ⟨reason, unread⟩⟩)
    · refine Or.inr (Or.inr ⟨?_, text, cause, read, unbuilt, rfl⟩)
      cases cause <;> simp [SessionError.exitCode, BuildError.kind, ErrorKind.exitCode]
  | input configured unopened =>
    obtain ⟨path, reason, given, refused, rfl⟩ := openInput_error unopened
    exact Or.inr (Or.inl ⟨rfl, Or.inr ⟨path, reason, given, refused⟩⟩)

theorem runProgram_of_ends {result : Machine.RunResult}
    (willing : start.output.flushRefusal = none) (ends : Ends program limit start count result last) :
    runProgram program limit start = (result.mapError .runtime, last) := by
  have passed : last.output.flushRefusal = none :=
    Machine.Reachable.flushRefusal ⟨count, ends.after_eq⟩ willing
  rw [runProgram, ends.runOn_eq]
  cases result <;> simp only [settle, passed] <;> rfl

/-- What the status of a session tells that was asked for a run. -/
structure TellsPhase (around : Surroundings) (file : String) (input : Option String)
    (maxSteps : Option Nat) (report : Report) : Prop where
  /-- With these statuses no run begins. -/
  unbegun : report.code ∈ [13, 11, 32, 33, 34, 52] ↔
    ∀ program limit start, ¬ Begins around file input maxSteps program limit start
  /-- No machine was there to execute an instruction or to take input, and nothing was written. -/
  silent : report.code ∈ [13, 11, 32, 33, 34, 52] → report.machine = none ∧ report.stdout = []
  unconfigured : report.code = 13 ↔ Misconfigured around.settings
  unopened : report.code = 11 →
    (∃ reason, (around.look file).text = .error reason) ∨
      ∃ path reason, input = some path ∧ (around.look path).input = .error reason
  unbuilt : report.code ∈ [32, 33, 34, 52] → ∃ text error, (around.look file).text = .ok text ∧
    Program.parse text = .error error ∧ report.code = error.kind.exitCode
  /-- A status up to 9 is what a run leaves with that comes to its end. -/
  ended : ∀ n, n ≤ 9 ∧ report.code = n ↔ ∃ program limit start count status last,
    Begins around file input maxSteps program limit start ∧
      Ends program limit start count (.ok status) last ∧ Leaves program limit start count n
  /-- The others are those of the error that a run fails of. -/
  failed : IsFailure report.code → ∃ program limit start count error last,
    Begins around file input maxSteps program limit start ∧
      Ends program limit start count (.error error) last ∧ report.code = error.kind.exitCode ∧
      report.machine = some last ∧ report.stdout = outputOf program limit start count
  exhaustive : report.code ≤ 9 ∨ report.code ∈ [13, 11, 32, 33, 34, 52] ∨ IsFailure report.code

theorem Refused.tellsPhase {error : SessionError} {report : Report}
    (refused : Refused around file input error) (refuses : Refuses report error) :
    TellsPhase around file input maxSteps report := by
  have causes := refused.causes
  rw [← refuses.code] at causes
  have early : report.code ∈ [13, 11, 32, 33, 34, 52] := by
    rcases causes with ⟨code, -⟩ | ⟨code, -⟩ | ⟨code, -⟩
    · simp [code]
    · simp [code]
    · exact List.mem_cons_of_mem _ (List.mem_cons_of_mem _ code)
  have apart : ¬ report.code ≤ 9 ∧ ¬ IsFailure report.code := by
    simp only [List.mem_cons, List.not_mem_nil, or_false] at early
    unfold IsFailure
    omega
  constructor
  case unbegun =>
    refine ⟨?_, fun _ => early⟩
    intro _ program limit start
    exact refused.not_begins
  case silent =>
    intro _
    exact ⟨refuses.machine, refuses.stdout⟩
  case unconfigured =>
    constructor
    · intro code
      rcases causes with ⟨-, cause⟩ | ⟨other, -⟩ | ⟨other, -⟩
      · exact cause
      · omega
      · simp [code] at other
    · intro misconfigured
      cases refused with
      | settings unread => exact refuses.code.trans (findSettings_error unread).1
      | program configured => exact absurd configured (misconfigured.findSettings _)
      | input configured => exact absurd configured (misconfigured.findSettings _)
  case unopened =>
    intro code
    rcases causes with ⟨other, -⟩ | ⟨-, cause⟩ | ⟨other, -⟩
    · omega
    · exact cause
    · simp [code] at other
  case unbuilt =>
    intro code
    rcases causes with ⟨other, -⟩ | ⟨other, -⟩ | ⟨-, cause⟩
    · simp [other] at code
    · simp [other] at code
    · exact cause
  case ended =>
    intro n
    constructor
    · rintro ⟨le, rfl⟩
      exact absurd le apart.1
    · rintro ⟨program, limit, start, count, status, last, begins, -⟩
      exact absurd begins refused.not_begins
  case failed =>
    intro failure
    exact absurd failure apart.2
  case exhaustive => exact Or.inr (Or.inl early)

/-- A run that ends comes to its end, or fails. -/
theorem Begins.code_cases {report : Report}
    (begins : Begins around file input maxSteps program limit start)
    (halts : Halts program limit start)
    (reports : Reports report (runProgram program limit start)) :
    (∃ count status last, Ends program limit start count (.ok status) last ∧
        report.code = status.code ∧ report.code ≤ 9) ∨
      ∃ count error last, Ends program limit start count (.error error) last ∧
        report.code = error.kind.exitCode ∧ IsFailure report.code ∧ report.machine = some last ∧
        report.stdout = outputOf program limit start count := by
  obtain ⟨unexited, output⟩ := begins.fresh
  have willing : start.output.flushRefusal = none := by rw [output]
  have memory : start.output.room = none := by rw [output]
  obtain ⟨count, result, last, ends⟩ := (Machine.halts_iff).mp halts
  rw [runProgram_of_ends willing ends] at reports
  have code := reports.code
  cases result with
  | ok status =>
    have le := ends.code_le unexited
    exact Or.inl ⟨count, status, last, ends, code, code ▸ le⟩
  | error error =>
    have failure := ends.isFailure memory
    have written : (start.after program limit count).output.written = start.output.written ++ _ :=
      Machine.output_after memory count
    rw [ends.after_eq, output] at written
    exact Or.inr ⟨count, error, last, ends, code, code ▸ failure, reports.machine,
      reports.stdout.trans written⟩

theorem Begins.tellsPhase {report : Report}
    (begins : Begins around file input maxSteps program limit start)
    (halts : Halts program limit start)
    (reports : Reports report (runProgram program limit start)) :
    TellsPhase around file input maxSteps report := by
  have comes := begins.code_cases halts reports
  have late : report.code ≤ 9 ∨ IsFailure report.code := by
    rcases comes with ⟨count, status, last, -, -, le⟩ | ⟨count, error, last, -, -, failure, -⟩
    · exact Or.inl le
    · exact Or.inr failure
  have apart : report.code ∉ [13, 11, 32, 33, 34, 52] ∧
      ¬ (report.code ≤ 9 ∧ IsFailure report.code) := by
    unfold IsFailure at late ⊢
    simp only [List.mem_cons, List.not_mem_nil, or_false]
    omega
  constructor
  case unbegun =>
    refine ⟨fun early => absurd early apart.1, ?_⟩
    intro never
    exact absurd begins (never program limit start)
  case silent => exact fun early => absurd early apart.1
  case unconfigured =>
    obtain ⟨found, configured, -⟩ := begins.settings
    refine ⟨fun code => by simp [code] at apart, ?_⟩
    intro misconfigured
    exact absurd configured (misconfigured.findSettings found)
  case unopened =>
    intro code
    simp [code] at apart
  case unbuilt =>
    intro code
    exact absurd (List.mem_cons_of_mem _ (List.mem_cons_of_mem _ code)) apart.1
  case ended =>
    intro n
    constructor
    · rintro ⟨le, rfl⟩
      rcases comes with ⟨count, status, last, ends, code, -⟩ | ⟨count, error, last, -, -, failure, -⟩
      · refine ⟨program, limit, start, count, status, last, begins, ends, ?_⟩
        exact (ends.leaves_iff begins.fresh.1).mpr code.symm
      · exact absurd ⟨le, failure⟩ apart.2
    · rintro ⟨_, _, _, count, status, last, again, ends, leaves⟩
      -- Only one run can have begun, and it ends in one way only.
      obtain ⟨rfl, rfl, rfl⟩ := begins.unique again
      have same := (ends.leaves_iff again.fresh.1).mp leaves
      rcases comes with ⟨_, _, _, other, code, le⟩ | ⟨_, _, _, other, -⟩
      · cases (ends.unique other).1
        exact ⟨by omega, code.trans same⟩
      · cases (ends.unique other).1
  case failed =>
    intro failure
    rcases comes with ⟨count, status, last, -, -, le⟩ | ⟨count, error, last, ends, code, -, rest⟩
    · exact absurd ⟨le, failure⟩ apart.2
    · exact ⟨program, limit, start, count, error, last, begins, ends, code, rest⟩
  case exhaustive => exact late.imp_right Or.inr

/-- The status of a session tells its phase: what kept a run from beginning, with nothing executed,
written or read; what a run left with that came to its end; or the error that a run failed of, with the
output of all that it wrote before. No other status occurs. A session whose run never ends has none. -/
theorem status_tells_phase (around : Surroundings) (args : List String) (file : String)
    (input : Option String) (maxSteps : Option Nat) (verbose : Bool)
    (asked : Command.parse? args = some (.command (.run file input maxSteps verbose)))
    (halts : ∀ program limit start,
      Begins around file input maxSteps program limit start → Halts program limit start) :
    TellsPhase around file input maxSteps (perform around args) := by
  rcases perform_cases asked with ⟨error, refused, refuses⟩ | ⟨program, limit, start, begins, reports⟩
  · exact refused.tellsPhase refuses
  · exact begins.tellsPhase (halts program limit start begins) reports

/-- Writes a letter, and leaves with 3. -/
def letterAndExit : List Record :=
  [⟨1, "write", [⟨1, "string", "a", []⟩]⟩, ⟨2, "exit", [⟨1, "int", "3", []⟩]⟩]

/-- Surroundings with a program in a file, and with nothing else. -/
def holding (file : String) (records : List Record) : Surroundings where
  look path :=
    if path = file then .file (.ok (.bytes (Utf8.ofString (Record.listToJson records).render)))
    else .missing

theorem loadProgram_holding {records : List Record} (built : Program.ofRecords records = .ok program) :
    loadProgram file ((holding file records).look file) = .ok program := by
  have parsed := (Record.listWritten_listToJson records).parse_text
    (Json.parse?_render (Record.valid_listToJson records))
  simp only [loadProgram, holding, ↓reduceIte, Lookup.text, Lookup.input, Utf8.toString?,
    Utf8.ofString, Utf8.decode?_encode, Option.map_some, String.ofList_toList, parsed.2, built]

/-- The run leaves with 3, fails where one step is allowed, and does not begin where a settings file is
there that cannot be opened. -/
theorem status_tells_phase_letterAndExit :
    let around := holding "p" letterAndExit
    let whole := ["run", "p"]
    let cut := ["run", "--max-steps", "1", "p"]
    let closed := { around with settings := [("s", .file (.error "Permission denied"))] }
    Command.parse? whole = some (.command (.run "p" none none false)) ∧
      Command.parse? cut = some (.command (.run "p" none (some 1) false)) ∧
      (∀ given ∈ [none, some 1], ∀ program limit start,
        Begins around "p" none given program limit start → Halts program limit start) ∧
      (perform around whole).code = 3 ∧
      (perform around cut).code = 99 ∧ (perform around cut).stdout = [97] ∧
      (perform closed whole).code = 13 ∧ (perform closed whole).stdout = [] := by
  intro around whole cut closed
  let program : Program := ⟨#[⟨1, .write, [.str [97]]⟩, ⟨2, .exit, [.int 3]⟩], by decide⟩
  let start := Machine.start (.bytes []) {}
  have asked : Command.parse? whole = some (.command (.run "p" none none false)) := by cbv
  have askedCut : Command.parse? cut = some (.command (.run "p" none (some 1) false)) := by cbv
  have loaded : loadProgram "p" (around.look "p") = .ok program :=
    loadProgram_holding (Program.ofRecords_eq_ok (by cbv) (by cbv))
  have begins : ∀ given, Begins around "p" none given program given start := by
    intro given
    exact ⟨⟨none, rfl, by cases given <;> rfl⟩, loaded, .bytes [], rfl, rfl⟩
  have ends : Ends program none start 2 (.ok (.exited 3)) (start.after program none 2) :=
    .goes rfl (.goes rfl (.ended rfl))
  have endsCut : Ends program (some 1) start 1 (.error ⟨.stepLimit 1, none⟩)
      (start.after program (some 1) 1) :=
    .goes rfl (.cut rfl rfl)
  have halts : ∀ given ∈ [none, some 1], ∀ program limit start,
      Begins around "p" none given program limit start → Halts program limit start := by
    intro given member _ _ _ again
    obtain ⟨rfl, rfl, rfl⟩ := (begins given).unique again
    rw [Machine.halts_iff]
    simp only [List.mem_cons, List.not_mem_nil, or_false] at member
    rcases member with rfl | rfl
    · exact ⟨_, _, _, ends⟩
    · exact ⟨_, _, _, endsCut⟩
  have tells := status_tells_phase around whole "p" none none false asked (halts none (by decide))
  have tellsCut :=
    status_tells_phase around cut "p" none (some 1) false askedCut (halts (some 1) (by decide))
  have leaves : Leaves program none start 2 3 := (ends.leaves_iff rfl).mpr rfl
  have code := ((tells.ended 3).mpr ⟨_, _, _, _, _, _, begins none, ends, leaves⟩).2
  have failure : IsFailure (perform around cut).code := by
    rcases tellsCut.exhaustive with le | early | failure
    · obtain ⟨_, _, _, _, _, _, again, ended, -⟩ := (tellsCut.ended _).mp ⟨le, rfl⟩
      obtain ⟨rfl, rfl, rfl⟩ := (begins (some 1)).unique again
      cases (endsCut.unique ended).1
    · exact absurd (begins (some 1)) (tellsCut.unbegun.mp early _ _ _)
    · exact failure
  obtain ⟨_, _, _, count, error, last, again, other, codeCut, -, stdout⟩ := tellsCut.failed failure
  obtain ⟨rfl, rfl, rfl⟩ := (begins (some 1)).unique again
  cases (endsCut.unique other).1
  cases endsCut.count_unique other
  have misconfigured : Misconfigured closed.settings := by
    refine ⟨[], "s", _, [], rfl, ?_, ?_⟩
    · intro entry member
      cases member
    · intro text read
      cases read
  have tellsClosed := status_tells_phase closed whole "p" none none false asked (by
    intro program limit start begins
    obtain ⟨found, configured, -⟩ := begins.settings
    exact absurd configured (misconfigured.findSettings found))
  have codeClosed := tellsClosed.unconfigured.mpr misconfigured
  have silent := (tellsClosed.silent (by rw [codeClosed]; decide)).2
  exact ⟨asked, askedCut, halts, code, codeCut, stdout, codeClosed, silent⟩

end ThreeAddress.Session
