import TapeMachine.Command.Execution
import TapeMachine.Proofs.KeptOutput
import TapeMachine.Proofs.StrategyIndependence

/-! # What the command does with a script

A command line gives a script in parts or in a file. If the script is refused, so is the command
line, and nothing is read or written. Otherwise `run` is one session on the usual tape, under the
step limit and the strategy of the settings: as long as it ends within the time limit, its output is
standard output and its result decides the exit code. So neither depends on the way in which the
script came, nor on the strategy, and a text for the input leaves standard input alone.
-/

namespace TapeMachine

def ExitCode.ofResult {n : Nat} : Except ExecError (Halted n) → ExitCode
  | .ok _ => .ok
  | .error error => (RunError.exec error).exitCode

/-- The control of a session that has the step limit of the settings and nothing else. -/
def Settings.control {World : Type} (settings : Settings) : Control World :=
  ⟨settings.maxSteps.map UInt64.toNat, fun _ _ => false⟩

namespace Command

/-! ## Jobs -/

namespace Job

variable {World In : Type} {job : Job} {patience : Nat}

theorem exitCode_verdict (job : Job) (result : Except ExecError (Halted defaultCells)) :
    (job.verdict result).1 = .ofResult result := by
  rcases result with error | halted
  · cases error <;> rfl
  · rfl

/-- A log shows the events of a session and changes nothing in it. -/
theorem map_snd_session? (job : Job) (device : Device World) (patience : Nat) (world : World) :
    (job.session? device patience world).map Prod.snd =
      job.program.run? device (job.control patience) defaultCells (patience + 1) world := by
  unfold session?
  dsimp only
  split
  · rw [Option.map_map]
    exact Program.map_snd_runRecorded?
  · rw [Option.map_map]
    exact congrFun Option.map_id _

theorem runOn_of_run? {source : Source In} {input : In}
    {report : Report defaultCells (In × Array UInt8)}
    (ran : job.program.run? (.ofEnds source .bytes) (job.control patience) defaultCells
      (patience + 1) (input, #[]) = some report) :
    (job.runOn source patience input).1.exitCode = .ofResult report.result ∧
      (job.runOn source patience input).1.output = report.world.2 ∧
        (job.runOn source patience input).2 = report.world.1 := by
  rw [← map_snd_session?, Option.map_eq_some_iff] at ran
  obtain ⟨⟨events, told⟩, found, same⟩ := ran
  cases same
  unfold runOn
  rw [found]
  exact ⟨job.exitCode_verdict told.result, rfl, rfl⟩

/-- The cancel flag goes up after the last dispatch that the time limit allows, so every job ends. -/
theorem exists_run? (job : Job) (device : Device World) (patience : Nat) (world : World) :
    ∃ report, job.program.run? device (job.control patience) defaultCells (patience + 1) world =
      some report := by
  apply Option.ne_none_iff_exists'.mp
  intro running
  obtain ⟨next, after, ran⟩ := Program.run?_eq_none_iff.mp running
  obtain ⟨middle, between, reached⟩ := Program.exists_running_of_le ran (Nat.le_succ patience)
  have free := (Program.free_of_running ran reached (Nat.lt_succ_self patience)).2
  have down := (Control.stop?_eq_none_iff.mp free).1
  simp [control, Program.steps_of_running reached] at down

/-- A session that ends within the time limit does not see the limit. -/
theorem run?_of_session {device : Device World} {world : World}
    {report : Report defaultCells World}
    (ran : job.program.run? device job.settings.control defaultCells patience world = some report) :
    job.program.run? device (job.control patience) defaultCells (patience + 1) world =
      some report := by
  -- The flag is down as long as there are dispatches left, and the session needs no more of them.
  have same (steps : Nat) (world : World) (early : steps < patience) :
      (job.control patience).stop? steps world = job.settings.control.stop? steps world := by
    simp [Control.stop?, control, Settings.control, Nat.not_le.mpr early]
  have within : (Session.start defaultCells).steps + patience ≤ patience :=
    Nat.le_of_eq (Nat.zero_add patience)
  rw [Program.run?_eq, ← Program.advance_congr same patience world within] at ran
  exact Program.run?_of_le ran (Nat.le_succ patience)

end Job

/-! ## Command lines -/

/-- A script comes in the parts of the arguments, split in any way, or as the text of a file. -/
inductive Gives (surroundings : Surroundings) (given : Arguments) (script : Script) : Prop
  | parts (noFile : given.file = none) (someParts : given.parts ≠ [])
      (joined : given.parts.flatten = script.toList)
  | file {path : String} (noParts : given.parts = []) (named : given.file = some path)
      (readable : surroundings.readFile path = .ok script.text.toUTF8)

/-- The bytes of a text read as that text. -/
theorem fileText_of_readFile {surroundings : Surroundings} {path text : String}
    (readable : surroundings.readFile path = .ok text.toUTF8) :
    surroundings.fileText path = .ok text := by
  have valid : String.fromUTF8? text.toUTF8 = some text := dif_pos text.isValidUTF8
  unfold Surroundings.fileText
  rw [readable]
  change textOfBytes text.toUTF8 = .ok text
  unfold textOfBytes
  rw [valid]

theorem Gives.script_eq {surroundings : Surroundings} {given : Arguments} {script : Script}
    (gives : Gives surroundings given script) :
    Command.script surroundings given = .ok script := by
  unfold Command.script
  cases gives with
  | parts noFile someParts joined =>
    rw [noFile]
    rcases parts : given.parts with _ | ⟨first, more⟩
    · exact absurd parts someParts
    · rw [parts] at joined
      simp [joined]
  | file noParts named readable =>
    rw [named, noParts]
    simp [fileText_of_readFile readable, Script.ofString, Script.text]

/-- A command line that is understood, and gives a script. -/
structure CommandLine (subcommand : Subcommand) where
  surroundings : Surroundings
  arguments : List String
  given : Arguments
  understood : Invocation.ofArguments arguments = .ok ⟨subcommand, given⟩
  script : Script
  gives : Gives surroundings given script

/-- How a session ended: its result, its calls with their answers, and what is left of the input. -/
structure Ended (In : Type) where
  result : Except ExecError (Halted defaultCells)
  calls : CallLog
  left : In

namespace CommandLine

variable {In : Type} {subcommand : Subcommand}

def execute (line : CommandLine subcommand) (standard : Source In) (patience : Nat) (input : In) :
    Outcome × In :=
  executeOn line.surroundings standard patience input line.arguments

def settings (line : CommandLine .run) : Settings :=
  Settings.resolve line.given.overrides line.surroundings.environment
    (fileConfig line.surroundings)

/-- One session of the script on the usual tape, under the step limit and the strategy of the
settings, if the script is accepted and the session ends within `count` steps. -/
def sessionOn? (line : CommandLine .run) (source : Source In) (count : Nat) (input : In) :
    Option (Ended In) :=
  match Program.load line.script with
  | .error _ => none
  | .ok program =>
    ((program.withStrategy line.settings.resolver).run? (Device.ofEnds source .bytes).logged
      line.settings.control defaultCells count ((input, #[]), [])).map fun report =>
        ⟨report.result, report.world.2, report.world.1.1⟩

/-- The session of a run: on the text that the arguments give for the input, or else on standard
input. -/
def session? (line : CommandLine .run) (standard : Source In) (count : Nat) (input : In) :
    Option (Ended In) :=
  match line.given.input with
  | some text =>
    (line.sessionOn? .text count text).map fun ended => ⟨ended.result, ended.calls, input⟩
  | none => line.sessionOn? standard count input

/-- What is known of a run from the end of its session. -/
structure Tells (line : CommandLine .run) (ended : Ended In) (outcome : Outcome) : Prop where
  output : outcome.output.toList = ended.calls.output
  exitCode_mem : outcome.exitCode.toNat ∈ [0, 1, 3, 4]
  halted : outcome.exitCode.toNat = 0 ↔ ∃ halted, ended.result = .ok halted
  limited : outcome.exitCode.toNat = 1 ↔ ∃ limit, line.settings.maxSteps = some limit ∧
    ended.result = .error (.stepLimitExceeded limit.toNat)
  exhausted : outcome.exitCode.toNat = 3 ↔ .read (.ok none) ∈ ended.calls
  readFailed : outcome.exitCode.toNat = 4 ↔ ∃ failure, .read (.error failure) ∈ ended.calls

/-- The script is refused, or its session ends within the time limit. -/
def EndsInTime (line : CommandLine .run) (standard : Source In) (patience : Nat) (input : In) :
    Prop :=
  line.script.check = .ok () → ∃ ended, line.session? standard patience input = some ended

/-! ## The plan of a command line -/

/-- A refused script ends a run without output, and standard input is left as it is. -/
theorem exists_refusal (line : CommandLine .run) {unmatched : UnmatchedBracket}
    (refused : line.script.check = .error unmatched) :
    ∃ errors, ∀ (In : Type) (standard : Source In) patience input,
      line.execute standard patience input = (refusal line.script unmatched errors, input) := by
  simp only [execute, executeOn, plan, line.understood, planRun, line.gives.script_eq,
    Program.load_eq_error_iff.mpr refused]
  exact ⟨_, fun _ _ _ _ => rfl⟩

/-- An accepted script becomes a job, with the strategy, the settings and the input of the line. -/
theorem exists_job (line : CommandLine .run) {program : Program}
    (loaded : Program.load line.script = .ok program) :
    ∃ job : Job, job.program = program.withStrategy line.settings.resolver ∧
      job.settings = line.settings ∧ job.input = line.given.input ∧
        ∀ (In : Type) (standard : Source In) patience input,
          line.execute standard patience input = job.outcome standard patience input := by
  simp only [execute, executeOn, plan, line.understood, planRun, line.gives.script_eq, loaded]
  exact ⟨_, rfl, rfl, rfl, fun _ _ _ _ => rfl⟩

theorem execute_check (line : CommandLine .check) (standard : Source In) (patience : Nat)
    (input : In) :
    line.execute standard patience input =
      (Command.check line.surroundings line.given, input) := by
  simp only [execute, executeOn, plan, line.understood]

/-! ## The session of a run -/

/-- An outcome, with what is left of the input, is what the end of a session comes to. -/
structure ComesFrom (line : CommandLine .run) (ended : Ended In) (ran : Outcome × In) : Prop where
  ending : KeptEnding (line.settings.maxSteps.map UInt64.toNat) ended.result ended.calls
  exitCode : ran.1.exitCode = .ofResult ended.result
  output : ran.1.output.toList = ended.calls.output
  left : ran.2 = ended.left

/-- The four ways in which a session ends have an exit code each. -/
theorem ComesFrom.tells {line : CommandLine .run} {ended : Ended In} {ran : Outcome × In}
    (comes : line.ComesFrom ended ran) : line.Tells ended ran.1 := by
  obtain ⟨result, calls, left⟩ := ended
  obtain ⟨ending, exitCode, output, -⟩ := comes
  dsimp only at ending exitCode output
  cases ending with
  | halted allServed =>
    have code : ran.1.exitCode.toNat = 0 := congrArg ExitCode.toNat exitCode
    constructor <;> simp [code, output, allServed.read_mem_append_iff]
  | limited allServed limit_eq =>
    have code : ran.1.exitCode.toNat = 1 := congrArg ExitCode.toNat exitCode
    obtain ⟨limit, given, rfl⟩ := Option.map_eq_some_iff.mp limit_eq
    constructor <;> simp [code, output, given, allServed.read_mem_append_iff]
  | exhausted allServed =>
    have code : ran.1.exitCode.toNat = 3 := congrArg ExitCode.toNat exitCode
    constructor <;> simp [code, output, allServed.read_mem_append_iff]
  | readFailed allServed =>
    have code : ran.1.exitCode.toNat = 4 := congrArg ExitCode.toNat exitCode
    constructor <;> simp [code, output, allServed.read_mem_append_iff]

/-- A job comes to what the session of its command line comes to. -/
theorem comesFrom_of_sessionOn? (line : CommandLine .run) {program : Program} {job : Job}
    (loaded : Program.load line.script = .ok program)
    (runs : job.program = program.withStrategy line.settings.resolver)
    (obeys : job.settings = line.settings) {source : Source In} {patience : Nat} {input : In}
    {ended : Ended In} (found : line.sessionOn? source patience input = some ended) :
    line.ComesFrom ended (job.runOn source patience input) := by
  simp only [sessionOn?, loaded, Option.map_eq_some_iff] at found
  obtain ⟨report, ran, rfl⟩ := found
  have ending := Program.keptEnding_of_run? (fun _ _ => rfl) ran
  have kept := Program.toList_kept_of_run? ran
  rw [← runs, ← obeys] at ran
  have unlogged : job.program.run? (.ofEnds source .bytes) job.settings.control defaultCells
      patience (input, #[]) = some ⟨report.result, report.status, report.world.1⟩ :=
    (Program.run?_logged (fun _ _ => rfl) patience ((input, #[]), [])).trans
      (congrArg (Option.map _) ran)
  obtain ⟨exitCode, output, left⟩ := Job.runOn_of_run? (Job.run?_of_session unlogged)
  exact ⟨ending, exitCode, (congrArg Array.toList output).trans kept, left⟩

/-- So does the command line. -/
theorem comesFrom_of_session? (line : CommandLine .run) {standard : Source In} {patience : Nat}
    {input : In} {ended : Ended In}
    (found : line.session? standard patience input = some ended) :
    line.ComesFrom ended (line.execute standard patience input) := by
  cases loaded : Program.load line.script with
  | error unmatched =>
    rcases given : line.given.input with _ | text <;>
      simp [session?, given, sessionOn?, loaded] at found
  | ok program =>
    obtain ⟨job, runs, obeys, reads, executes⟩ := line.exists_job loaded
    rw [executes]
    unfold session? at found
    unfold Job.outcome
    rw [reads]
    cases given : line.given.input with
    | none =>
      rw [given] at found
      exact line.comesFrom_of_sessionOn? loaded runs obeys found
    | some text =>
      rw [given] at found
      obtain ⟨onText, foundOnText, rfl⟩ := Option.map_eq_some_iff.mp found
      have comes := line.comesFrom_of_sessionOn? loaded runs obeys foundOnText
      exact ⟨comes.ending, comes.exitCode, comes.output, rfl⟩

/-- The session depends on the script, the step limit and its input, and on nothing else. -/
theorem sessionOn?_unique {line other : CommandLine .run} (script : other.script = line.script)
    (limit : other.settings.maxSteps = line.settings.maxSteps) {source : Source In}
    {count countToo : Nat} {input : In} {ended endedToo : Ended In}
    (found : line.sessionOn? source count input = some ended)
    (foundToo : other.sessionOn? source countToo input = some endedToo) : endedToo = ended := by
  have control : (other.settings.control : Control ((In × Array UInt8) × CallLog)) =
      line.settings.control := by
    simp only [Settings.control, limit]
  unfold sessionOn? at found foundToo
  rw [script, control] at foundToo
  cases loaded : Program.load line.script with
  | error unmatched => simp [loaded] at found
  | ok program =>
    simp only [loaded, Program.run?_withStrategy, Option.map_eq_some_iff] at found foundToo
    obtain ⟨report, ran, rfl⟩ := found
    obtain ⟨reportToo, ranToo, rfl⟩ := foundToo
    rw [Program.run?_unique ran ranToo]

theorem session?_unique {line other : CommandLine .run} (script : other.script = line.script)
    (limit : other.settings.maxSteps = line.settings.maxSteps)
    (reads : other.given.input = line.given.input) {standard : Source In}
    {count countToo : Nat} {input : In} {ended endedToo : Ended In}
    (found : line.session? standard count input = some ended)
    (foundToo : other.session? standard countToo input = some endedToo) : endedToo = ended := by
  unfold session? at found foundToo
  rw [reads] at foundToo
  cases given : line.given.input with
  | none =>
    rw [given] at found foundToo
    exact sessionOn?_unique script limit found foundToo
  | some text =>
    rw [given] at found foundToo
    obtain ⟨onText, foundOnText, rfl⟩ := Option.map_eq_some_iff.mp found
    obtain ⟨onTextToo, foundOnTextToo, rfl⟩ := Option.map_eq_some_iff.mp foundToo
    rw [sessionOn?_unique script limit foundOnText foundOnTextToo]

/-- The exit code of an accepted script is that of some result, and never tells of a fault. -/
theorem exists_exitCode_eq (line : CommandLine .run) {program : Program}
    (loaded : Program.load line.script = .ok program) (standard : Source In) (patience : Nat)
    (input : In) :
    ∃ result : Except ExecError (Halted defaultCells),
      (line.execute standard patience input).1.exitCode = .ofResult result ∧
        ∀ fault, result ≠ .error (.internal fault) := by
  obtain ⟨job, -, -, -, executes⟩ := line.exists_job loaded
  rw [executes]
  unfold Job.outcome
  cases job.input with
  | none =>
    obtain ⟨report, ran⟩ := job.exists_run? (.ofEnds standard .bytes) patience (input, #[])
    exact ⟨report.result, (Job.runOn_of_run? ran).1, Program.result_ne_internal ran⟩
  | some text =>
    obtain ⟨report, ran⟩ := job.exists_run? (.ofEnds .text .bytes) patience (text, #[])
    exact ⟨report.result, (Job.runOn_of_run? ran).1, Program.result_ne_internal ran⟩

theorem execute_of_refused (line : CommandLine .run) (refused : line.script.check ≠ .ok ())
    (standard : Source In) (patience : Nat) (input : In) :
    (line.execute standard patience input).1.exitCode = .invalidScript ∧
      (line.execute standard patience input).1.output = #[] ∧
        (line.execute standard patience input).2 = input := by
  cases checked : line.script.check with
  | ok accepted => exact absurd checked refused
  | error unmatched =>
    obtain ⟨errors, executes⟩ := line.exists_refusal checked
    rw [executes]
    exact ⟨rfl, rfl, rfl⟩

/-- The exit code is 5 for the refused scripts only, and never 70. -/
theorem exitCode_iff (line : CommandLine .run) (standard : Source In) (patience : Nat)
    (input : In) :
    ((line.execute standard patience input).1.exitCode.toNat = 5 ↔ line.script.check ≠ .ok ()) ∧
      (line.execute standard patience input).1.exitCode.toNat ≠ 70 := by
  by_cases accepted : line.script.check = .ok ()
  · obtain ⟨program, loaded⟩ := (Program.exists_load_iff line.script).mpr accepted
    obtain ⟨result, exitCode, sound⟩ := line.exists_exitCode_eq loaded standard patience input
    rw [exitCode]
    rcases result with error | halted
    · cases error <;> simp_all [ExitCode.ofResult, RunError.exitCode, ExitCode.toNat]
    · simp [accepted, ExitCode.ofResult, ExitCode.toNat]
  · rw [(line.execute_of_refused accepted standard patience input).1]
    simp [accepted, ExitCode.toNat]

/-- A text for the input leaves standard input alone. -/
theorem execute_of_input (line : CommandLine .run) {text : List Char}
    (given : line.given.input = some text) (standard : Source In) {InToo : Type}
    (standardToo : Source InToo) (patience : Nat) (input : In) (inputToo : InToo) :
    line.execute standardToo patience inputToo =
      ((line.execute standard patience input).1, inputToo) := by
  cases loaded : Program.load line.script with
  | error unmatched =>
    obtain ⟨errors, refused⟩ := line.exists_refusal (Program.load_eq_error_iff.mp loaded)
    rw [refused, refused]
  | ok program =>
    obtain ⟨job, -, -, reads, executes⟩ := line.exists_job loaded
    rw [executes, executes]
    unfold Job.outcome
    rw [reads, given]

/-- Two runs of a script that end within their time limits, under the same step limit and on the same
input, come to the same. -/
theorem outcome_unique {line other : CommandLine .run} (script : other.script = line.script)
    (limit : other.settings.maxSteps = line.settings.maxSteps)
    (reads : other.given.input = line.given.input) {standard : Source In}
    {patience patienceToo : Nat} {input : In} (inTime : line.EndsInTime standard patience input)
    (inTimeToo : other.EndsInTime standard patienceToo input) :
    (other.execute standard patienceToo input).1.exitCode =
        (line.execute standard patience input).1.exitCode ∧
      (other.execute standard patienceToo input).1.output =
        (line.execute standard patience input).1.output := by
  by_cases accepted : line.script.check = .ok ()
  · obtain ⟨ended, found⟩ := inTime accepted
    obtain ⟨endedToo, foundToo⟩ := inTimeToo (script ▸ accepted)
    obtain rfl := session?_unique script limit reads found foundToo
    have comes := line.comesFrom_of_session? found
    have comesToo := other.comesFrom_of_session? foundToo
    exact ⟨comesToo.exitCode.trans comes.exitCode.symm,
      Array.ext' (comesToo.output.trans comes.output.symm)⟩
  · obtain ⟨exitCode, output, -⟩ := line.execute_of_refused accepted standard patience input
    obtain ⟨exitCodeToo, outputToo, -⟩ :=
      other.execute_of_refused (script ▸ accepted) standard patienceToo input
    exact ⟨exitCodeToo.trans exitCode.symm, outputToo.trans output.symm⟩

/-- A check accepts a script with one line of output, or refuses it without output. -/
theorem check_output (line : CommandLine .check) (standard : Source In) (patience : Nat)
    (input : In) :
    (line.script.check = .ok () → (line.execute standard patience input).1.exitCode = .ok ∧
      (line.execute standard patience input).1.output = "ok\n".toUTF8.data) ∧
    (line.script.check ≠ .ok () →
      (line.execute standard patience input).1.exitCode = .invalidScript ∧
        (line.execute standard patience input).1.output = #[]) := by
  rw [execute_check]
  cases checked : line.script.check with
  | ok accepted => simp [Command.check, line.gives.script_eq, checked]
  | error unmatched =>
    simp [Command.check, line.gives.script_eq, checked, refusal, RunError.exitCode]

/-- Running a script from the command line is one session of it. A refused script exits with 5,
without output and with standard input unread, and 70 is never the exit code. If the session ends
within the time limit, standard output is what it has written, and the exit code is 0, 1, 3 or 4, as
it halted, was stopped by the step limit, met the end of its input or failed to read. Neither depends
on the way in which the script came nor on the strategy, and with a text for the input nothing
depends on standard input, which is not read then. A check prints `ok` for the scripts whose run does
not exit with 5. -/
theorem run_is_one_session (line : CommandLine .run) (standard : Source In) (patience : Nat)
    (input : In) :
    let ran := line.execute standard patience input
    ((ran.1.exitCode.toNat = 5 ↔ line.script.check ≠ .ok ()) ∧
      (line.script.check ≠ .ok () → ran.1.output = #[] ∧ ran.2 = input) ∧
        ran.1.exitCode.toNat ≠ 70) ∧
    (∀ ended, line.session? standard patience input = some ended →
      line.Tells ended ran.1 ∧ ran.2 = ended.left) ∧
    (∀ (other : CommandLine .run) patienceToo, other.script = line.script →
      other.settings.maxSteps = line.settings.maxSteps → other.given.input = line.given.input →
        line.EndsInTime standard patience input → other.EndsInTime standard patienceToo input →
          let again := other.execute standard patienceToo input
          again.1.exitCode = ran.1.exitCode ∧ again.1.output = ran.1.output) ∧
    (∀ text, line.given.input = some text → ∀ (InToo : Type) (standardToo : Source InToo) inputToo,
      line.execute standardToo patience inputToo = (ran.1, inputToo)) ∧
    ∀ (check : CommandLine .check) (patienceToo : Nat), check.script = line.script →
      let checked := (check.execute standard patienceToo input).1
      ((checked.exitCode.toNat = 0 ∧ checked.output = "ok\n".toUTF8.data) ↔
          ran.1.exitCode.toNat ≠ 5) ∧
        (ran.1.exitCode.toNat = 5 → checked.exitCode.toNat = 5 ∧ checked.output = #[]) := by
  intro ran
  have codes := line.exitCode_iff standard patience input
  refine ⟨⟨codes.1, ?_, codes.2⟩, ?_, ?_, ?_, ?_⟩
  · exact fun refused => (line.execute_of_refused refused standard patience input).2
  · intro ended found
    have comes := line.comesFrom_of_session? found
    exact ⟨comes.tells, comes.left⟩
  · exact fun other patienceToo script limit reads inTime inTimeToo =>
      outcome_unique script limit reads inTime inTimeToo
  · exact fun text given InToo standardToo inputToo =>
      line.execute_of_input given standard standardToo patience input inputToo
  · intro check patienceToo same
    obtain ⟨accepts, refuses⟩ := check.check_output standard patienceToo input
    rw [same] at accepts refuses
    by_cases accepted : line.script.check = .ok ()
    · have notFive : ran.1.exitCode.toNat ≠ 5 := fun five => codes.1.mp five accepted
      obtain ⟨exitCode, output⟩ := accepts accepted
      exact ⟨⟨fun _ => notFive, fun _ => ⟨congrArg ExitCode.toNat exitCode, output⟩⟩,
        fun five => absurd five notFive⟩
    · have five : ran.1.exitCode.toNat = 5 := codes.1.mpr accepted
      obtain ⟨exitCode, output⟩ := refuses accepted
      have code := congrArg ExitCode.toNat exitCode
      refine ⟨⟨fun passed => ?_, fun notFive => absurd five notFive⟩, fun _ => ⟨code, output⟩⟩
      cases passed.1.symm.trans code

/-- A script that echoes a byte does so when it comes in two parts and when it comes in a file for the
other strategy, whatever stands on standard input. A stray bracket is refused. -/
theorem run_is_one_session_echo :
    let bare : Surroundings := ⟨fun _ => .ok ",.".toUTF8, fun _ => none, false⟩
    let line : CommandLine .run :=
      ⟨bare, ["run", "-i", "a", ",", "."], _, rfl, #[',', '.'], .parts rfl (by simp) rfl⟩
    let other : CommandLine .run :=
      ⟨bare, ["run", "--resolver", "scan", "-i", "a", "-f", "echo"], _, rfl, #[',', '.'],
        .file rfl rfl rfl⟩
    let check : CommandLine .check :=
      ⟨bare, ["check", ",."], _, rfl, #[',', '.'], .parts rfl (by simp) rfl⟩
    let stray : CommandLine .run := ⟨bare, ["run", "]"], _, rfl, #[']'], .parts rfl (by simp) rfl⟩
    let ran := line.execute .bytes 3 [7]
    (∃ ended, line.session? .bytes 3 [7] = some ended ∧ line.Tells ended ran.1 ∧
      ran.2 = ended.left ∧ ended.calls.output = [97]) ∧
    ((other.execute .bytes 4 [7]).1.exitCode = ran.1.exitCode ∧
      (other.execute .bytes 4 [7]).1.output = ran.1.output) ∧
    line.execute .text 3 ['b'] = (ran.1, ['b']) ∧
    ((check.execute .bytes 0 [7]).1.exitCode.toNat = 0 ∧
      (check.execute .bytes 0 [7]).1.output = "ok\n".toUTF8.data) ∧
    (stray.execute .bytes 3 [7]).1.output = #[] ∧ (stray.execute .bytes 3 [7]).2 = [7] := by
  intro bare line other check stray ran
  obtain ⟨codes, tells, again, alone, checks⟩ := line.run_is_one_session .bytes 3 [7]
  refine ⟨⟨_, rfl, (tells _ rfl).1, (tells _ rfl).2, rfl⟩, ?_, alone _ rfl _ .text ['b'], ?_, ?_⟩
  · exact again other 4 rfl rfl rfl (fun _ => ⟨_, rfl⟩) (fun _ => ⟨_, rfl⟩)
  · exact (checks check 0 rfl).1.mpr fun five => codes.1.mp five rfl
  · exact (stray.run_is_one_session .bytes 3 [7]).1.2.1 (by decide)

end CommandLine

end Command

end TapeMachine
