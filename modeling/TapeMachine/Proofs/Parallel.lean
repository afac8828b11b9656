import TapeMachine.Proofs.Correspondence

/-! # Sessions side by side

If one machine is read as another one and their devices give answers that stand for each other, two
sessions go on side by side. They make the same jumps, stand at the same position after as many
steps, and end in the same way. A correspondence that speaks of part of all dispatches goes as far as
a session makes no other.
-/

namespace TapeMachine

universe u v

variable {n m : Nat} {World : Type u} {Other : Type v}

/-! ## Side by side -/

/-- The second program is what the first one is read as, the devices give answers that stand for each
other, and the controls agree. -/
structure Correspondence.Parallel (between : Correspondence n m) (Related : World → Other → Prop)
    (program : Program) (device : Device World) (control : Control World)
    (programToo : Program) (other : Device Other) (controlToo : Control Other) : Prop where
  script : programToo.script = program.script.map between.character
  answers : AnswersAlike between.byte Related device other
  stop : ∀ {world worldToo}, Related world worldToo → ∀ steps,
    controlToo.stop? steps worldToo = control.stop? steps world

/-- Every dispatch of the first `count` steps of a session is covered. -/
def Correspondence.CoversRun (between : Correspondence n m) (program : Program)
    (device : Device World) (control : Control World) (count : Nat) (session : Session n)
    (world : World) : Prop :=
  ∀ first < count, ∀ (next : Session n) (after : World),
    program.advance device control first session world = (.running next, after) →
      ∀ character, program.script[next.position]? = some character →
        control.stop? next.steps after = none → between.Covers character next.tape

/-- A correspondence that speaks of all dispatches covers every session. -/
theorem Correspondence.coversRun_of_forall {between : Correspondence n m}
    (all : ∀ character tape, between.Covers character tape) {program : Program}
    {device : Device World} {control : Control World} {count : Nat} {session : Session n}
    {world : World} : between.CoversRun program device control count session world :=
  fun _ _ next _ _ character _ _ => all character next.tape

namespace Correspondence.Parallel

variable {between : Correspondence n m} {Related : World → Other → Prop}
  {program programToo : Program} {device : Device World} {control : Control World}
  {other : Device Other} {controlToo : Control Other}
  (parallel : between.Parallel Related program device control programToo other controlToo)

include parallel

/-- Both programs find the same partners. -/
theorem partner_iff {position target : Nat} :
    programToo.partner position = .ok target ↔ program.partner position = .ok target := by
  rw [programToo.partner_eq_ok_iff_script, program.partner_eq_ok_iff_script, parallel.script,
    Script.partner_map between.keepsBrackets]

section

variable {session : Session n} {sessionToo : Session m} {world : World} {worldToo : Other}
  (alike : session.Alike between.Like sessionToo)

include alike

theorem present {character : Char} (stands : program.script[session.position]? = some character) :
    programToo.script[sessionToo.position]? = some (between.character character) := by
  rw [parallel.script, Array.getElem?_map, alike.position, stands, Option.map_some]

theorem outside (behind : program.script.size ≤ session.position) :
    programToo.script.size ≤ sessionToo.position := by
  rw [parallel.script, Array.size_map, alike.position]
  exact behind

/-- Where the one session jumps the other one does, to the same target. -/
theorem jumpEvent? {character : Char} (present : program.script[session.position]? = some character) :
    programToo.jumpEvent? (between.character character) sessionToo =
      program.jumpEvent? character session := by
  have same := between.charJumpsOn character session.tape.read
  rw [← between.read_eq alike.tape] at same
  unfold Instruction.charJumpsOn at same
  unfold Program.jumpEvent?
  rw [same]
  split_ifs with jumps
  · obtain ⟨target, found, -⟩ :=
      program.exists_partner present (Instruction.bracket_of_charJumpsOn jumps)
    rw [alike.position, found, parallel.partner_iff.mpr found]
  · rfl

variable (related : Related world worldToo)

include related

/-- A dispatch that is covered goes on, or fails, alike on both sides. -/
theorem dispatch {character : Char} (present : program.script[session.position]? = some character)
    (covers : between.Covers character session.tape) :
    (program.dispatch device character session world).1.Alike between.Like
        (programToo.dispatch other (between.character character) sessionToo worldToo).1 ∧
      Related (program.dispatch device character session world).2
        (programToo.dispatch other (between.character character) sessionToo worldToo).2 := by
  obtain ⟨tape, position, steps⟩ := alike
  have read := between.read_eq tape
  by_cases jumps : Instruction.charJumpsOn character session.tape.read
  · obtain ⟨target, found, -⟩ :=
      program.exists_partner present (Instruction.bracket_of_charJumpsOn jumps)
    have jumpsToo := (between.charJumpsOn character session.tape.read).trans jumps
    have foundToo := parallel.partner_iff.mpr found
    rw [← read] at jumpsToo
    rw [← position] at foundToo
    rw [Program.dispatch_of_jump jumps found, Program.dispatch_of_jump jumpsToo foundToo]
    exact ⟨.running ⟨tape, rfl, congrArg (· + 1) steps⟩, related⟩
  by_cases isOutput : Instruction.ofChar? character = some .output
  · obtain ⟨answer, after⟩ := parallel.answers.write related session.tape.read
    rw [Program.dispatch_of_output isOutput,
      Program.dispatch_of_output (between.ofChar?_eq_output_iff.mpr isOutput), read, answer]
    refine ⟨?_, after⟩
    rcases (device.write session.tape.read world).1 with failure | done
    · simp only [Session.delivered, position]
      exact .aborted ⟨tape, position, steps⟩ _
    · exact .running ⟨tape, congrArg (· + 1) position, congrArg (· + 1) steps⟩
  by_cases isInput : Instruction.ofChar? character = some .input
  · obtain ⟨answer, after⟩ := parallel.answers.read related
    rw [Program.dispatch_of_input isInput,
      Program.dispatch_of_input (between.ofChar?_eq_input_iff.mpr isInput), answer]
    refine ⟨?_, after⟩
    rcases (device.read world).1 with failure | _ | byte
    · simp only [Except.map, Session.received, position]
      exact .aborted ⟨tape, position, steps⟩ _
    · simp only [Except.map, Option.map_none, Session.received, position]
      exact .aborted ⟨tape, position, steps⟩ _
    · exact .running ⟨between.write tape byte, congrArg (· + 1) position, congrArg (· + 1) steps⟩
  · have staysToo : ¬Instruction.charJumpsOn (between.character character) sessionToo.tape.read := by
      rw [read, between.charJumpsOn]
      exact jumps
    rw [Program.dispatch_of_proceed (program.action_of_plain jumps isOutput isInput),
      Program.dispatch_of_proceed (programToo.action_of_plain staysToo
        (between.ofChar?_eq_output_iff.not.mpr isOutput)
        (between.ofChar?_eq_input_iff.not.mpr isInput))]
    exact ⟨.running ⟨between.effect tape covers, congrArg (· + 1) position,
      congrArg (· + 1) steps⟩, related⟩

theorem stop_eq :
    controlToo.stop? sessionToo.steps worldToo = control.stop? session.steps world := by
  rw [alike.steps]
  exact parallel.stop related session.steps

theorem step (covers : between.CoversRun program device control 1 session world) :
    (program.step device control session world).1.Alike between.Like
        (programToo.step other controlToo sessionToo worldToo).1 ∧
      Related (program.step device control session world).2
        (programToo.step other controlToo sessionToo worldToo).2 := by
  have stop := parallel.stop_eq alike related
  rcases Nat.lt_or_ge session.position program.script.size with inside | outside
  · have present := Array.getElem?_eq_getElem inside
    have presentToo := parallel.present alike present
    cases free : control.stop? session.steps world with
    | some error =>
      rw [Program.step_of_stop inside free,
        Program.step_of_stop (Array.getElem?_eq_some_iff.mp presentToo).1 (stop.trans free)]
      exact ⟨.aborted alike error, related⟩
    | none =>
      rw [Program.step_of_present present free,
        Program.step_of_present presentToo (stop.trans free)]
      exact parallel.dispatch alike related present
        (covers 0 Nat.one_pos session world rfl _ present free)
  · rw [Program.step_of_outside outside,
      Program.step_of_outside (parallel.outside alike outside)]
    exact ⟨.completed alike, related⟩

/-- The events of a step stand for those of the step at its side. -/
theorem events :
    programToo.events controlToo sessionToo worldToo =
      (program.events control session world).map between.event := by
  have stop := parallel.stop_eq alike related
  rcases Nat.lt_or_ge session.position program.script.size with inside | outside
  · cases free : control.stop? session.steps world with
    | some error =>
      rw [Program.events_of_stop free, Program.events_of_stop (stop.trans free)]
      rfl
    | none =>
      have present := Array.getElem?_eq_getElem inside
      have jumped := parallel.jumpEvent? alike present
      rw [Program.events_of_present present free,
        Program.events_of_present (parallel.present alike present) (stop.trans free),
        jumped, List.map_cons, between.map_event_jumpEvent?, event, Event.map, alike.steps,
        alike.position, between.cursor_eq alike.tape, between.read_eq alike.tape]
  · rw [Program.events_of_outside outside,
      Program.events_of_outside (parallel.outside alike outside)]
    rfl

/-- Two sessions go on side by side as long as all dispatches are covered. -/
theorem record {count : Nat} (recorded : Array Event)
    (covers : between.CoversRun program device control count session world) :
    RecordAlike between.event between.Like Related
      (program.record device control count recorded session world)
      (programToo.record other controlToo count (recorded.map between.event) sessionToo worldToo) := by
  induction count generalizing recorded session sessionToo world worldToo with
  | zero => exact ⟨rfl, .running alike, related⟩
  | succ count ih =>
    have grown : (recorded.map between.event).appendList
        (programToo.events controlToo sessionToo worldToo) =
          (recorded.appendList (program.events control session world)).map between.event := by
      rw [parallel.events alike related]
      apply Array.ext'
      simp
    obtain ⟨stepped, after⟩ := parallel.step alike related fun first before next final reached =>
      covers first (Nat.lt_of_lt_of_le before (Nat.succ_pos count)) next final reached
    simp only [Program.record, grown]
    rcases ran : program.step device control session world with ⟨status, middle⟩
    rcases ranToo : programToo.step other controlToo sessionToo worldToo with ⟨statusToo, middleToo⟩
    rw [ran, ranToo] at stepped after
    cases stepped with
    | running alikeNext =>
      apply ih alikeNext after
      intro first before next final reached
      apply covers (first + 1) (Nat.succ_lt_succ before)
      rw [Program.advance_succ_of_running ran, reached]
    | completed alikeNext => exact ⟨rfl, .completed alikeNext, after⟩
    | aborted alikeNext error => exact ⟨rfl, .aborted alikeNext error, after⟩

end

/-- Two sessions that go on side by side are both running, or they have ended alike. -/
theorem runsAlike [HasCell n] [HasCell m] {world : World} {worldToo : Other} {count : Nat}
    (related : Related world worldToo)
    (covers : between.CoversRun program device control count (Session.start n) world) :
    RunsAlike between.event between.Like Related count program device control world programToo other
      controlToo worldToo := by
  have start : (Session.start n).Alike between.Like (Session.start m) := ⟨between.blank, rfl, rfl⟩
  have recorded := parallel.record start related #[] covers
  rw [Array.map_empty] at recorded
  refine ⟨recorded, ?_⟩
  obtain ⟨-, status, after⟩ := recorded
  rw [Program.record_snd, Program.record_snd] at status after
  obtain ⟨flushed, final⟩ := parallel.answers.flush after
  rw [Program.run?_eq, Program.run?_eq, Status.close?_eq, Status.close?_eq, flushed]
  generalize program.advance device control count (Session.start n) world = ended at *
  generalize programToo.advance other controlToo count (Session.start m) worldToo = endedToo at *
  obtain ⟨ended, left⟩ := ended
  obtain ⟨endedToo, leftToo⟩ := endedToo
  cases status with
  | running alike => exact .none
  | completed alike =>
    simp only [Status.result?]
    cases (device.flush left).1 with
    | ok done =>
      rw [alike.steps]
      exact .some ⟨.halted alike.tape _, .completed alike, final⟩
    | error failure =>
      rw [alike.position]
      exact .some ⟨.failed _, .completed alike, final⟩
  | aborted alike error => exact .some ⟨.failed error, .aborted alike error, final⟩

end Correspondence.Parallel

/-! ## The same program beside itself -/

def Correspondence.same (n : Nat) : Correspondence n n where
  character := id
  byte := id
  cursor := id
  Like := Eq
  Covers _ _ := True
  character_eq_iff := character_id_iff
  byte_eq_zero_iff := byte_id_iff
  cursor_eq same := same ▸ rfl
  read_eq same := same ▸ rfl
  write same _ := same ▸ rfl
  effect same _ := same ▸ rfl
  blank := rfl

theorem ResultAlike.eq {result other : Except ExecError (Halted n)}
    (alike : ResultAlike Eq result other) : other = result := by
  cases alike with
  | failed error => rfl
  | halted same steps => rw [same]

/-- Between devices that give the same answers a program runs in the same way. -/
theorem Program.runsAlike_of_answers {World : Type u} [HasCell n] (program : Program)
    {Related : World → World → Prop} {device other : Device World} {control : Control World}
    (answers : AnswersAlike id Related device other)
    (stop : ∀ {world worldToo}, Related world worldToo → ∀ steps,
      control.stop? steps worldToo = control.stop? steps world)
    {world worldToo : World} (related : Related world worldToo) (count : Nat) :
    RunsAlike id (Eq (α := Tape n)) Related count program device control world program other control
      worldToo := by
  have parallel : (Correspondence.same n).Parallel Related program device control program other
      control :=
    { script := (Array.map_id _).symm
      answers
      stop }
  rw [← Event.map_id]
  exact parallel.runsAlike related (Correspondence.coversRun_of_forall fun _ _ => trivial)

/-- What stands for each other still does behind functions that respect it. -/
theorem rel_map {First : Type u} {Second : Type v} {Mapped : Type u} {MappedToo : Type v}
    {Stands : First → Second → Prop} {StandsToo : Mapped → MappedToo → Prop}
    {change : First → Mapped} {changeToo : Second → MappedToo}
    (respects : ∀ {first second}, Stands first second → StandsToo (change first) (changeToo second))
    {first : Option First} {second : Option Second} (stands : Option.Rel Stands first second) :
    Option.Rel StandsToo (first.map change) (second.map changeToo) := by
  cases stands with
  | none => exact .none
  | some related => exact .some (respects related)

end TapeMachine
