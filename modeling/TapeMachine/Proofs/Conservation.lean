import TapeMachine.Proofs.Calls
import TapeMachine.Proofs.Ending

/-! # Bytes are conserved

Sessions that are run one after the other can share a text and keep their bytes in one place. However
they end, no byte is lost, doubled or moved: what a session adds to the kept bytes are the cells on
which it dispatched an output instruction, in order, and what it takes from the text are the
characters that its reads have delivered, in order. A character that no cell can hold is never taken,
so every later session fails at its first input instruction.
-/

namespace TapeMachine

universe u

variable {n : Nat}

/-- The bytes that were delivered, in order. -/
def CallLog.input (log : CallLog) : List UInt8 :=
  log.filterMap fun
    | .read (.ok (some byte)) => some byte
    | _ => none

@[simp] theorem CallLog.input_append (log more : CallLog) :
    input (log ++ more) = input log ++ input more := List.filterMap_append

/-- The cell on which an event announces the dispatch of `character`, if it does. -/
def Event.cellOn? (character : Char) : Event → Option UInt8
  | dispatch _ _ _ cell dispatched => if dispatched = character then some cell else none
  | _ => none

/-- Events that name no cell for a character announce no dispatch of it. -/
theorem Event.not_mem_of_filterMap_cellOn {character : Char} {events : List Event}
    (silent : events.filterMap (cellOn? character) = []) {step position cursor : Nat} {cell : UInt8} :
    dispatch step position cursor cell character ∉ events := by
  intro member
  have named := List.filterMap_eq_nil_iff.mp silent _ member
  rw [cellOn?, if_pos rfl] at named
  cases named

/-- The event that closes a record announces nothing. -/
theorem Report.filterMap_cellOn_closingEvent {World : Type u} (character : Char)
    (report : Report n World) :
    report.closingEvent?.toList.filterMap (Event.cellOn? character) = [] := by
  unfold closingEvent?
  split <;> rfl

namespace Program

variable {World : Type u} {program : Program} {session next : Session n}

/-- Of the events of a step only that of its dispatch names a cell. -/
theorem filterMap_cellOn_events {control : Control World} {world : World} (character : Char)
    (inside : session.position < program.script.size)
    (free : control.stop? session.steps world = none) :
    (program.events control session world).filterMap (Event.cellOn? character) =
      if program.script[session.position] = character then [session.tape.read] else [] := by
  have silent : (program.jumpEvent? program.script[session.position] session).toList.filterMap
      (Event.cellOn? character) = [] := by
    unfold jumpEvent?
    split_ifs
    · cases program.partner session.position <;> rfl
    · rfl
  simp only [events, inside, ↓reduceDIte, free, List.filterMap_cons, Event.cellOn?, silent]
  split_ifs <;> rfl

section

variable {device : Device World} {control : Control (World × CallLog)} {world after : World × CallLog}

/-- A step behind which a session is running hands over the cell on which it announced an output. -/
theorem output_of_step
    (stepped : program.step device.logged control session world = (.running next, after)) :
    after.2.output =
      world.2.output ++ (program.events control session world).filterMap (Event.cellOn? '.') := by
  obtain ⟨inside, free⟩ := free_of_running (advance_one.trans stepped) advance_zero Nat.one_pos
  rw [filterMap_cellOn_events '.' inside free]
  rw [step_of_inside inside free] at stepped
  by_cases isOutput : program.script[session.position] = '.'
  · rw [isOutput, dispatch_of_output rfl] at stepped
    obtain ⟨delivered, rfl⟩ := Prod.mk.inj stepped
    have served : (device.logged.write session.tape.read world).1 = .ok () := by
      cases answer : (device.logged.write session.tape.read world).1 with
      | error failure => simp [answer, Session.delivered] at delivered
      | ok done => rfl
    rw [if_pos isOutput]
    exact (congrArg (fun answer => CallLog.output (world.2 ++ [.write session.tape.read answer]))
      served).trans (CallLog.output_write ..)
  · have dispatched :=
      program.dispatched device.logged program.script[session.position] session world
    rw [stepped] at dispatched
    generalize running : Status.running next = status at dispatched
    rw [if_neg isOutput, List.append_nil]
    cases dispatched with
    | proceed | jump => rfl
    | lost => cases running
    | read => exact CallLog.output_read ..
    | write isPoint => exact absurd (Instruction.ofChar?_eq_some_iff.mp isPoint) isOutput

/-- As long as a session is running it has handed over the cells on which it announced an output. -/
theorem output_of_running {count : Nat}
    (ran : program.advance device.logged control count session world = (.running next, after)) :
    after.2.output = world.2.output ++
      (program.record device.logged control count #[] session world).1.toList.filterMap
        (Event.cellOn? '.') := by
  have handed : ∀ next,
      (program.advance device.logged control count session world).1 = .running next →
      (program.advance device.logged control count session world).2.2.output = world.2.output ++
        (program.record device.logged control count #[] session world).1.toList.filterMap
          (Event.cellOn? '.') := by
    apply record_induction (motive := fun (_ : Session n) (before : World × CallLog) events status
      (after : World × CallLog) => ∀ next, status = .running next →
        after.2.output = before.2.output ++ events.filterMap (Event.cellOn? '.'))
    · exact fun _ _ _ _ => (List.append_nil _).symm
    · intro session world middle between events status after stepped ih next running
      rw [ih next running, output_of_step stepped, List.append_assoc, List.filterMap_append]
    · exact fun _ _ _ _ _ ended next running => absurd running (ended next)
  have made := handed next (congrArg Prod.fst ran)
  rw [ran] at made
  exact made

end

end Program

/-- A text that is read, the bytes that are kept, and the calls that were made. -/
abbrev Shared := (List Char × Array UInt8) × CallLog

namespace Shared

/-- The characters that no read has taken. -/
abbrev unread (world : Shared) : List Char := world.1.1

/-- The bytes that were written. -/
abbrev kept (world : Shared) : List UInt8 := world.1.2.toList

abbrev calls (world : Shared) : CallLog := world.2

end Shared

/-- Between two worlds the kept bytes grow by the cells on which the events announce an output, and
the characters that the calls in between have delivered are gone from the front of the text. -/
structure Conserves (events : List Event) (before after : Shared) : Prop where
  output : after.kept = before.kept ++ events.filterMap (Event.cellOn? '.')
  input : ∃ consumed calls, before.unread = consumed ++ after.unread ∧
    after.calls = before.calls ++ calls ∧
      consumed.map Char.toNat = calls.input.map UInt8.toNat

namespace Conserves

/-- Where no output is announced and no call is made, nothing changes. -/
theorem unchanged {events : List Event} (silent : events.filterMap (Event.cellOn? '.') = [])
    (world : Shared) : Conserves events world world where
  output := by rw [silent, List.append_nil]
  input := ⟨[], [], rfl, (List.append_nil _).symm, rfl⟩

/-- The flush moves no byte. -/
theorem flush {events : List Event} (silent : events.filterMap (Event.cellOn? '.') = [])
    (world : Shared) : Conserves events world (world.1, world.2 ++ [.flush (.ok ())]) where
  output := by rw [silent, List.append_nil]
  input := ⟨[], [.flush (.ok ())], rfl, rfl, rfl⟩

theorem trans {events more : List Event} {first second third : Shared}
    (conserves : Conserves events first second) (next : Conserves more second third) :
    Conserves (events ++ more) first third where
  output := by
    rw [next.output, conserves.output, List.filterMap_append, List.append_assoc]
  input := by
    obtain ⟨consumed, calls, taken, made, same⟩ := conserves.input
    obtain ⟨consumedToo, callsToo, takenToo, madeToo, sameToo⟩ := next.input
    refine ⟨consumed ++ consumedToo, calls ++ callsToo, ?_, ?_, ?_⟩
    · rw [taken, takenToo, List.append_assoc]
    · rw [madeToo, made, List.append_assoc]
    · rw [List.map_append, same, sameToo, CallLog.input_append, List.map_append]

end Conserves

namespace Program

variable {program : Program} {control : Control Shared} {session : Session n} {world : Shared}

/-! ## Every step conserves the bytes -/

/-- A read takes the character that it delivers, and nothing if it delivers none. -/
theorem conserves_read {events : List Event} (silent : events.filterMap (Event.cellOn? '.') = [])
    (world : Shared) : Conserves events world ((Device.ofText .bytes).read world).2 := by
  obtain ⟨⟨unread, kept⟩, calls⟩ := world
  have same : kept.toList = kept.toList ++ events.filterMap (Event.cellOn? '.') := by
    rw [silent, List.append_nil]
  cases unread with
  | nil => exact ⟨same, [], [.read (.ok none)], rfl, rfl, rfl⟩
  | cons character rest =>
    by_cases fits : character.toNat < UInt8.size
    · rw [Device.read_ofText, Source.read_text_of_narrow fits]
      refine ⟨same, [character], [.read (.ok (some character.toNat.toUInt8))], rfl, rfl, ?_⟩
      simp [CallLog.input, Nat.mod_eq_of_lt fits]
    · rw [Device.read_ofText, Source.read_text_of_wide (Nat.not_lt.mp fits)]
      exact ⟨same, [], [.read (.error (.wideCharacter character))], rfl, rfl, rfl⟩

theorem conserves_step {status : Status n} {after : Shared}
    (stepped : program.step (.ofText .bytes) control session world = (status, after)) :
    Conserves (program.events control session world) world after := by
  have left : (program.step (.ofText .bytes) control session world).2 = after :=
    congrArg Prod.snd stepped
  rw [← left]
  apply step_induction (motive := fun (_ : Status n) after =>
    Conserves (program.events control session world) world after)
  · intro outside
    rw [events_of_outside outside]
    exact .unchanged rfl world
  · intro error _ stop
    rw [events_of_stop stop]
    exact .unchanged rfl world
  · intro inside free status after dispatched
    have cells := filterMap_cellOn_events '.' inside free
    have silent (other : program.script[session.position] ≠ '.') :
        (program.events control session world).filterMap (Event.cellOn? '.') = [] := by
      rw [cells, if_neg other]
    cases dispatched with
    | proceed acted =>
      refine .unchanged (silent fun isOutput => ?_) world
      rw [isOutput] at acted
      cases acted
    | jump jumps | lost jumps =>
      refine .unchanged (silent fun isOutput => ?_) world
      rw [isOutput] at jumps
      cases jumps
    | read isInput =>
      refine conserves_read (silent fun isOutput => ?_) world
      rw [isOutput] at isInput
      cases isInput
    | write isOutput =>
      rw [Instruction.ofChar?_eq_some_iff.mp isOutput] at cells
      refine ⟨?_, [], [.write session.tape.read (.ok ())], rfl, rfl, rfl⟩
      rw [cells]
      exact Array.toList_push

/-- What every step conserves, the steps of a record conserve. -/
theorem conserves_record (count : Nat) :
    Conserves (program.record (.ofText .bytes) control count #[] session world).1.toList world
      (program.advance (.ofText .bytes) control count session world).2 := by
  apply record_induction (motive := fun (_ : Session n) before events _ after =>
    Conserves events before after)
  · exact fun _ world => .unchanged rfl world
  · intro session world next between events status after stepped conserves
    exact (conserves_step stepped).trans conserves
  · intro session world status after stepped _
    exact conserves_step stepped

/-! ## A character that no cell can hold -/

variable {wide : Char} {rest : List Char}

/-- The events announce no input, or the one that they end with is the first, and its session ended
there because the character at hand was too wide. -/
inductive FailsAtInput (wide : Char) : List Event → Status n → Prop
  | silent {events : List Event} {status : Status n}
      (none : events.filterMap (Event.cellOn? ',') = []) : FailsAtInput wide events status
  | failed {front : List Event} (last : Session n)
      (none : front.filterMap (Event.cellOn? ',') = []) :
      FailsAtInput wide
        (front ++ [.dispatch last.steps last.position last.tape.cursor last.tape.read ','])
        (.aborted last (.io last.position (.wideCharacter wide)))

theorem FailsAtInput.behind {front events : List Event} {status : Status n}
    (none : front.filterMap (Event.cellOn? ',') = []) (fails : FailsAtInput wide events status) :
    FailsAtInput wide (front ++ events) status := by
  cases fails with
  | silent noneToo => exact .silent (by rw [List.filterMap_append, none, noneToo, List.nil_append])
  | failed last noneToo =>
    rw [← List.append_assoc]
    exact .failed last (by rw [List.filterMap_append, none, noneToo, List.nil_append])

theorem FailsAtInput.silent_of_running {events : List Event} {next : Session n}
    (fails : FailsAtInput wide events (.running next)) :
    events.filterMap (Event.cellOn? ',') = [] := by
  cases fails with
  | silent none => exact none

/-- An input that is announced is the first one, and stands at the end. -/
theorem FailsAtInput.of_mem {events : List Event} {status : Status n} {step position cursor : Nat}
    {cell : UInt8} (fails : FailsAtInput wide events status)
    (announced : .dispatch step position cursor cell ',' ∈ events) :
    ∃ (front : List Event) (last : Session n), front.filterMap (Event.cellOn? ',') = [] ∧
      events = front ++ [.dispatch step position cursor cell ','] ∧ last.position = position ∧
        last.steps = step ∧ status = .aborted last (.io position (.wideCharacter wide)) := by
  cases fails with
  | silent none => exact absurd announced (Event.not_mem_of_filterMap_cellOn none)
  | failed last none =>
    rcases List.mem_append.mp announced with before | atEnd
    · exact absurd before (Event.not_mem_of_filterMap_cellOn none)
    · cases List.mem_singleton.mp atEnd
      exact ⟨_, last, none, rfl, rfl, rfl, rfl⟩

/-- As long as the character at hand is too wide, no step takes it. -/
theorem unread_advance (isWide : UInt8.size ≤ wide.toNat) (blocked : world.unread = wide :: rest)
    (count : Nat) :
    Shared.unread (program.advance (.ofText .bytes) control count session world).2 =
      wide :: rest := by
  refine advance_world (R := fun before after : Shared =>
    before.unread = wide :: rest → after.unread = wide :: rest) ?_ ?_ ?_ ?_ count blocked
  · exact fun _ => id
  · exact fun first second => second ∘ first
  · rintro ⟨⟨unread, kept⟩, calls⟩ blocked
    obtain rfl : unread = wide :: rest := blocked
    rw [Device.read_ofText, Source.read_text_of_wide isWide]
  · exact fun _ _ => id

theorem unread_step {status : Status n} {after : Shared} (isWide : UInt8.size ≤ wide.toNat)
    (blocked : world.unread = wide :: rest)
    (stepped : program.step (.ofText .bytes) control session world = (status, after)) :
    after.unread = wide :: rest := by
  have left : Shared.unread (program.advance (.ofText .bytes) control 1 session world).2 =
    wide :: rest := unread_advance isWide blocked 1
  rw [advance_one, stepped] at left
  exact left

theorem failsAtInput_step {status : Status n} {after : Shared} (isWide : UInt8.size ≤ wide.toNat)
    (blocked : world.unread = wide :: rest)
    (stepped : program.step (.ofText .bytes) control session world = (status, after)) :
    FailsAtInput wide (program.events control session world) status := by
  have ended : (program.step (.ofText .bytes) control session world).1 = status :=
    congrArg Prod.fst stepped
  rw [← ended]
  rcases Nat.lt_or_ge session.position program.script.size with inside | outside
  · cases free : control.stop? session.steps world with
    | some error => exact .silent (by rw [events_of_stop free]; rfl)
    | none =>
      by_cases isInput : program.script[session.position] = ','
      · have announced : program.events control session world =
            [] ++ [.dispatch session.steps session.position session.tape.cursor session.tape.read
              ','] := by
          simp only [events, inside, ↓reduceDIte, free, isInput]
          rfl
        obtain ⟨⟨unread, kept⟩, calls⟩ := world
        obtain rfl : unread = wide :: rest := blocked
        rw [announced, step_of_inside inside free, isInput, dispatch_of_input rfl,
          Device.read_ofText, Source.read_text_of_wide isWide]
        exact .failed session rfl
      · exact .silent (by rw [filterMap_cellOn_events ',' inside free, if_neg isInput])
  · exact .silent (by rw [events_of_outside outside]; rfl)

/-- A session whose next character is too wide fails at the first input that it dispatches. -/
theorem failsAtInput_record (isWide : UInt8.size ≤ wide.toNat)
    (blocked : world.unread = wide :: rest) (count : Nat) :
    FailsAtInput wide (program.record (.ofText .bytes) control count #[] session world).1.toList
      (program.advance (.ofText .bytes) control count session world).1 := by
  refine record_induction (motive := fun (_ : Session n) (before : Shared) events status _ =>
    before.unread = wide :: rest → FailsAtInput wide events status) ?_ ?_ ?_ count session world
    blocked
  · exact fun _ _ _ => .silent rfl
  · intro session world next between events status after stepped fails blocked
    have silent := (failsAtInput_step isWide blocked stepped).silent_of_running
    exact (fails (unread_step isWide blocked stepped)).behind silent
  · intro session world status after stepped _ blocked
    exact failsAtInput_step isWide blocked stepped

/-- Reads and writes of a text and of kept bytes fail for a wide character only. -/
theorem exists_wide_of_io [HasCell n] {count position : Nat} {failure : IoFailure}
    {report : Report n Shared}
    (ran : program.run? (.ofText .bytes) control n count world = some report)
    (failed : report.result = .error (.io position failure)) :
    ∃ wide rest, UInt8.size ≤ wide.toNat ∧ failure = .wideCharacter wide ∧
      report.world.unread = wide :: rest := by
  obtain ⟨first, last, before, after, running, ends, closed⟩ := exists_endsIn_of_run? ran
  obtain ⟨result, -, left⟩ := Status.close?_eq_some_iff.mp closed
  rw [failed] at result
  generalize report.status = status at ends result
  cases ends with
  | executed => cases result
  | stopped _ stop =>
    cases result
    cases Control.position?_of_stop stop
  | exhausted => cases result
  | writeFailed _ answer => cases answer
  | readFailed _ answer =>
    cases result
    obtain ⟨⟨unread, kept⟩, calls⟩ := before
    rw [left]
    rw [Device.read_ofText] at answer ⊢
    cases unread with
    | nil => cases answer
    | cons character rest =>
      by_cases fits : character.toNat < UInt8.size
      · rw [Source.read_text_of_narrow fits] at answer
        cases answer
      · have isWide := Nat.not_lt.mp fits
        rw [Source.read_text_of_wide isWide] at answer ⊢
        cases answer
        exact ⟨character, rest, isWide, rfl, rfl⟩

end Program

/-! ## Sessions that share a text -/

/-- A session of any program under any control, run to its end in a world that it shares with others,
with its events. -/
structure SharingSession where
  program : Program
  cells : Nat
  [hasCell : HasCell cells]
  control : Control Shared
  before : Shared
  count : Nat
  events : Array Event
  report : Report cells Shared
  ran : program.runRecorded? (.ofText .bytes) control cells count before = some (events, report)

namespace SharingSession

variable {session : SharingSession} {wide : Char} {rest : List Char}

instance (session : SharingSession) : HasCell session.cells := session.hasCell

def after (session : SharingSession) : Shared := session.report.world

/-- What the record of a session and its report have to do with its steps. -/
theorem exists_left (session : SharingSession) :
    ∃ left : Shared,
      session.program.advance (.ofText .bytes) session.control session.count
          (Session.start session.cells) session.before = (session.report.status, left) ∧
        session.events.toList =
          (session.program.record (.ofText .bytes) session.control session.count #[]
              (Session.start session.cells) session.before).1.toList ++
            session.report.closingEvent?.toList ∧
          session.report.status.result? (.ok ()) = some session.report.result ∧
            session.after = (left.1, left.2 ++ [.flush (.ok ())]) := by
  obtain ⟨ran, events⟩ := Program.runRecorded?_eq_some_iff.mp session.ran
  obtain ⟨left, reached, closed⟩ := Program.advance_of_run? ran
  obtain ⟨result, -, flushed⟩ := Status.close?_eq_some_iff.mp closed
  exact ⟨left, reached, events, result, flushed⟩

theorem conserves (session : SharingSession) :
    Conserves session.events.toList session.before session.after := by
  obtain ⟨left, reached, events, -, after⟩ := session.exists_left
  have made : Conserves (session.program.record (.ofText .bytes) session.control session.count #[]
      (Session.start session.cells) session.before).1.toList session.before _ :=
    Program.conserves_record session.count
  rw [reached] at made
  rw [events, after]
  exact made.trans (.flush (session.report.filterMap_cellOn_closingEvent '.') left)

theorem unread_after (isWide : UInt8.size ≤ wide.toNat)
    (blocked : session.before.unread = wide :: rest) : session.after.unread = wide :: rest := by
  obtain ⟨left, reached, -, -, after⟩ := session.exists_left
  have kept : Shared.unread (session.program.advance (.ofText .bytes) session.control session.count
    (Session.start session.cells) session.before).2 = wide :: rest :=
      Program.unread_advance isWide blocked session.count
  rw [reached] at kept
  rw [after]
  exact kept

/-- A session that dispatches an input instruction while the next character is too wide ends there,
and dispatches no other one before. -/
theorem ends_of_dispatch (isWide : UInt8.size ≤ wide.toNat)
    (blocked : session.before.unread = wide :: rest) {step position cursor : Nat} {cell : UInt8}
    (dispatched : .dispatch step position cursor cell ',' ∈ session.events) :
    session.report.result = .error (.io position (.wideCharacter wide)) ∧
      ∃ front, front.filterMap (Event.cellOn? ',') = [] ∧
        session.events.toList = front ++ [.dispatch step position cursor cell ',',
          .aborted position step (.io position (.wideCharacter wide))] := by
  obtain ⟨left, reached, events, result, -⟩ := session.exists_left
  have fails : Program.FailsAtInput wide (session.program.record (.ofText .bytes) session.control
      session.count #[] (Session.start session.cells) session.before).1.toList _ :=
    Program.failsAtInput_record isWide blocked session.count
  rw [reached] at fails
  have announced := Array.mem_toList_iff.mpr dispatched
  rw [events, List.mem_append] at announced
  have notClosing : .dispatch step position cursor cell ',' ∉ session.report.closingEvent?.toList :=
    Event.not_mem_of_filterMap_cellOn (session.report.filterMap_cellOn_closingEvent ',')
  obtain ⟨front, last, none, recorded, rfl, rfl, status⟩ :=
    fails.of_mem (announced.resolve_right notClosing)
  have status : session.report.status = _ := status
  rw [status] at result
  have failed := (Option.some.inj result).symm
  refine ⟨failed, front, none, ?_⟩
  rw [events, recorded, List.append_assoc]
  simp only [Report.closingEvent?, status, failed]
  rfl

end SharingSession

/-- The sessions are run one after the other, each in the world that the one before it has left. -/
inductive InTurn : Shared → List SharingSession → Shared → Prop
  | nil (world : Shared) : InTurn world [] world
  | cons (session : SharingSession) {behind : List SharingSession} {final : Shared}
      (inTurn : InTurn session.after behind final) : InTurn session.before (session :: behind) final

namespace InTurn

variable {world final : Shared} {history : List SharingSession} {wide : Char} {rest : List Char}

theorem conserves (inTurn : InTurn world history final) :
    Conserves (history.flatMap fun session => session.events.toList) world final := by
  induction inTurn with
  | nil world => exact .unchanged rfl world
  | cons session inTurn ih => exact session.conserves.trans ih

/-- A history that goes on behind some sessions goes on in the world that they left. -/
theorem exists_of_append {front behind : List SharingSession}
    (inTurn : InTurn world (front ++ behind) final) : ∃ middle, InTurn middle behind final := by
  induction front generalizing world with
  | nil => exact ⟨world, inTurn⟩
  | cons session front ih =>
    cases inTurn with
    | cons _ inTurn => exact ih inTurn

/-- A character that is too wide stays in front of the text for all sessions to come. -/
theorem unread_before (inTurn : InTurn world history final) (isWide : UInt8.size ≤ wide.toNat)
    (blocked : world.unread = wide :: rest) :
    ∀ session ∈ history, session.before.unread = wide :: rest := by
  induction inTurn with
  | nil world => exact List.forall_mem_nil _
  | cons session inTurn ih =>
    exact List.forall_mem_cons.mpr ⟨blocked, ih (SharingSession.unread_after isWide blocked)⟩

/-- Over any history of sessions that share a text and keep their bytes in one place, every session
adds to the kept bytes the cells of the output instructions that it dispatched, in order, and takes
from the front of the text the characters that its reads delivered, in order, and so does the history
as a whole. A read that fails does so for a character that no cell can hold, and leaves it where it
is, so every later session fails in the same way at the first input instruction that it dispatches. -/
theorem history_conserves (inTurn : InTurn world history final) :
    (∀ session ∈ history, Conserves session.events.toList session.before session.after) ∧
    Conserves (history.flatMap fun session => session.events.toList) world final ∧
    ∀ front session behind position failure, history = front ++ session :: behind →
      session.report.result = .error (.io position failure) →
        ∃ wide rest, UInt8.size ≤ wide.toNat ∧ failure = .wideCharacter wide ∧
          failure.kind = .invalidData ∧ session.after.unread = wide :: rest ∧
            ∀ later ∈ behind, later.before.unread = wide :: rest ∧
              later.after.unread = wide :: rest ∧
                ∀ step position cursor cell,
                  .dispatch step position cursor cell ',' ∈ later.events →
                    later.report.result = .error (.io position (.wideCharacter wide)) ∧
                      ∃ others, others.filterMap (Event.cellOn? ',') = [] ∧
                        later.events.toList = others ++ [.dispatch step position cursor cell ',',
                          .aborted position step (.io position (.wideCharacter wide))] := by
  refine ⟨fun session _ => session.conserves, inTurn.conserves, ?_⟩
  rintro front session behind position failure rfl failed
  obtain ⟨ran, -⟩ := Program.runRecorded?_eq_some_iff.mp session.ran
  obtain ⟨wide, rest, isWide, rfl, left⟩ := Program.exists_wide_of_io ran failed
  obtain ⟨middle, inTurn⟩ := inTurn.exists_of_append
  cases inTurn with
  | cons _ inTurn =>
    refine ⟨wide, rest, isWide, rfl, rfl, left, fun later member => ?_⟩
    have blocked := inTurn.unread_before isWide left later member
    exact ⟨blocked, SharingSession.unread_after isWide blocked, fun _ _ _ _ =>
      SharingSession.ends_of_dispatch isWide blocked⟩

/-- A session that its limit stops leaves a wide character behind. The two sessions after it fail
where they read it, the second of them behind a byte that it has written. -/
theorem history_conserves_wide :
    ∃ stopped failed later : SharingSession,
      stopped.program.script = #[',', '.', '+'] ∧ failed.program.script = #['+', ','] ∧
      later.program.script = #['.', ',', '.'] ∧
      InTurn ((['a', 'λ'], #[]), []) [stopped, failed, later] later.after ∧
      stopped.report.result = .error (.stepLimitExceeded 2) ∧
      failed.report.result = .error (.io 1 (.wideCharacter 'λ')) ∧
      later.report.result = .error (.io 1 (.wideCharacter 'λ')) ∧
      later.after.kept = [97, 0] ∧ later.after.unread = ['λ'] ∧
      Conserves (stopped.events.toList ++ (failed.events.toList ++ (later.events.toList ++ [])))
        ((['a', 'λ'], #[]), []) later.after := by
  let stopped : SharingSession :=
    ⟨⟨#[',', '.', '+'], _, .default, rfl, rfl⟩, 1, ⟨some 2, fun _ _ => false⟩,
      ((['a', 'λ'], #[]), []), 3, _, _, rfl⟩
  let failed : SharingSession :=
    ⟨⟨#['+', ','], _, .default, rfl, rfl⟩, 1, .none, stopped.after, 2, _, _, rfl⟩
  let later : SharingSession :=
    ⟨⟨#['.', ',', '.'], _, .default, rfl, rfl⟩, 2, .none, failed.after, 4, _, _, rfl⟩
  have inTurn : InTurn ((['a', 'λ'], #[]), []) [stopped, failed, later] later.after :=
    .cons stopped (.cons failed (.cons later (.nil later.after)))
  obtain ⟨-, all, blocked⟩ := history_conserves inTurn
  obtain ⟨wide, rest, -, same, -, left, fails⟩ := blocked [stopped] failed [later] 1 _ rfl rfl
  have recorded : later.events = #[.dispatch 0 0 0 0 '.', .dispatch 1 1 0 0 ',',
      .aborted 1 1 (.io 1 (.wideCharacter 'λ'))] := rfl
  have dispatched : .dispatch 1 1 0 0 ',' ∈ later.events := by simp [recorded]
  obtain ⟨-, kept, fails⟩ := fails later (List.mem_singleton_self later)
  have failsToo := (fails 1 1 0 0 dispatched).1
  rw [← same] at failsToo
  exact ⟨stopped, failed, later, rfl, rfl, rfl, inTurn, rfl, rfl, failsToo, rfl, rfl, all⟩

end InTurn

end TapeMachine
