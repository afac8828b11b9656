import TapeMachine.Proofs.Parallel
import TapeMachine.Proofs.StreamCalls
import TapeMachine.Session.OneShot

/-! # Interruptions are not noticed

A call of a stream that is interrupted is made again, so a session does not learn of it. If all
interruptions are taken out of the prepared answers, every session makes the same dispatches, gets
the same answers, and ends in the same way. What differs is only the number of calls that the reader
and the writer see, and the difference is the number of interruptions that were used up.
-/

namespace TapeMachine

universe u

/-! ## Streams without interruptions -/

/-- Interruptions are gone behind a filter that takes them out. -/
theorem filter_interruptions {Item : Type} {interrupts : Item → Bool} {skipped : List Item}
    (all : ∀ item ∈ skipped, interrupts item) (rest : List Item) :
    (skipped ++ rest).filter (!interrupts ·) = rest.filter (!interrupts ·) := by
  rw [List.filter_append, List.filter_eq_nil_iff.mpr, List.nil_append]
  intro item member
  simp [all item member]

namespace ScriptedReader

/-- The reader without the interruptions that it still has. -/
def calm (reader : ScriptedReader) : ScriptedReader :=
  { reader with items := reader.items.filter (!·.interrupts) }

/-- Without interruptions a call is made once. It has the same answer and leaves the same items. -/
theorem readFrom_filter (calls callsToo : Nat) (items : List ReadItem) :
    readFrom callsToo (items.filter (!·.interrupts)) =
      ((readFrom calls items).1,
        ⟨(readFrom calls items).2.items.filter (!·.interrupts), callsToo + 1⟩) := by
  obtain ⟨skipped, rest, rfl, all, final⟩ := exists_interruptions ReadItem.interrupts items
  rw [filter_interruptions all, readFrom_interrupted all]
  cases rest with
  | nil => rfl
  | cons item rest =>
    have final := final item rfl
    rw [List.filter_cons_of_pos (by simp [final]), readFrom_cons final, readFrom_cons final]

end ScriptedReader

def ScriptedWriter.calm (writer : ScriptedWriter) : ScriptedWriter :=
  { writer with writes := writer.writes.filter (!·.interrupts) }

/-- The second streams are the first ones without the interruptions, whatever calls were made. -/
structure Calmed (streams calm : Streams) : Prop where
  items : calm.1.items = streams.1.items.filter (!·.interrupts)
  writes : calm.2.writes = streams.2.writes.filter (!·.interrupts)
  flushes : calm.2.flushes = streams.2.flushes
  taken : calm.2.taken = streams.2.taken
  flushCalls : calm.2.flushCalls = streams.2.flushCalls

theorem calmed_calm (streams : Streams) : Calmed streams (streams.1.calm, streams.2.calm) :=
  ⟨rfl, rfl, rfl, rfl, rfl⟩

namespace Calmed

variable {streams calm : Streams} (calmed : Calmed streams calm)

include calmed

theorem read : (Source.stream.read calm.1).1 = (Source.stream.read streams.1).1 ∧
    Calmed ((Source.stream.read streams.1).2, streams.2) ((Source.stream.read calm.1).2, calm.2) ∧
      (Source.stream.read calm.1).2.calls = calm.1.calls + 1 := by
  have called : Source.stream.read calm.1 = _ :=
    ScriptedReader.readFrom_filter streams.1.calls calm.1.calls streams.1.items ▸
      congrArg (ScriptedReader.readFrom calm.1.calls) calmed.items
  rw [called]
  exact ⟨rfl, { calmed with items := rfl }, rfl⟩

theorem write (byte : UInt8) :
    (Sink.stream.write byte calm.2).1 = (Sink.stream.write byte streams.2).1 ∧
      Calmed (streams.1, (Sink.stream.write byte streams.2).2)
        (calm.1, (Sink.stream.write byte calm.2).2) ∧
      (Sink.stream.write byte calm.2).2.writeCalls = calm.2.writeCalls + 1 := by
  obtain ⟨skipped, rest, split, all, final⟩ :=
    exists_interruptions WriteItem.interrupts streams.2.writes
  have left := calmed.writes
  rw [split, filter_interruptions all] at left
  simp only [Sink.stream, split, left, ScriptedWriter.writeTo_interrupted all]
  cases rest with
  | nil =>
    refine ⟨rfl, { calmed with writes := rfl, taken := ?_ }, rfl⟩
    exact congrArg (Array.push · byte) calmed.taken
  | cons item rest =>
    have final := final item rfl
    rw [List.filter_cons_of_pos (by simp [final]), ScriptedWriter.writeTo_cons final,
      ScriptedWriter.writeTo_cons final]
    refine ⟨rfl, { calmed with writes := rfl, taken := ?_ }, rfl⟩
    exact congrArg (· ++ _) calmed.taken

theorem flush : (Sink.stream.flush calm.2).1 = (Sink.stream.flush streams.2).1 ∧
    Calmed (streams.1, (Sink.stream.flush streams.2).2)
      (calm.1, (Sink.stream.flush calm.2).2) := by
  refine ⟨ScriptedWriter.flush_fst_congr calmed.flushes, ?_⟩
  simp only [Sink.stream, ScriptedWriter.flush_snd]
  exact { calmed with
    flushes := congrArg List.tail calmed.flushes
    flushCalls := congrArg (· + 1) calmed.flushCalls }

end Calmed

/-- Interruptions change no answer. -/
theorem answersAlike_calmed : AnswersAlike id Calmed .streams .streams where
  read {streams _} calmed := by
    obtain ⟨same, after, -⟩ := calmed.read
    exact ⟨same.trans (map_id_answer (Source.stream.read streams.1).1).symm, after⟩
  write calmed byte := ⟨(calmed.write byte).1, (calmed.write byte).2.1⟩
  flush calmed := calmed.flush

/-- The calm streams have given the same answers since `start`, and have seen one call less for each
interruption that was used up. -/
structure CalmedSince (start world calm : Streams × CallLog) : Prop where
  calmed : Calmed world.1 calm.1
  log : calm.2 = world.2
  consumed : ∃ calls readItems writeItems, Consumes start world calls readItems writeItems ∧
    world.1.1.calls = calm.1.1.calls + readItems.countP ReadItem.interrupts ∧
    world.1.2.writeCalls = calm.1.2.writeCalls + writeItems.countP WriteItem.interrupts

theorem answersAlike_calmedSince (start : Streams × CallLog) :
    AnswersAlike id (CalmedSince start) Device.streams.logged Device.streams.logged where
  read {world calm} since := by
    obtain ⟨calmed, log, calls, readItems, writeItems, consumes, readCalls, writeCalls⟩ := since
    obtain ⟨same, after, once⟩ := calmed.read
    obtain ⟨more, next⟩ := Consumes.exists_read world
    refine ⟨same.trans (map_id_answer _).symm, after, ?_, _, _, _, consumes.trans next, ?_, ?_⟩
    · exact congrArg₂ (fun (log : CallLog) answer => log ++ [.read answer]) log same
    · rw [next.readCalls, readCalls, List.countP_append, List.countP_singleton]
      change _ = (Source.stream.read calm.1.1).2.calls + _
      rw [once]
      simp only [Call.isRead, ↓reduceIte]
      omega
    · rw [List.append_nil]
      exact writeCalls
  write {world calm} since byte := by
    obtain ⟨calmed, log, calls, readItems, writeItems, consumes, readCalls, writeCalls⟩ := since
    obtain ⟨same, after, once⟩ := calmed.write byte
    obtain ⟨more, next⟩ := Consumes.exists_write byte world
    refine ⟨same, after, ?_, _, _, _, consumes.trans next, ?_, ?_⟩
    · exact congrArg₂ (fun (log : CallLog) answer => log ++ [.write byte answer]) log same
    · rw [List.append_nil]
      exact readCalls
    · rw [next.writeCalls, writeCalls, List.countP_append, List.countP_singleton]
      change _ = (Sink.stream.write byte calm.1.2).2.writeCalls + _
      rw [once]
      simp only [Call.isWrite, ↓reduceIte]
      omega
  flush {world calm} since := by
    obtain ⟨calmed, log, calls, readItems, writeItems, consumes, readCalls, writeCalls⟩ := since
    obtain ⟨same, after⟩ := calmed.flush
    refine ⟨same, after, ?_, _, _, _, consumes.trans (.flush world), ?_, ?_⟩
    · exact congrArg₂ (fun (log : CallLog) answer => log ++ [.flush answer]) log same
    · rw [List.append_nil]
      exact readCalls
    · have kept (writer : ScriptedWriter) :
          (Sink.stream.flush writer).2.writeCalls = writer.writeCalls := by
        rw [Sink.stream, writer.flush_snd]
      rw [List.append_nil]
      exact (kept _).trans (writeCalls.trans (congrArg (· + _) (kept calm.1.2).symm))

/-! ## Sessions without interruptions -/

/-- The control that sees the calls of a session, and nothing else of its world. -/
def Control.ofCalls {World : Type u} (control : Control CallLog) : Control (World × CallLog) where
  maxSteps := control.maxSteps
  flag steps world := control.flag steps world.2

namespace Program

variable {n : Nat} [HasCell n] (program : Program) {control : Control (Streams × CallLog)}
  {world : Streams × CallLog} {first count : Nat} {last : Session n} {streams : Streams}
  {calls : CallLog}
  (reached : program.advance Device.streams.logged control first (Session.start n) world =
    (.running last, (streams, calls)))
  (free : control.stop? last.steps (streams, calls) = none)

include reached free

/-- The end of a file ends the session that meets it, and the items behind it stay. -/
theorem run?_of_endOfFile {interruptions behind : List ReadItem}
    (isInput : program.script[last.position]? = some ',')
    (items : streams.1.items = interruptions ++ .endOfFile :: behind)
    (all : ∀ item ∈ interruptions, item.interrupts) (lt : first < count) :
    ∃ report, program.run? Device.streams.logged control n count world = some report ∧
      report.result = .error (.noMoreInput last.position) ∧
      report.world.1.1 = ⟨behind, streams.1.calls + interruptions.length + 1⟩ := by
  have called : Source.stream.read streams.1 =
      (.ok none, ⟨behind, streams.1.calls + interruptions.length + 1⟩) := by
    change ScriptedReader.readFrom streams.1.calls streams.1.items = _
    rw [items, ScriptedReader.readFrom_interrupted all, ScriptedReader.readFrom_cons (by decide)]
    rfl
  have ends : program.EndsIn Device.streams.logged control last (streams, calls) _ _ :=
    .exhausted isInput (congrArg Prod.fst called) free
  exact ⟨_, ends.run?_of_running reached lt, rfl, congrArg Prod.snd called⟩

/-- A write that takes nothing ends the session that makes it, and nothing more is taken. -/
theorem run?_of_zero {interruptions behind : List WriteItem}
    (isOutput : program.script[last.position]? = some '.')
    (writes : streams.2.writes = interruptions ++ .zero :: behind)
    (all : ∀ item ∈ interruptions, item.interrupts) (lt : first < count) :
    ∃ report, program.run? Device.streams.logged control n count world = some report ∧
      report.result = .error (.io last.position .writeZero) ∧
      report.world.1.2.writes = behind ∧ report.world.1.2.taken = streams.2.taken := by
  have called : Sink.stream.write last.tape.read streams.2 =
      (.error .writeZero, { streams.2 with
        writes := behind, writeCalls := streams.2.writeCalls + interruptions.length + 1 }) := by
    change ScriptedWriter.writeTo streams.2 last.tape.read streams.2.writes = _
    rw [writes, ScriptedWriter.writeTo_interrupted all, ScriptedWriter.writeTo_cons (by decide)]
    rfl
  have ends : program.EndsIn Device.streams.logged control last (streams, calls) _ _ :=
    .writeFailed isOutput (congrArg Prod.fst called) free
  have flushed : (Sink.stream.flush (Sink.stream.write last.tape.read streams.2).2).2 =
      { streams.2 with
        writes := behind
        writeCalls := streams.2.writeCalls + interruptions.length + 1
        flushes := streams.2.flushes.tail
        flushCalls := streams.2.flushCalls + 1 } := by
    rw [called]
    exact ScriptedWriter.flush_snd _
  have taken := congrArg ScriptedWriter.taken flushed
  exact ⟨_, ends.run?_of_running reached lt, rfl, congrArg ScriptedWriter.writes flushed, taken⟩

end Program

namespace Script

variable (script : Script) (reader : ScriptedReader) (writer : ScriptedWriter)

/-- In one go, too, a script gives the same answer without interruptions, refused or not. -/
theorem runStream?_calm (count : Nat) :
    Option.Rel (fun ran calm => calm.1 = ran.1 ∧ Calmed ran.2 calm.2)
      (script.runStream? count reader writer)
      (script.runStream? count reader.calm writer.calm) := by
  have calmed := calmed_calm (reader, writer)
  unfold runStream? run?
  cases Program.load script with
  | error unmatched => exact .some ⟨rfl, calmed⟩
  | ok program =>
    have runs : RunsAlike id (Eq (α := Tape defaultCells)) Calmed count program .streams .none
        (reader, writer) program .streams .none (reader.calm, writer.calm) :=
      program.runsAlike_of_answers answersAlike_calmed (fun _ _ => rfl) calmed count
    simp only [Option.map_map]
    apply rel_map _ runs.report
    intro report calm alike
    exact ⟨by simp only [Function.comp, alike.result.eq], alike.world⟩

/-- Interruptions are not noticed. Whatever is prepared in a reader and a writer, with all
interruptions taken out a session makes the same dispatches and calls, gets the same answers, and
ends in the same way or not at all either, and the same bytes are taken. Each byte that was used up
was delivered, and each byte that was handed over was taken, once and in order. The reader and the
writer saw one more call for each interruption that they used up. A script that is run in one go
gives the same answer, refused or not. Where the next item of the reader is the end of its file, the
session ends, and the items behind it stay. Where the next write takes nothing, the session fails
there, and the bytes taken are those of the outputs before. -/
theorem interruptions_invisible :
    (∀ count, Option.Rel (fun ran calm => calm.1 = ran.1 ∧ Calmed ran.2 calm.2)
      (script.runStream? count reader writer)
      (script.runStream? count reader.calm writer.calm)) ∧
    ∀ (program : Program), program.script = script →
      ∀ (n : Nat) [HasCell n] (control : Control CallLog),
      (∀ count, RunsAlike id (Eq (α := Tape n)) (CalmedSince ((reader, writer), [])) count
        program Device.streams.logged control.ofCalls ((reader, writer), [])
        program Device.streams.logged control.ofCalls ((reader.calm, writer.calm), [])) ∧
      ∀ first last streams calls,
        program.advance Device.streams.logged control.ofCalls first (Session.start n)
          ((reader, writer), []) = (.running last, (streams, calls)) →
        control.stop? last.steps calls = none →
        (∀ interruptions behind, script[last.position]? = some ',' →
          streams.1.items = interruptions ++ .endOfFile :: behind →
          (∀ item ∈ interruptions, item.interrupts) →
          ∀ count, first < count → ∃ report,
            program.run? Device.streams.logged control.ofCalls n count ((reader, writer), []) =
              some report ∧
            report.result = .error (.noMoreInput last.position) ∧
            report.world.1.1 = ⟨behind, streams.1.calls + interruptions.length + 1⟩) ∧
        ∀ interruptions behind, script[last.position]? = some '.' →
          streams.2.writes = interruptions ++ .zero :: behind →
          (∀ item ∈ interruptions, item.interrupts) →
          ∀ count, first < count → ∃ report,
            program.run? Device.streams.logged control.ofCalls n count ((reader, writer), []) =
              some report ∧
            report.result = .error (.io last.position .writeZero) ∧
            report.world.1.2.writes = behind ∧
            report.world.1.2.taken.toList = writer.taken.toList ++
              (program.record Device.streams.logged control.ofCalls first #[] (Session.start n)
                ((reader, writer), [])).1.toList.filterMap (Event.cellOn? '.') := by
  refine ⟨runStream?_calm script reader writer, fun program same n _ control => ?_⟩
  subst same
  have runs (count : Nat) : RunsAlike id (Eq (α := Tape n)) (CalmedSince ((reader, writer), []))
      count program Device.streams.logged control.ofCalls ((reader, writer), [])
      program Device.streams.logged control.ofCalls ((reader.calm, writer.calm), []) := by
    apply program.runsAlike_of_answers (answersAlike_calmedSince _)
    · intro world calm since steps
      exact congrArg (control.stop? steps) since.log
    · exact ⟨calmed_calm (reader, writer), rfl, [], [], [], .refl _, rfl, rfl⟩
  refine ⟨runs, fun first last streams calls reached free =>
    ⟨fun interruptions behind isInput items all count lt =>
      program.run?_of_endOfFile reached free isInput items all lt,
      fun interruptions behind isOutput writes all count lt => ?_⟩⟩
  obtain ⟨report, ran, result, left, taken⟩ :=
    program.run?_of_zero reached free isOutput writes all lt
  obtain ⟨-, -, made, readItems, writeItems, consumes, -, -⟩ := (runs first).record.world
  rw [Program.record_snd, reached] at consumes
  have log : calls = made := consumes.log
  have earlier : streams.2.taken.toList = writer.taken.toList ++ CallLog.output calls :=
    log ▸ consumes.taken
  rw [Program.output_of_running reached] at earlier
  exact ⟨report, ran, result, left, taken ▸ earlier⟩

/-- A session that reads a byte behind one interruption and meets the end of a file behind another
leaves the byte behind it. One that writes two bytes fails at the second, which is not taken. -/
theorem interruptions_invisible_twice :
    (∃ program report, Program.load #[',', '.', ','] = .ok program ∧
      program.run? Device.streams.logged (.ofCalls .none) 1 4
        ((.ofItems [.interrupted, .byte 65, .fail ⟨.interrupted, "again"⟩, .endOfFile, .byte 66],
          .ofItems [.interrupted] []), []) = some report ∧
      report.result = .error (.noMoreInput 2) ∧ report.world.1.1 = ⟨[.byte 66], 4⟩) ∧
    ∃ program report, Program.load #['.', '+', '.'] = .ok program ∧
      program.run? Device.streams.logged (.ofCalls .none) 1 4
        ((.ofItems [], .ofItems [.ok, .interrupted, .zero, .ok] []), []) = some report ∧
      report.result = .error (.io 2 .writeZero) ∧ report.world.1.2.taken.toList = [0] := by
  constructor
  · let program : Program := ⟨#[',', '.', ','], _, .default, rfl, rfl⟩
    have meets := ((interruptions_invisible program.script
      (.ofItems [.interrupted, .byte 65, .fail ⟨.interrupted, "again"⟩, .endOfFile, .byte 66])
      (.ofItems [.interrupted] [])).2 program rfl 1 .none).2 2 _ _ _ rfl rfl
    obtain ⟨report, ran, result, left⟩ := meets.1 [.fail ⟨.interrupted, "again"⟩] [.byte 66] rfl rfl
      (by simp [ReadItem.interrupts]) 4 (by decide)
    exact ⟨program, report, rfl, ran, result, left⟩
  · let program : Program := ⟨#['.', '+', '.'], _, .default, rfl, rfl⟩
    have meets := ((interruptions_invisible program.script (.ofItems [])
      (.ofItems [.ok, .interrupted, .zero, .ok] [])).2 program rfl 1 .none).2 2 _ _ _ rfl rfl
    obtain ⟨report, ran, result, -, taken⟩ := meets.2 [.interrupted] [.ok] rfl rfl
      (by simp [WriteItem.interrupts]) 4 (by decide)
    exact ⟨program, report, rfl, ran, result, taken⟩

end Script

end TapeMachine
