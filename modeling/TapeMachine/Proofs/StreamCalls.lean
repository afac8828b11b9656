import TapeMachine.Device.Scripted
import TapeMachine.Proofs.Conservation

/-! # The calls of scripted streams

A call of a stream is made again as long as it is interrupted, and then comes to what the first other
item says. So each call uses up some interruptions and at most one item more, from the front of what
is prepared. Over any calls this adds up: no byte is lost or doubled, and the streams are called once
for each call and once more for each interruption.
-/

namespace TapeMachine

/-- A list begins with what interrupts, and behind it stands something else or nothing. -/
theorem exists_interruptions {Item : Type} (interrupts : Item → Bool) (items : List Item) :
    ∃ skipped rest, items = skipped ++ rest ∧ (∀ item ∈ skipped, interrupts item) ∧
      ∀ item ∈ rest.head?, ¬interrupts item := by
  refine ⟨items.takeWhile interrupts, items.dropWhile interrupts,
    List.takeWhile_append_dropWhile.symm, List.all_eq_true.mp List.all_takeWhile, ?_⟩
  intro item first
  have stays := List.head?_dropWhile_not interrupts items
  rw [Option.mem_def.mp first] at stays
  simpa using stays

/-! ## Readers -/

namespace ReadItem

/-- A call with this answer is made again. -/
def interrupts : ReadItem → Bool
  | interrupted => true
  | fail failure => failure.kind = .interrupted
  | byte _ | endOfFile => false

/-- The byte that a call delivers. -/
def byte? : ReadItem → Option UInt8
  | byte value => some value
  | _ => none

/-- What a call comes to that is not made again. -/
def answer : ReadItem → Except IoFailure (Option UInt8)
  | byte value => .ok (some value)
  | endOfFile => .ok none
  | interrupted => .error .interrupted
  | fail failure => .error failure

/-- A call that is interrupted delivers nothing. -/
theorem filterMap_byte_of_interrupts {skipped : List ReadItem}
    (all : ∀ item ∈ skipped, item.interrupts) : skipped.filterMap byte? = [] := by
  apply List.filterMap_eq_nil_iff.mpr
  intro item member
  cases item with
  | byte value => cases all _ member
  | endOfFile | interrupted | fail failure => rfl

end ReadItem

namespace ScriptedReader

theorem readFrom_interrupted {skipped : List ReadItem} (all : ∀ item ∈ skipped, item.interrupts)
    (calls : Nat) (items : List ReadItem) :
    readFrom calls (skipped ++ items) = readFrom (calls + skipped.length) items := by
  induction skipped generalizing calls with
  | nil => rfl
  | cons item skipped ih =>
    have first := all item (List.mem_cons_self ..)
    have step : readFrom calls (item :: (skipped ++ items)) =
        readFrom (calls + 1) (skipped ++ items) := by
      cases item with
      | byte | endOfFile => cases first
      | interrupted => rfl
      | fail failure => exact if_pos (of_decide_eq_true first)
    rw [List.cons_append, step, ih fun other member => all other (List.mem_cons_of_mem _ member),
      List.length_cons, Nat.add_assoc, Nat.add_comm 1]

theorem readFrom_cons {item : ReadItem} (final : ¬item.interrupts) (calls : Nat)
    (rest : List ReadItem) :
    readFrom calls (item :: rest) = (item.answer, ⟨rest, calls + 1⟩) := by
  cases item with
  | byte | endOfFile => rfl
  | interrupted => exact absurd rfl final
  | fail failure => exact if_neg fun same => final (decide_eq_true same)

/-- A call uses up items from the front. It is made again for each interruption among them, and what
they deliver is its answer. -/
theorem exists_consumed (calls : Nat) (items : List ReadItem) :
    ∃ consumed, items = consumed ++ (readFrom calls items).2.items ∧
      (readFrom calls items).2.calls = calls + 1 + consumed.countP ReadItem.interrupts ∧
      consumed.filterMap ReadItem.byte? = CallLog.input [.read (readFrom calls items).1] := by
  obtain ⟨skipped, rest, rfl, all, final⟩ := exists_interruptions ReadItem.interrupts items
  have counted : skipped.countP ReadItem.interrupts = skipped.length := List.countP_eq_length.mpr all
  have silent := ReadItem.filterMap_byte_of_interrupts all
  rw [readFrom_interrupted all]
  cases rest with
  | nil =>
    refine ⟨skipped, rfl, ?_, silent⟩
    simp only [readFrom]
    omega
  | cons item rest =>
    have final := final item rfl
    rw [readFrom_cons final]
    refine ⟨skipped ++ [item], by simp, ?_, ?_⟩
    · rw [List.countP_append, List.countP_singleton, if_neg final, counted]
      exact Nat.add_right_comm calls skipped.length 1
    · rw [List.filterMap_append, silent]
      cases item <;> rfl

end ScriptedReader

/-! ## Writers -/

namespace WriteItem

/-- A call with this answer is made again. -/
def interrupts : WriteItem → Bool
  | interrupted => true
  | fail failure => failure.kind = .interrupted
  | ok | zero => false

/-- What a call comes to that is not made again. -/
def answer : WriteItem → Except IoFailure Unit
  | ok => .ok ()
  | zero => .error .writeZero
  | interrupted => .error .interrupted
  | fail failure => .error failure

end WriteItem

namespace ScriptedWriter

/-- The writer behind a call with that answer, with the items that are left then. -/
def answered (writer : ScriptedWriter) (value : UInt8) (answer : Except IoFailure Unit)
    (left : List WriteItem) : ScriptedWriter :=
  { writer with
    writes := left
    taken := writer.taken ++ (CallLog.output [.write value answer]).toArray
    writeCalls := writer.writeCalls + 1 }

theorem writeTo_interrupted {skipped : List WriteItem} (all : ∀ item ∈ skipped, item.interrupts)
    (writer : ScriptedWriter) (value : UInt8) (items : List WriteItem) :
    writer.writeTo value (skipped ++ items) =
      writeTo { writer with writeCalls := writer.writeCalls + skipped.length } value items := by
  induction skipped generalizing writer with
  | nil => rfl
  | cons item skipped ih =>
    have first := all item (List.mem_cons_self ..)
    have step : writer.writeTo value (item :: (skipped ++ items)) =
        writeTo { writer with writeCalls := writer.writeCalls + 1 } value (skipped ++ items) := by
      cases item with
      | ok | zero => cases first
      | interrupted => rfl
      | fail failure => exact if_pos (of_decide_eq_true first)
    rw [List.cons_append, step, ih fun other member => all other (List.mem_cons_of_mem _ member),
      List.length_cons, Nat.add_comm skipped.length 1, ← Nat.add_assoc]

theorem writeTo_nil (writer : ScriptedWriter) (value : UInt8) :
    writer.writeTo value [] = (.ok (), writer.answered value (.ok ()) []) := rfl

theorem writeTo_cons {item : WriteItem} (final : ¬item.interrupts) (writer : ScriptedWriter)
    (value : UInt8) (rest : List WriteItem) :
    writer.writeTo value (item :: rest) = (item.answer, writer.answered value item.answer rest) := by
  cases item with
  | ok | zero => rfl
  | interrupted => exact absurd rfl final
  | fail failure => exact if_neg fun same => final (decide_eq_true same)

/-- The answer to a flush is the next one prepared. -/
theorem flush_fst_congr {writer other : ScriptedWriter} (same : other.flushes = writer.flushes) :
    other.flush.1 = writer.flush.1 := by
  simp only [flush, same]
  split <;> rfl

theorem flush_snd (writer : ScriptedWriter) :
    writer.flush.2 =
      { writer with flushes := writer.flushes.tail, flushCalls := writer.flushCalls + 1 } := by
  unfold flush
  split <;> rfl

/-- A call hands its byte over once, or not at all if it fails, and uses up items from the front. It is
made again for each interruption among them. -/
theorem exists_consumed (writer : ScriptedWriter) (value : UInt8) (items : List WriteItem) :
    ∃ consumed, items = consumed ++ (writer.writeTo value items).2.writes ∧
      (writer.writeTo value items).2.writeCalls =
        writer.writeCalls + 1 + consumed.countP WriteItem.interrupts ∧
      (writer.writeTo value items).2.taken.toList =
        writer.taken.toList ++ CallLog.output [.write value (writer.writeTo value items).1] ∧
      (writer.writeTo value items).2.flushCalls = writer.flushCalls := by
  obtain ⟨skipped, rest, rfl, all, final⟩ := exists_interruptions WriteItem.interrupts items
  have counted : skipped.countP WriteItem.interrupts = skipped.length := List.countP_eq_length.mpr all
  rw [writeTo_interrupted all]
  cases rest with
  | nil =>
    rw [writeTo_nil]
    refine ⟨skipped, rfl, ?_, by simp [answered], rfl⟩
    rw [counted]
    exact Nat.add_right_comm writer.writeCalls skipped.length 1
  | cons item rest =>
    have final := final item rfl
    rw [writeTo_cons final]
    refine ⟨skipped ++ [item], by simp [answered], ?_, by simp [answered], rfl⟩
    rw [List.countP_append, List.countP_singleton, if_neg final, counted]
    exact Nat.add_right_comm writer.writeCalls skipped.length 1

end ScriptedWriter

/-! ## Both together -/

/-- Two streams: one that is read, and one that is written. -/
abbrev Streams := ScriptedReader × ScriptedWriter

abbrev Device.streams : Device Streams := .ofEnds .stream .stream

def Call.isRead : Call → Bool
  | .read _ => true
  | _ => false

def Call.isWrite : Call → Bool
  | .write _ _ => true
  | _ => false

def Call.isFlush : Call → Bool
  | .flush _ => true
  | _ => false

/-- Between two worlds the calls have used up items from the front of both lists. The streams were
called once for each call and once more for each interruption. The bytes among the items were
delivered, and those that were handed over were taken, each once and in order. -/
structure Consumes (before after : Streams × CallLog) (calls : CallLog) (readItems : List ReadItem)
    (writeItems : List WriteItem) : Prop where
  log : after.2 = before.2 ++ calls
  items : before.1.1.items = readItems ++ after.1.1.items
  writes : before.1.2.writes = writeItems ++ after.1.2.writes
  readCalls : after.1.1.calls =
    before.1.1.calls + calls.countP Call.isRead + readItems.countP ReadItem.interrupts
  writeCalls : after.1.2.writeCalls =
    before.1.2.writeCalls + calls.countP Call.isWrite + writeItems.countP WriteItem.interrupts
  flushCalls : after.1.2.flushCalls = before.1.2.flushCalls + calls.countP Call.isFlush
  input : readItems.filterMap ReadItem.byte? = calls.input
  taken : after.1.2.taken.toList = before.1.2.taken.toList ++ calls.output

namespace Consumes

theorem refl (world : Streams × CallLog) : Consumes world world [] [] [] where
  log := (List.append_nil _).symm
  items := rfl
  writes := rfl
  readCalls := rfl
  writeCalls := rfl
  flushCalls := rfl
  input := rfl
  taken := (List.append_nil _).symm

theorem trans {first second third : Streams × CallLog} {calls more : CallLog}
    {readItems moreReads : List ReadItem} {writeItems moreWrites : List WriteItem}
    (consumes : Consumes first second calls readItems writeItems)
    (next : Consumes second third more moreReads moreWrites) :
    Consumes first third (calls ++ more) (readItems ++ moreReads) (writeItems ++ moreWrites) where
  log := by rw [next.log, consumes.log, List.append_assoc]
  items := by rw [consumes.items, next.items, List.append_assoc]
  writes := by rw [consumes.writes, next.writes, List.append_assoc]
  readCalls := by
    rw [next.readCalls, consumes.readCalls, List.countP_append, List.countP_append]
    omega
  writeCalls := by
    rw [next.writeCalls, consumes.writeCalls, List.countP_append, List.countP_append]
    omega
  flushCalls := by
    rw [next.flushCalls, consumes.flushCalls, List.countP_append, Nat.add_assoc]
  input := by
    rw [List.filterMap_append, consumes.input, next.input, CallLog.input_append]
  taken := by
    rw [next.taken, consumes.taken, List.append_assoc]
    exact congrArg _ List.filterMap_append.symm

/-- One call of the source is one call in the log. -/
theorem exists_read (world : Streams × CallLog) :
    ∃ readItems, Consumes world (Device.streams.logged.read world).2
      [.read (Source.stream.read world.1.1).1] readItems [] := by
  obtain ⟨consumed, items, calls, input⟩ :=
    ScriptedReader.exists_consumed world.1.1.calls world.1.1.items
  exact ⟨consumed,
    { log := rfl
      items
      writes := rfl
      readCalls := calls
      writeCalls := rfl
      flushCalls := rfl
      input
      taken := (List.append_nil _).symm }⟩

theorem exists_write (byte : UInt8) (world : Streams × CallLog) :
    ∃ writeItems, Consumes world (Device.streams.logged.write byte world).2
      [.write byte (Sink.stream.write byte world.1.2).1] [] writeItems := by
  obtain ⟨consumed, writes, calls, taken, flushCalls⟩ :=
    ScriptedWriter.exists_consumed world.1.2 byte world.1.2.writes
  exact ⟨consumed,
    { log := rfl
      items := rfl
      writes
      readCalls := rfl
      writeCalls := calls
      flushCalls
      input := rfl
      taken }⟩

theorem flush (world : Streams × CallLog) :
    Consumes world (Device.streams.logged.flush world).2
      [.flush (Sink.stream.flush world.1.2).1] [] [] := by
  have called : (Device.streams.logged.flush world).2.1.2 =
      { world.1.2 with
        flushes := world.1.2.flushes.tail, flushCalls := world.1.2.flushCalls + 1 } :=
    world.1.2.flush_snd
  exact
    { log := rfl
      items := rfl
      writes := by rw [called]; rfl
      readCalls := rfl
      writeCalls := by rw [called]; rfl
      flushCalls := by rw [called]; rfl
      input := rfl
      taken := by rw [called]; exact (List.append_nil _).symm }

end Consumes

end TapeMachine
