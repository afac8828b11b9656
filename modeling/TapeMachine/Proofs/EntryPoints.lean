import TapeMachine.Proofs.Ending
import TapeMachine.Proofs.Following
import TapeMachine.Session.OneShot

/-! # A text and a stream of its bytes

A script can be run on a text or on a stream. If the reader serves the characters of the text as
bytes, and fails where a character is wider than a byte, the two runs make the same steps. They go
on forever together, fail with the same error, or end with the same bytes, which the one hands over
as characters. What a run prints consists of such characters, so it can always be read again.
-/

namespace TapeMachine

/-- The item that serves a character as the byte of the same value. -/
def ReadItem.ofChar (character : Char) : ReadItem := .byte character.toNat.toUInt8

/-- The items serve a text up to its end, or up to a character that is wider than a byte. -/
inductive Serves : List Char → List ReadItem → Prop
  | finished {ending : List ReadItem} (ended : ∀ item ∈ ending.head?, item = .endOfFile) :
      Serves [] ending
  | narrow {character : Char} {text : List Char} {items : List ReadItem}
      (fits : character.toNat < UInt8.size) (rest : Serves text items) :
      Serves (character :: text) (.ofChar character :: items)
  | wide {character : Char} {text : List Char} {items : List ReadItem}
      (isWide : UInt8.size ≤ character.toNat) :
      Serves (character :: text) (.fail (.wideCharacter character) :: items)

namespace Serves

variable {text : List Char} {reader : ScriptedReader}

/-- A reader with such items answers as the text does. -/
theorem read_eq (serves : Serves text reader.items) :
    (Source.stream.read reader).1 = (Source.text.read text).1 := by
  obtain ⟨items, calls⟩ := reader
  cases serves with
  | finished ended =>
    cases items with
    | nil => rfl
    | cons item rest =>
      obtain rfl := ended item rfl
      rfl
  | narrow fits rest =>
    rw [Source.read_text_of_narrow fits]
    rfl
  | wide isWide =>
    rw [Source.read_text_of_wide isWide]
    rfl

/-- Behind a byte it goes on serving the text. -/
theorem of_served (serves : Serves text reader.items) {byte : UInt8}
    (served : (Source.text.read text).1 = .ok (some byte)) :
    Serves (Source.text.read text).2 (Source.stream.read reader).2.items := by
  obtain ⟨items, calls⟩ := reader
  cases serves with
  | finished ended => cases served
  | narrow fits rest =>
    rw [Source.read_text_of_narrow fits]
    exact rest
  | wide isWide =>
    rw [Source.read_text_of_wide isWide] at served
    cases served

theorem append {front behind : List Char} {items : List ReadItem}
    (narrow : ∀ character ∈ front, character.toNat < UInt8.size) (rest : Serves behind items) :
    Serves (front ++ behind) (front.map .ofChar ++ items) := by
  induction front with
  | nil => exact rest
  | cons character front ih =>
    have fits := narrow character (List.mem_cons_self ..)
    exact .narrow fits (ih fun other member => narrow other (List.mem_cons_of_mem _ member))

end Serves

/-- The writer takes every byte and passes all on. -/
structure ScriptedWriter.TakesAll (writer : ScriptedWriter) : Prop where
  writes : ∀ item ∈ writer.writes, item = .ok
  flushes : ∀ item ∈ writer.flushes, item = .ok

namespace ScriptedWriter.TakesAll

variable {writer : ScriptedWriter}

theorem write (takesAll : writer.TakesAll) (value : UInt8) :
    (Sink.stream.write value writer).1 = .ok () ∧
      (Sink.stream.write value writer).2.TakesAll ∧
        (Sink.stream.write value writer).2.taken = writer.taken.push value := by
  obtain ⟨writes, flushes, taken, writeCalls, flushCalls⟩ := writer
  cases writes with
  | nil => exact ⟨rfl, ⟨takesAll.writes, takesAll.flushes⟩, rfl⟩
  | cons item rest =>
    obtain rfl := takesAll.writes item (List.mem_cons_self ..)
    have left : ∀ other ∈ rest, other = WriteItem.ok :=
      fun other member => takesAll.writes other (List.mem_cons_of_mem _ member)
    exact ⟨rfl, ⟨left, takesAll.flushes⟩, rfl⟩

theorem flush (takesAll : writer.TakesAll) :
    (Sink.stream.flush writer).1 = .ok () ∧
      (Sink.stream.flush writer).2.taken = writer.taken := by
  obtain ⟨writes, flushes, taken, writeCalls, flushCalls⟩ := writer
  cases flushes with
  | nil => exact ⟨rfl, rfl⟩
  | cons item rest =>
    obtain rfl := takesAll.flushes item (List.mem_cons_self ..)
    exact ⟨rfl, rfl⟩

end ScriptedWriter.TakesAll

/-- The reader serves the text, and the writer takes all bytes and has taken those that are kept. -/
structure Alike (ends : List Char × Array UInt8) (streams : ScriptedReader × ScriptedWriter) :
    Prop where
  serves : Serves ends.1 streams.1.items
  takesAll : streams.2.TakesAll
  taken : streams.2.taken = ends.2

namespace Program

variable {n : Nat} {program : Program} {ends : List Char × Array UInt8}
  {streams : ScriptedReader × ScriptedWriter}

/-- The streams serve what the text and the kept bytes serve. -/
theorem follows_alike :
    Follows Alike (Device.ofEnds .text .bytes) .none (Device.ofEnds .stream .stream) .none where
  stop _ _ := rfl
  read alike byte served :=
    ⟨alike.serves.read_eq.trans served, alike.serves.of_served served, alike.takesAll, alike.taken⟩
  write alike byte _ := by
    obtain ⟨success, takesAll, taken⟩ := alike.takesAll.write byte
    exact ⟨success, alike.serves, takesAll, taken.trans (congrArg (Array.push · byte) alike.taken)⟩

/-- A session ends with the streams as it ends with the text. -/
theorem EndsIn.alike {last : Session n} {before after : List Char × Array UInt8}
    {beforeToo : ScriptedReader × ScriptedWriter} {status : Status n}
    (endsIn : program.EndsIn (Device.ofEnds .text .bytes) .none last before status after)
    (alike : Alike before beforeToo) :
    ∃ afterToo, program.EndsIn (Device.ofEnds .stream .stream) .none last beforeToo status afterToo ∧
      afterToo.2.TakesAll ∧ afterToo.2.taken = after.2 := by
  cases endsIn with
  | executed atEnd => exact ⟨_, .executed atEnd, alike.takesAll, alike.taken⟩
  | stopped _ stop => cases stop
  | exhausted isInput answer free =>
    exact ⟨_, .exhausted isInput (alike.serves.read_eq.trans answer) rfl, alike.takesAll, alike.taken⟩
  | readFailed isInput answer free =>
    exact ⟨_, .readFailed isInput (alike.serves.read_eq.trans answer) rfl, alike.takesAll,
      alike.taken⟩
  | writeFailed isOutput answer free => cases answer

/-- Two reports of sessions that came to the same, if there are reports. -/
def SameReport (text : Option (Report n (List Char × Array UInt8)))
    (stream : Option (Report n (ScriptedReader × ScriptedWriter))) : Prop :=
  match text, stream with
  | none, none => True
  | some report, some other =>
    other.result = report.result ∧ other.world.2.taken = report.world.2
  | _, _ => False

theorem sameReport_of_alike [HasCell n] (alike : Alike ends streams) (count : Nat) :
    SameReport (program.run? (.ofEnds .text .bytes) .none n count ends)
      (program.run? (.ofEnds .stream .stream) .none n count streams) := by
  cases ran : program.run? (.ofEnds .text .bytes) .none n count ends with
  | none =>
    obtain ⟨next, after, reached⟩ := run?_eq_none_iff.mp ran
    obtain ⟨afterToo, reachedToo, -⟩ := follows_alike.advance_of_running alike reached
    rw [run?_eq_none_iff.mpr ⟨next, afterToo, reachedToo⟩]
    trivial
  | some report =>
    obtain ⟨first, last, before, after, running, endsIn, closed⟩ := exists_endsIn_of_run? ran
    obtain ⟨beforeToo, runningToo, alikeBefore⟩ := follows_alike.advance_of_running alike running
    obtain ⟨afterToo, endsInToo, takesAll, taken⟩ := endsIn.alike alikeBefore
    obtain ⟨success, flushed⟩ := takesAll.flush
    obtain ⟨result, -, world⟩ := Status.close?_eq_some_iff.mp closed
    rw [endsInToo.run?_of_running runningToo (lt_of_run? running ran), Status.close?_eq]
    have same : report.status.result? (Device.flush (.ofEnds .stream .stream) afterToo).1 =
        some report.result := by
      rw [← result]
      exact congrArg (Status.result? · report.status) success
    rw [same]
    exact ⟨rfl, flushed.trans (taken.trans (congrArg Prod.snd world).symm)⟩

end Program

/-! ## The two ways to run a script in one go -/

/-- The character of a byte has the value of the byte. -/
theorem toNat_ofNat_byte (byte : UInt8) : (Char.ofNat byte.toNat).toNat = byte.toNat := by
  have below : byte.toNat < 256 := byte.toNat_lt
  have valid : byte.toNat.isValidChar := .inl (by omega)
  rw [Char.ofNat, dif_pos valid]
  rfl

theorem toNat_latinText (bytes : Array UInt8) :
    (latinText bytes).toList.map Char.toNat = bytes.toList.map UInt8.toNat := by
  simp only [latinText, String.toList_ofList, List.map_map]
  exact List.map_congr_left fun byte _ => toNat_ofNat_byte byte

theorem narrow_latinText (bytes : Array UInt8) :
    ∀ character ∈ (latinText bytes).toList, character.toNat < UInt8.size := by
  intro character member
  have value := List.mem_map_of_mem (f := Char.toNat) member
  rw [toNat_latinText] at value
  obtain ⟨byte, -, same⟩ := List.mem_map.mp value
  rw [← same]
  exact byte.toNat_lt

/-- Bytes that are shown as characters are served as the same bytes. -/
theorem map_ofChar_latinText (bytes : Array UInt8) :
    (latinText bytes).toList.map ReadItem.ofChar = bytes.toList.map ReadItem.byte := by
  simp only [latinText, String.toList_ofList, List.map_map]
  apply List.map_congr_left
  intro byte _
  simp [ReadItem.ofChar, toNat_ofNat_byte]

/-- What comes of running a script on a text and on streams is the same: both runs are still going
on, both failed with the same error, or the writer took the code points of what was printed. -/
def SameOutcome (text : Option (Except RunError String))
    (stream : Option (Except RunError Unit × ScriptedReader × ScriptedWriter)) : Prop :=
  match text, stream with
  | none, none => True
  | some (.error error), some (.error other, _) => other = error
  | some (.ok printed), some (.ok (), _, writer) =>
    writer.taken.toList.map UInt8.toNat = printed.toList.map Char.toNat
  | _, _ => False

namespace Script

theorem sameOutcome_of_serves (script : Script) {text : List Char} {items : List ReadItem}
    (serves : Serves text items) {writes : List WriteItem} {flushes : List FlushItem}
    (takesAll : (ScriptedWriter.ofItems writes flushes).TakesAll) (count : Nat) :
    SameOutcome (script.runText? count text)
      (script.runStream? count (.ofItems items) (.ofItems writes flushes)) := by
  unfold runText? runStream? run?
  cases Program.load script with
  | error unmatched => exact rfl
  | ok program =>
    have alike : Alike (text, #[]) (.ofItems items, .ofItems writes flushes) :=
      ⟨serves, takesAll, rfl⟩
    have same : Program.SameReport (n := defaultCells) _ _ :=
      program.sameReport_of_alike alike count
    dsimp only
    generalize program.run? (.ofEnds .text .bytes) .none defaultCells count (text, #[]) = first
      at same ⊢
    generalize program.run? (.ofEnds .stream .stream) .none defaultCells count
      (.ofItems items, .ofItems writes flushes) = second at same ⊢
    rcases first with _ | ⟨result, status, ends⟩ <;> rcases second with _ | ⟨other, statusToo, streams⟩
    · trivial
    · exact same.elim
    · exact same.elim
    · obtain ⟨sameResult, taken⟩ : other = result ∧ streams.2.taken = ends.2 := same
      subst sameResult
      cases other with
      | error error => exact rfl
      | ok halted =>
        change streams.2.taken.toList.map UInt8.toNat = (latinText ends.2).toList.map Char.toNat
        rw [taken, toNat_latinText]

/-- What a script prints is a text of the bytes that its session has written. -/
theorem exists_run?_of_runText? {script : Script} {count : Nat} {text : List Char}
    {printed : String} (ran : script.runText? count text = some (.ok printed)) :
    ∃ halted unread bytes,
      script.run? (.ofEnds .text .bytes) count (text, #[]) = some (.ok halted, (unread, bytes)) ∧
        printed = latinText bytes := by
  obtain ⟨⟨result, unread, bytes⟩, ended, same⟩ := Option.map_eq_some_iff.mp ran
  cases result with
  | error error => cases same
  | ok halted =>
    cases same
    exact ⟨halted, unread, bytes, ended, rfl⟩

/-- Running a script on a text and on streams comes to the same, after any number of steps, if the
reader serves the characters of the text as bytes and the writer takes all bytes. At the end of the
text the reader has come to the end of its input. At the first character that is wider than a byte it
fails as the text does, whatever it would serve then. Whatever a script prints can be given to
another one as its input text, and that one runs as on a stream of the bytes that were written. -/
theorem text_agrees_with_stream (script : Script) (text : List Char) (writes : List WriteItem)
    (flushes : List FlushItem) (takesAll : (ScriptedWriter.ofItems writes flushes).TakesAll)
    (count : Nat) :
    (∀ ending : List ReadItem, (∀ character ∈ text, character.toNat < UInt8.size) →
      (∀ item ∈ ending.head?, item = .endOfFile) →
        SameOutcome (script.runText? count text)
          (script.runStream? count (.ofItems (text.map .ofChar ++ ending))
            (.ofItems writes flushes))) ∧
    (∀ front wide behind rest, text = front ++ wide :: behind →
      (∀ character ∈ front, character.toNat < UInt8.size) → UInt8.size ≤ wide.toNat →
        SameOutcome (script.runText? count text)
          (script.runStream? count
            (.ofItems (front.map .ofChar ++ .fail (.wideCharacter wide) :: rest))
            (.ofItems writes flushes))) ∧
    ∀ printed, script.runText? count text = some (.ok printed) →
      ∃ halted unread bytes,
        script.run? (.ofEnds .text .bytes) count (text, #[]) = some (.ok halted, (unread, bytes)) ∧
          printed.toList.map Char.toNat = bytes.toList.map UInt8.toNat ∧
            ∀ (next : Script) (countToo : Nat) (ending : List ReadItem),
              (∀ item ∈ ending.head?, item = .endOfFile) →
                SameOutcome (next.runText? countToo printed.toList)
                  (next.runStream? countToo (.ofItems (bytes.toList.map .byte ++ ending))
                    (.ofItems writes flushes)) := by
  refine ⟨fun ending narrow ended => ?_, fun front wide behind rest split narrow isWide => ?_,
    fun printed ran => ?_⟩
  · have serves := Serves.append narrow (.finished ended)
    rw [List.append_nil] at serves
    exact script.sameOutcome_of_serves serves takesAll count
  · subst split
    exact script.sameOutcome_of_serves (.append narrow (.wide isWide)) takesAll count
  · obtain ⟨halted, unread, bytes, ended, rfl⟩ := exists_run?_of_runText? ran
    refine ⟨halted, unread, bytes, ended, toNat_latinText bytes, fun next countToo ending endedToo => ?_⟩
    have serves := Serves.append (narrow_latinText bytes) (.finished endedToo)
    rw [List.append_nil, map_ofChar_latinText] at serves
    exact next.sameOutcome_of_serves serves takesAll countToo

/-- A character above ASCII is printed as it was read, on either way and again by the next script.
The wide character behind it fails both runs where it is read. -/
theorem text_agrees_with_stream_wide :
    (ScriptedWriter.ofItems [.ok] [.ok]).TakesAll ∧
    runText? #[',', '.'] 3 ['é'] = some (.ok (latinText #[0xE9])) ∧
    SameOutcome (runText? #[',', '.'] 3 ['é'])
      (runStream? #[',', '.'] 3 (.ofItems [.byte 0xE9, .endOfFile]) (.ofItems [.ok] [.ok])) ∧
    (∀ printed, runText? #[',', '.'] 3 ['é'] = some (.ok printed) →
      ∃ bytes : Array UInt8, printed.toList.map Char.toNat = bytes.toList.map UInt8.toNat ∧
        SameOutcome (runText? #[',', '.'] 3 printed.toList)
          (runStream? #[',', '.'] 3 (.ofItems (bytes.toList.map .byte ++ []))
            (.ofItems [.ok] [.ok]))) ∧
    runText? #[',', '.', ','] 3 ['é', 'λ'] =
      some (.error (.exec (.io 2 (.wideCharacter 'λ')))) ∧
    SameOutcome (runText? #[',', '.', ','] 3 ['é', 'λ'])
      (runStream? #[',', '.', ','] 3 (.ofItems [.byte 0xE9, .fail (.wideCharacter 'λ')])
        (.ofItems [.ok] [.ok])) := by
  have takesAll : (ScriptedWriter.ofItems [.ok] [.ok]).TakesAll :=
    ⟨by simp [ScriptedWriter.ofItems], by simp [ScriptedWriter.ofItems]⟩
  obtain ⟨narrow, -, again⟩ :=
    text_agrees_with_stream #[',', '.'] ['é'] [.ok] [.ok] takesAll 3
  obtain ⟨-, wide, -⟩ :=
    text_agrees_with_stream #[',', '.', ','] ['é', 'λ'] [.ok] [.ok] takesAll 3
  have fits : ∀ character ∈ ['é'], character.toNat < UInt8.size :=
    List.forall_mem_singleton.mpr (by decide)
  refine ⟨takesAll, rfl, narrow [.endOfFile] fits (by simp), fun printed ran => ?_, rfl,
    wide ['é'] 'λ' [] [] rfl fits (by decide)⟩
  obtain ⟨-, -, bytes, -, same, next⟩ := again printed ran
  exact ⟨bytes, same, next #[',', '.'] 3 [] (by simp)⟩

end Script

end TapeMachine
