import TapeMachine.Proofs.Calls
import TapeMachine.Proofs.Partners
import TapeMachine.Proofs.Record

/-! # Machines read as other machines

One machine can be read as another one. Each character, each byte and each tape of the first stands
for one of the second: brackets and the two instructions that call the device for themselves, a zero
for a zero, and a change of a tape for a change of the tape that it stands for. A correspondence may
speak of part of all dispatches only. Two devices go with it if they give answers that stand for each
other.
-/

namespace TapeMachine

universe u v

variable {n m : Nat} {World : Type u} {Other : Type v}

/-! ## Scripts that are spelled differently -/

/-- Brackets stand for themselves, and nothing else for a bracket. -/
structure KeepsBrackets (spell : Char → Char) : Prop where
  opening : ∀ character, spell character = '[' ↔ character = '['
  closing : ∀ character, spell character = ']' ↔ character = ']'

namespace Script

variable {spell : Char → Char} (keeps : KeepsBrackets spell) (script : Script)

include keeps

theorem openLoops_map (position : Nat) (opened : List Nat) (characters : List Char) :
    openLoops position opened (characters.map spell) = openLoops position opened characters := by
  induction characters generalizing position opened with
  | nil => rfl
  | cons character rest ih =>
    simp only [List.map_cons, openLoops, keeps.opening, keeps.closing, ih]

/-- A script is accepted or refused as before if its brackets stay. -/
theorem check_map : check (script.map spell) = script.check := by
  simp only [check, Array.toList_map, openLoops_map keeps]

theorem getElem?_map_eq_opening_iff (position : Nat) :
    (script.map spell)[position]? = some '[' ↔ script[position]? = some '[' := by
  simp [keeps.opening]

theorem getElem?_map_eq_closing_iff (position : Nat) :
    (script.map spell)[position]? = some ']' ↔ script[position]? = some ']' := by
  simp [keeps.closing]

theorem closingAhead?_map (depth ahead : Nat) :
    closingAhead? (script.map spell) depth ahead = script.closingAhead? depth ahead := by
  induction ahead generalizing depth with
  | zero => rfl
  | succ ahead ih =>
    simp only [closingAhead?, Array.size_map, getElem?_map_eq_opening_iff keeps,
      getElem?_map_eq_closing_iff keeps, ih]

theorem openingBehind?_map (depth behind : Nat) :
    openingBehind? (script.map spell) depth behind = script.openingBehind? depth behind := by
  induction behind generalizing depth with
  | zero => rfl
  | succ position ih =>
    simp only [openingBehind?, getElem?_map_eq_opening_iff keeps,
      getElem?_map_eq_closing_iff keeps, ih]

/-- Partners are where they were if the brackets stay. -/
theorem partner_map (position : Nat) :
    partner (script.map spell) position = script.partner position := by
  simp only [partner, Array.size_map, getElem?_map_eq_opening_iff keeps,
    getElem?_map_eq_closing_iff keeps, closingAhead?_map keeps, openingBehind?_map keeps]

end Script

/-- A program finds the partners that the walk over its script finds. -/
theorem Program.partner_eq_ok_iff_script (program : Program) {position other : Nat} :
    program.partner position = .ok other ↔ program.script.partner position = .ok other := by
  rw [program.partner_eq_ok_iff, Script.partner_eq_ok_iff]

/-! ## What stands for what -/

/-- How a machine with `n` cells is read as one with `m` cells. -/
structure Correspondence (n m : Nat) where
  character : Char → Char
  byte : UInt8 → UInt8
  cursor : Nat → Nat
  /-- The second tape is one that the first stands for. -/
  Like : Tape n → Tape m → Prop
  /-- The dispatch of a character on a tape is one that the correspondence speaks of. -/
  Covers : Char → Tape n → Prop
  character_eq_iff : ∀ kept ∈ ['[', ']', '.', ','], ∀ given, character given = kept ↔ given = kept
  byte_eq_zero_iff : ∀ given, byte given = 0 ↔ given = 0
  cursor_eq : ∀ {tape other}, Like tape other → other.cursor.val = cursor tape.cursor.val
  read_eq : ∀ {tape other}, Like tape other → other.read = byte tape.read
  write : ∀ {tape other}, Like tape other → ∀ given,
    Like (tape.write given) (other.write (byte given))
  effect : ∀ {given tape other}, Like tape other → Covers given tape →
    Like (Tape.effect given tape) (Tape.effect (character given) other)
  blank : ∀ [HasCell n] [HasCell m], Like (.blank n) (.blank m)

/-- Two devices give answers that stand for each other, and stay related. -/
structure AnswersAlike (byte : UInt8 → UInt8) (Related : World → Other → Prop)
    (device : Device World) (other : Device Other) : Prop where
  read : ∀ {world worldToo}, Related world worldToo →
    (other.read worldToo).1 = (device.read world).1.map (Option.map byte) ∧
      Related (device.read world).2 (other.read worldToo).2
  write : ∀ {world worldToo}, Related world worldToo → ∀ given,
    (other.write (byte given) worldToo).1 = (device.write given world).1 ∧
      Related (device.write given world).2 (other.write (byte given) worldToo).2
  flush : ∀ {world worldToo}, Related world worldToo →
    (other.flush worldToo).1 = (device.flush world).1 ∧
      Related (device.flush world).2 (other.flush worldToo).2

/-- Two sessions stand at the same position after as many steps, on tapes that are alike. -/
structure Session.Alike (Like : Tape n → Tape m → Prop) (session : Session n) (other : Session m) :
    Prop where
  tape : Like session.tape other.tape
  position : other.position = session.position
  steps : other.steps = session.steps

/-- Two sessions are both running, both at the end of their script, or both stopped by the same
error. -/
inductive Status.Alike (Like : Tape n → Tape m → Prop) : Status n → Status m → Prop
  | running {session other} (alike : session.Alike Like other) :
      Status.Alike Like (.running session) (.running other)
  | completed {session other} (alike : session.Alike Like other) :
      Status.Alike Like (.completed session) (.completed other)
  | aborted {session other} (alike : session.Alike Like other) (error : ExecError) :
      Status.Alike Like (.aborted session error) (.aborted other error)

/-- Two results are the same error, or two halts after as many steps on tapes that are alike. -/
inductive ResultAlike (Like : Tape n → Tape m → Prop) :
    Except ExecError (Halted n) → Except ExecError (Halted m) → Prop
  | failed (error : ExecError) : ResultAlike Like (.error error) (.error error)
  | halted {tape other} (alike : Like tape other) (steps : Nat) :
      ResultAlike Like (.ok ⟨tape, steps⟩) (.ok ⟨other, steps⟩)

/-- Two sessions have left events that stand for each other and have come equally far. -/
structure RecordAlike (event : Event → Event) (Like : Tape n → Tape m → Prop)
    (Related : World → Other → Prop) (left : Array Event × Status n × World)
    (leftToo : Array Event × Status m × Other) : Prop where
  events : leftToo.1 = left.1.map event
  status : left.2.1.Alike Like leftToo.2.1
  world : Related left.2.2 leftToo.2.2

/-- Two sessions have ended alike. -/
structure Report.Alike (Like : Tape n → Tape m → Prop) (Related : World → Other → Prop)
    (report : Report n World) (other : Report m Other) : Prop where
  result : ResultAlike Like report.result other.result
  status : report.status.Alike Like other.status
  world : Related report.world other.world

/-- From their starts two sessions come equally far in as many steps, leave events that stand for each
other, and end alike if they end. -/
structure RunsAlike [HasCell n] [HasCell m] (event : Event → Event) (Like : Tape n → Tape m → Prop)
    (Related : World → Other → Prop) (count : Nat) (program : Program) (device : Device World)
    (control : Control World) (world : World) (programToo : Program) (other : Device Other)
    (controlToo : Control Other) (worldToo : Other) : Prop where
  record : RecordAlike event Like Related
    (program.record device control count #[] (Session.start n) world)
    (programToo.record other controlToo count #[] (Session.start m) worldToo)
  report : Option.Rel (Report.Alike Like Related) (program.run? device control n count world)
    (programToo.run? other controlToo m count worldToo)

/-- The event of a dispatch with another cursor, cell and character. All other events stay. -/
def Event.map (cursor : Nat → Nat) (byte : UInt8 → UInt8) (character : Char → Char) : Event → Event
  | dispatch step position place cell read =>
    dispatch step position (cursor place) (byte cell) (character read)
  | other => other

theorem Event.map_id : Event.map id id id = id := by
  funext event
  cases event <;> rfl

namespace Correspondence

/-- If characters stand for themselves, those do that have to. -/
theorem character_id_iff :
    ∀ kept ∈ ['[', ']', '.', ','], ∀ given : Char, id given = kept ↔ given = kept :=
  fun _ _ _ => Iff.rfl

theorem byte_id_iff : ∀ given : UInt8, id given = 0 ↔ given = 0 := fun _ => Iff.rfl

variable (between : Correspondence n m)

/-- The event that an event stands for. -/
def event : Event → Event := Event.map between.cursor between.byte between.character

theorem keepsBrackets : KeepsBrackets between.character where
  opening := between.character_eq_iff '[' (by simp)
  closing := between.character_eq_iff ']' (by simp)

theorem ofChar?_eq_output_iff {character : Char} :
    Instruction.ofChar? (between.character character) = some .output ↔
      Instruction.ofChar? character = some .output := by
  simp only [Instruction.ofChar?_eq_some_iff]
  exact between.character_eq_iff '.' (by simp) character

theorem ofChar?_eq_input_iff {character : Char} :
    Instruction.ofChar? (between.character character) = some .input ↔
      Instruction.ofChar? character = some .input := by
  simp only [Instruction.ofChar?_eq_some_iff]
  exact between.character_eq_iff ',' (by simp) character

/-- What stands for a character jumps where the character does. -/
theorem charJumpsOn (character : Char) (cell : UInt8) :
    Instruction.charJumpsOn (between.character character) (between.byte cell) =
      Instruction.charJumpsOn character cell := by
  have keeps := between.keepsBrackets
  by_cases isOpening : character = '['
  · rw [(keeps.opening character).mpr isOpening, isOpening]
    simp only [Instruction.charJumpsOn_opening, between.byte_eq_zero_iff]
  by_cases isClosing : character = ']'
  · rw [(keeps.closing character).mpr isClosing, isClosing]
    simp only [Instruction.charJumpsOn_closing, ne_eq, between.byte_eq_zero_iff]
  · have stays (spelled : Char) (value : UInt8) (notOpening : spelled ≠ '[')
        (notClosing : spelled ≠ ']') : Instruction.charJumpsOn spelled value = false :=
      (Bool.not_eq_true _).mp fun jumps =>
        (Instruction.bracket_of_charJumpsOn jumps).elim notOpening notClosing
    rw [stays _ _ isOpening isClosing, stays]
    · exact fun same => isOpening ((keeps.opening character).mp same)
    · exact fun same => isClosing ((keeps.closing character).mp same)

theorem map_event_jumpEvent? (program : Program) (character : Char)
    (session : Session n) :
    (program.jumpEvent? character session).toList.map between.event =
      (program.jumpEvent? character session).toList := by
  unfold Program.jumpEvent?
  split_ifs
  · cases program.partner session.position <;> rfl
  · rfl

end Correspondence

/-! ## Calls that are kept -/

/-- The call with other bytes in the place of its bytes. -/
def Call.map (byte : UInt8 → UInt8) : Call → Call
  | .read answer => .read (answer.map (Option.map byte))
  | .write given answer => .write (byte given) answer
  | .flush answer => .flush answer

/-- The worlds are related, and the calls so far are those of the first with other bytes. -/
def RelatedCalls (byte : UInt8 → UInt8) (Related : World → Other → Prop) (world : World × CallLog)
    (worldToo : Other × CallLog) : Prop :=
  Related world.1 worldToo.1 ∧ worldToo.2 = world.2.map (Call.map byte)

/-- Devices that give such answers also keep calls that stand for each other. -/
theorem AnswersAlike.logged {byte : UInt8 → UInt8} {Related : World → Other → Prop}
    {device : Device World} {other : Device Other}
    (answers : AnswersAlike byte Related device other) :
    AnswersAlike byte (RelatedCalls byte Related) device.logged other.logged where
  read := by
    rintro ⟨world, log⟩ ⟨worldToo, _⟩ ⟨related, rfl⟩
    obtain ⟨same, after⟩ := answers.read related
    refine ⟨same, after, ?_⟩
    simp only [Device.logged, Device.observed, CallLog.add, same, List.map_append, List.map_cons,
      List.map_nil, Call.map]
  write := by
    rintro ⟨world, log⟩ ⟨worldToo, _⟩ ⟨related, rfl⟩ given
    obtain ⟨same, after⟩ := answers.write related given
    refine ⟨same, after, ?_⟩
    simp only [Device.logged, Device.observed, CallLog.add, same, List.map_append, List.map_cons,
      List.map_nil, Call.map]
  flush := by
    rintro ⟨world, log⟩ ⟨worldToo, _⟩ ⟨related, rfl⟩
    obtain ⟨same, after⟩ := answers.flush related
    refine ⟨same, after, ?_⟩
    simp only [Device.logged, Device.observed, CallLog.add, same, List.map_append, List.map_cons,
      List.map_nil, Call.map]

/-- An answer in which each byte stays is the same answer. -/
theorem map_id_answer (answer : Except IoFailure (Option UInt8)) :
    answer.map (Option.map id) = answer := by
  rcases answer with failure | _ | byte <;> rfl

/-- A device gives its own answers. -/
theorem AnswersAlike.refl (device : Device World) : AnswersAlike id Eq device device where
  read := by
    rintro world _ rfl
    exact ⟨(map_id_answer _).symm, rfl⟩
  write := by
    rintro world _ rfl given
    exact ⟨rfl, rfl⟩
  flush := by
    rintro world _ rfl
    exact ⟨rfl, rfl⟩

end TapeMachine
