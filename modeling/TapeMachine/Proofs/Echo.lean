import TapeMachine.Device.Observed
import TapeMachine.Proofs.Ending

/-! # The echo loop

The script `,[.,]` copies its input. Between two rounds of its loop the session stands at a read
with the copied characters behind it: their bytes have been written, the last of them is still in
the cell, and three dispatches were made for each. A character that the loop copies takes the
session to the next such read. Any other ends it: the byte zero leaves the loop, a character wider
than a cell fails the read, and so does the end of the text.
-/

namespace TapeMachine

universe u

/-- The device that serves a text, keeps bytes and counts its calls. -/
def Device.countedText : Device ((List Char × Array UInt8) × CallCount) :=
  (Device.ofEnds .text .bytes).observed CallCount.add

/-- A character that the echo loop copies: it fits in a cell and does not leave the loop. -/
def Text.IsEchoed (character : Char) : Prop :=
  0 < character.toNat ∧ character.toNat ≤ 0xFF

variable {n : Nat}

theorem Tape.write_zero_blank (n : Nat) [HasCell n] : (blank n).write 0 = blank n := by
  have zero : (blank n).read = 0 := by simp [read, blank]
  rw [← zero, write_read]

namespace Program

def IsEcho (program : Program) : Prop := program.script = #[',', '[', '.', ',', ']']

variable {program : Program} {session : Session n} {character : Char} {rest : List Char}
  {kept : Array UInt8} {calls : CallCount}

/-! ## The three calls -/

theorem step_read_narrow (isInput : program.script[session.position]? = some ',')
    (fits : character.toNat ≤ 0xFF) :
    program.step .countedText .none session ((character :: rest, kept), calls) =
      (.running (session.goOn (·.write character.toNat.toUInt8)),
        ((rest, kept), { calls with reads := calls.reads + 1 })) := by
  rw [step_of_present isInput rfl, dispatch_of_input rfl]
  simp only [Device.countedText, Device.observed, Device.ofEnds,
    Source.read_text_of_narrow (Nat.lt_succ_of_le fits)]
  rfl

theorem step_read_wide (isInput : program.script[session.position]? = some ',')
    (isWide : 0xFF < character.toNat) :
    program.step .countedText .none session ((character :: rest, kept), calls) =
      (.aborted session (.io session.position (.wideCharacter character)),
        ((character :: rest, kept), { calls with reads := calls.reads + 1 })) := by
  rw [step_of_present isInput rfl, dispatch_of_input rfl]
  simp only [Device.countedText, Device.observed, Device.ofEnds, Source.read_text_of_wide isWide]
  rfl

theorem step_read_nil (isInput : program.script[session.position]? = some ',') :
    program.step .countedText .none session (([], kept), calls) =
      (.aborted session (.noMoreInput session.position),
        (([], kept), { calls with reads := calls.reads + 1 })) := by
  rw [step_of_present isInput rfl, dispatch_of_input rfl]
  rfl

theorem step_write_kept (isOutput : program.script[session.position]? = some '.') :
    program.step .countedText .none session ((rest, kept), calls) =
      (.running (session.goOn id),
        ((rest, kept.push session.tape.read), { calls with writes := calls.writes + 1 })) := by
  rw [step_of_present isOutput rfl, dispatch_of_output rfl]
  rfl

/-! ## One round of the loop -/

namespace IsEcho

/-- Where the session reads, by the number of copied characters: in front of the loop, and from then
on at the end of its body. -/
def readPosition (count : Nat) : Nat := if count = 0 then 0 else 3

/-- The session at a read, with the copied characters behind it and the last of them in the cell. -/
def atRead (n : Nat) [HasCell n] (count : Nat) (cell : UInt8) : Session n :=
  ⟨(Tape.blank n).write cell, readPosition count, 3 * count⟩

theorem present_read (isEcho : program.IsEcho) (count : Nat) :
    program.script[readPosition count]? = some ',' := by
  rw [isEcho, readPosition]
  split <;> rfl

/-- The bracket in front of the body and the one behind it are partners. -/
theorem partners (isEcho : program.IsEcho) :
    program.partner 1 = .ok 4 ∧ program.partner 4 = .ok 1 := by
  have found : program.partner 1 = .ok 4 := by
    rw [program.partner_eq_ok_iff, isEcho, ← Script.partner_eq_ok_iff]
    rfl
  exact ⟨found, program.partner_eq_ok_iff.mpr (program.partner_eq_ok_iff.mp found).symm⟩

variable {World : Type u} {device : Device World} {world : World} {tape : Tape n}

/-- From the bracket behind a read the session goes to the body, or behind the loop for a zero. -/
theorem step_bracket (isEcho : program.IsEcho) (count steps : Nat) :
    program.step device .none ⟨tape, readPosition count + 1, steps⟩ world =
      (.running ⟨tape, if tape.read = 0 then 5 else 2, steps + 1⟩, world) := by
  obtain ⟨forth, back⟩ := isEcho.partners
  by_cases first : count = 0
  · have opening : program.script[1]? = some '[' := by
      rw [isEcho]
      rfl
    simp only [readPosition, first, ↓reduceIte, Nat.zero_add]
    rw [step_of_present opening rfl]
    by_cases zero : tape.read = 0
    · rw [dispatch_of_jump (by simpa using zero) forth, if_pos zero]
      rfl
    · rw [if_neg zero]
      apply dispatch_of_proceed
      simp only [action, Instruction.ofChar?, zero, ↓reduceIte]
      rfl
  · have closing : program.script[4]? = some ']' := by
      rw [isEcho]
      rfl
    simp only [readPosition, first, ↓reduceIte]
    rw [step_of_present closing rfl]
    by_cases zero : tape.read = 0
    · rw [if_pos zero]
      apply dispatch_of_proceed
      simp only [action, Instruction.ofChar?, zero, ↓reduceIte]
      rfl
    · rw [dispatch_of_jump (by simpa using zero) back, if_neg zero]
      rfl

variable [HasCell n]

/-- A character that fits in a cell is read, and the loop is left if it is U+0000. -/
theorem advance_read (isEcho : program.IsEcho) (count : Nat) (cell : UInt8)
    (fits : character.toNat ≤ 0xFF) :
    program.advance .countedText .none 2 (atRead n count cell) ((character :: rest, kept), calls) =
      (.running ⟨(Tape.blank n).write character.toNat.toUInt8,
          if character.toNat = 0 then 5 else 2, 3 * count + 2⟩,
        ((rest, kept), { calls with reads := calls.reads + 1 })) := by
  have isZero : character.toNat.toUInt8 = 0 ↔ character.toNat = 0 := by
    rw [← UInt8.toNat_inj, UInt8.toNat_ofNat_of_lt' (Nat.lt_succ_of_le fits)]
    rfl
  rw [advance_succ_of_running (step_read_narrow (isEcho.present_read count) fits), advance_one]
  simp only [atRead, Session.goOn, Tape.write_write]
  rw [isEcho.step_bracket]
  simp only [Tape.read_write, isZero]

/-- A character that the loop copies takes the session to the next read. -/
theorem advance_round (isEcho : program.IsEcho) (count : Nat) (cell : UInt8)
    (echoed : Text.IsEchoed character) :
    program.advance .countedText .none 3 (atRead n count cell) ((character :: rest, kept), calls) =
      (.running (atRead n (count + 1) character.toNat.toUInt8),
        ((rest, kept.push character.toNat.toUInt8),
          { calls with reads := calls.reads + 1, writes := calls.writes + 1 })) := by
  have output : program.script[2]? = some '.' := by
    rw [isEcho]
    rfl
  rw [advance_add_of_running (isEcho.advance_read count cell echoed.2) 1,
    if_neg (Nat.pos_iff_ne_zero.mp echoed.1), advance_one, step_write_kept output]
  simp only [Session.goOn, Tape.read_write, atRead]
  rfl

/-- Characters that the loop copies take the session from read to read. -/
theorem advance_rounds (isEcho : program.IsEcho) {front : List Char}
    (echoed : ∀ character ∈ front, Text.IsEchoed character) (rest : List Char)
    (kept : Array UInt8) (count : Nat) (cell : UInt8) :
    ∃ last : UInt8,
      program.advance .countedText .none (3 * front.length) (atRead n count cell)
        ((front ++ rest, kept), ⟨count, count, 0⟩) =
      (.running (atRead n (count + front.length) last),
        ((rest, kept ++ front.map (·.toNat.toUInt8)),
          ⟨count + front.length, count + front.length, 0⟩)) := by
  induction front generalizing count cell kept with
  | nil => exact ⟨cell, by simp⟩
  | cons character front ih =>
    obtain ⟨isEchoed, echoed⟩ := List.forall_mem_cons.mp echoed
    obtain ⟨last, rounds⟩ := ih echoed (kept.push character.toNat.toUInt8) (count + 1)
      character.toNat.toUInt8
    refine ⟨last, ?_⟩
    rw [List.length_cons, Nat.mul_succ, Nat.add_comm, List.cons_append,
      advance_add_of_running (isEcho.advance_round count cell isEchoed), rounds]
    simp [Nat.add_assoc, Nat.add_comm 1]

/-! ## From the start to the end -/

theorem start_eq_atRead : Session.start n = atRead n 0 0 := by
  rw [atRead, Tape.write_zero_blank]
  rfl

/-- The session comes to the read behind the first characters if the loop copies all of them. -/
theorem exists_reached (n : Nat) [HasCell n] (isEcho : program.IsEcho) {front : List Char}
    (echoed : ∀ character ∈ front, Text.IsEchoed character) (rest : List Char) :
    ∃ (kept : Array UInt8) (last : UInt8), kept.toList.map UInt8.toNat = front.map Char.toNat ∧
      program.advance .countedText .none (3 * front.length) (Session.start n)
        ((front ++ rest, #[]), .zero) =
      (.running (atRead n front.length last),
        ((rest, kept), ⟨front.length, front.length, 0⟩)) := by
  obtain ⟨last, reached⟩ := isEcho.advance_rounds (n := n) echoed rest #[] 0 0
  rw [← start_eq_atRead, Nat.zero_add] at reached
  refine ⟨_, last, ?_, reached⟩
  rw [Array.toList_appendList, List.nil_append, List.map_map]
  apply List.map_congr_left
  intro character within
  exact UInt8.toNat_ofNat_of_lt' (Nat.lt_succ_of_le (echoed character within).2)

section Endings

variable (isEcho : program.IsEcho) {front : List Char}
  (echoed : ∀ character ∈ front, Text.IsEchoed character)

include isEcho echoed

theorem endsWith_of_end :
    ∃ kept : Array UInt8, kept.toList.map UInt8.toNat = front.map Char.toNat ∧
      program.EndsWith .countedText .none n ((front, #[]), .zero)
        (.error (.noMoreInput (readPosition front.length)))
        (([], kept), ⟨front.length + 1, front.length, 1⟩) := by
  obtain ⟨kept, last, same, reached⟩ := exists_reached n isEcho echoed []
  rw [List.append_nil] at reached
  exact ⟨kept, same, endsWith_iff.mpr ⟨_, _, _, _, _, reached,
    step_read_nil (isEcho.present_read front.length), rfl, rfl⟩⟩

theorem endsWith_of_zero (rest : List Char) (isZero : character.toNat = 0) :
    ∃ kept : Array UInt8, kept.toList.map UInt8.toNat = front.map Char.toNat ∧
      program.EndsWith .countedText .none n ((front ++ character :: rest, #[]), .zero)
        (.ok ⟨.blank n, 3 * front.length + 2⟩)
        ((rest, kept), ⟨front.length + 1, front.length, 1⟩) := by
  obtain ⟨kept, last, same, reached⟩ := exists_reached n isEcho echoed (character :: rest)
  have fits : character.toNat ≤ 0xFF := by omega
  have cleared : (Tape.blank n).write character.toNat.toUInt8 = .blank n := by
    rw [isZero]
    exact Tape.write_zero_blank n
  have left := (advance_add_of_running reached 2).trans
    (isEcho.advance_read front.length last fits)
  rw [cleared, if_pos isZero] at left
  have atEnd : program.script.size ≤ 5 := by
    rw [isEcho]
    exact Nat.le_refl 5
  exact ⟨kept, same, endsWith_iff.mpr ⟨_, _, _, _, _, left, step_of_outside atEnd, rfl, rfl⟩⟩

theorem endsWith_of_wide (rest : List Char) (isWide : 0xFF < character.toNat) :
    ∃ kept : Array UInt8, kept.toList.map UInt8.toNat = front.map Char.toNat ∧
      program.EndsWith .countedText .none n ((front ++ character :: rest, #[]), .zero)
        (.error (.io (readPosition front.length) (.wideCharacter character)))
        ((character :: rest, kept), ⟨front.length + 1, front.length, 1⟩) := by
  obtain ⟨kept, last, same, reached⟩ := exists_reached n isEcho echoed (character :: rest)
  exact ⟨kept, same, endsWith_iff.mpr ⟨_, _, _, _, _, reached,
    step_read_wide (isEcho.present_read front.length) isWide, rfl, rfl⟩⟩

end Endings

end IsEcho

/-- The echo loop copies its input up to the first character that is not to be copied. If there is
none, the read behind the text finds no more input; U+0000 halts the session, and a character that
does not fit in a cell fails its read and stays unread. -/
theorem echo_copies_input (program : Program) (isEcho : program.IsEcho) (n : Nat) [HasCell n]
    (text : List Char) :
    ((∀ character ∈ text, Text.IsEchoed character) →
      ∃ kept : Array UInt8, kept.toList.map UInt8.toNat = text.map Char.toNat ∧
        program.EndsWith .countedText .none n ((text, #[]), .zero)
          (.error (.noMoreInput (if text = [] then 0 else 3)))
          (([], kept), ⟨text.length + 1, text.length, 1⟩)) ∧
    ∀ index special, text[index]? = some special →
      (∀ character ∈ text.take index, Text.IsEchoed character) →
      (special.toNat = 0 →
        ∃ kept : Array UInt8, kept.toList.map UInt8.toNat = (text.take index).map Char.toNat ∧
          program.EndsWith .countedText .none n ((text, #[]), .zero)
            (.ok ⟨.blank n, 2 + 3 * index⟩)
            ((text.drop (index + 1), kept), ⟨index + 1, index, 1⟩)) ∧
      (0xFF < special.toNat →
        ∃ (kept : Array UInt8) (failure : IoFailure),
          kept.toList.map UInt8.toNat = (text.take index).map Char.toNat ∧
          failure.kind = .invalidData ∧
          program.EndsWith .countedText .none n ((text, #[]), .zero)
            (.error (.io (if index = 0 then 0 else 3) failure))
            ((text.drop index, kept), ⟨index + 1, index, 1⟩)) := by
  refine ⟨fun echoed => ?_, fun index special found echoed => ?_⟩
  · simp only [← List.length_eq_zero_iff]
    exact isEcho.endsWith_of_end echoed
  · obtain ⟨inside, rfl⟩ := List.getElem?_eq_some_iff.mp found
    have length : (text.take index).length = index :=
      List.length_take_of_le (Nat.le_of_lt inside)
    have behind : text.drop index = text[index] :: text.drop (index + 1) :=
      List.drop_eq_getElem_cons inside
    have split : text.take index ++ text[index] :: text.drop (index + 1) = text := by
      rw [← behind, List.take_append_drop]
    constructor
    · intro isZero
      have ends := isEcho.endsWith_of_zero (n := n) echoed (text.drop (index + 1)) isZero
      rwa [split, length, Nat.add_comm _ 2] at ends
    · intro isWide
      obtain ⟨kept, same, ends⟩ :=
        isEcho.endsWith_of_wide (n := n) echoed (text.drop (index + 1)) isWide
      rw [split, length, ← behind] at ends
      exact ⟨kept, _, same, rfl, ends⟩

/-- Copying ends with one text, at U+0000 in another, and at a wide character in a third. -/
theorem echo_copies_input_three_texts :
    let program : Program := ⟨#[',', '[', '.', ',', ']'], _, .scan, rfl, rfl⟩
    (∃ kept : Array UInt8, kept.toList.map UInt8.toNat = [0x61, 0xE9] ∧
      program.EndsWith .countedText .none 1 ((['a', 'é'], #[]), .zero)
        (.error (.noMoreInput 3)) (([], kept), ⟨3, 2, 1⟩)) ∧
    (∃ kept : Array UInt8, kept.toList.map UInt8.toNat = [0xE9] ∧
      program.EndsWith .countedText .none 1 ((['é', Char.ofNat 0, 'λ'], #[]), .zero)
        (.ok ⟨.blank 1, 5⟩) ((['λ'], kept), ⟨2, 1, 1⟩)) ∧
    ∃ (kept : Array UInt8) (failure : IoFailure), kept.toList.map UInt8.toNat = [0x61] ∧
      failure.kind = .invalidData ∧
      program.EndsWith .countedText .none 2 ((['a', 'λ', 'b'], #[]), .zero)
        (.error (.io 3 failure)) ((['λ', 'b'], kept), ⟨2, 1, 1⟩) := by
  intro program
  have whole := (program.echo_copies_input rfl 1 ['a', 'é']).1 (by simp [Text.IsEchoed])
  have zero := ((program.echo_copies_input rfl 1 ['é', Char.ofNat 0, 'λ']).2 1 _ rfl
    (by simp [Text.IsEchoed])).1 rfl
  have wide := ((program.echo_copies_input rfl 2 ['a', 'λ', 'b']).2 1 _ rfl
    (by simp [Text.IsEchoed])).2 (by simp)
  exact ⟨whole, zero, wide⟩

end Program

end TapeMachine
