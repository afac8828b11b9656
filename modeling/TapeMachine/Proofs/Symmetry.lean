import Mathlib.Logic.Equiv.Basic
import TapeMachine.Proofs.Acceptance
import TapeMachine.Proofs.Counters
import TapeMachine.Proofs.Parallel

/-! # Left and right, up and down

The machine does not prefer a direction or a sign. A script in which the two moves are exchanged
does on the mirrored ring what the script does on the ring. A script in which counting up and counting
down are exchanged does the same on negated cells, provided that it reads negated bytes and its
device does not succeed or fail by the bytes that it is given. In both cases the loops do not notice:
brackets stay, and a negated byte is zero exactly if the byte is.
-/

namespace TapeMachine

universe u v

variable {n : Nat}

/-- The script with the two moves exchanged. -/
def Script.mirrored (script : Script) : Script := script.map (Equiv.swap '<' '>')

/-- The script with counting up and counting down exchanged. -/
def Script.negated (script : Script) : Script := script.map (Equiv.swap '+' '-')

/-- Characters that are not exchanged stand for themselves only. -/
theorem swap_eq_iff {first second : Char} {others : List Char} (notFirst : first ∉ others)
    (notSecond : second ∉ others) :
    ∀ kept ∈ others, ∀ given, Equiv.swap first second given = kept ↔ given = kept := by
  intro kept member given
  have neFirst : kept ≠ first := fun same => notFirst (same ▸ member)
  have neSecond : kept ≠ second := fun same => notSecond (same ▸ member)
  rw [Equiv.swap_apply_eq_iff, Equiv.swap_apply_of_ne_of_ne neFirst neSecond]

namespace Tape

/-! ## The mirrored ring -/

/-- The position as far to the left of the first cell as the given one is to the right of it. -/
def opposite (position : Fin n) : Fin n :=
  ⟨(n - position.val) % n, Nat.mod_lt _ (Nat.zero_lt_of_lt position.isLt)⟩

theorem val_opposite (position : Fin n) :
    ((opposite position).val : Int) = (0 - position.val) % n := by
  have bound := position.isLt
  change (((n - position.val) % n : Nat) : Int) = _
  rw [Int.natCast_emod, Int.ofNat_sub bound.le, ← Int.add_emod_right (0 - (position.val : Int))]
  congr 1
  omega

@[simp] theorem opposite_opposite (position : Fin n) : opposite (opposite position) = position := by
  have bound := position.isLt
  apply Fin.ext
  apply Int.natCast_inj.mp
  rw [val_opposite, val_opposite, Int.sub_emod_emod]
  exact (congrArg (· % (n : Int)) (by omega)).trans (Int.emod_eq_of_lt (by omega) (by omega))

/-- One to the left of the opposite position is the opposite of one to the right. -/
theorem leftOf_opposite (position : Fin n) :
    leftOf (opposite position) = opposite (rightOf position) := by
  apply Fin.ext
  apply Int.natCast_inj.mp
  rw [val_leftOf, val_opposite, val_opposite, val_rightOf, Int.emod_sub_emod, Int.sub_emod_emod]
  congr 1
  omega

theorem rightOf_opposite (position : Fin n) :
    rightOf (opposite position) = opposite (leftOf position) := by
  rw [← opposite_opposite (rightOf (opposite position)), ← leftOf_opposite, opposite_opposite]

/-- The other tape is the mirrored one: its cursor and its cells are at the opposite positions. -/
structure MirroredBy (tape other : Tape n) : Prop where
  cursor : other.cursor = opposite tape.cursor
  cells : ∀ position : Fin n, other.cell position = tape.cell (opposite position)

namespace MirroredBy

variable {tape other : Tape n} (mirrored : tape.MirroredBy other)

include mirrored

theorem read_eq : other.read = tape.read := by
  change other.cell other.cursor = tape.cell tape.cursor
  rw [mirrored.cells, mirrored.cursor, opposite_opposite]

theorem write (byte : UInt8) : (tape.write byte).MirroredBy (other.write byte) where
  cursor := mirrored.cursor
  cells position := by
    have same : other.cursor = position ↔ tape.cursor = opposite position := by
      rw [mirrored.cursor]
      constructor
      · rintro rfl
        exact (opposite_opposite _).symm
      · intro found
        rw [found, opposite_opposite]
    simp only [cell_write, same, mirrored.cells]

theorem moveRight : tape.moveRight.MirroredBy other.moveLeft where
  cursor := by
    simp only [Tape.moveRight, Tape.moveLeft, mirrored.cursor, leftOf_opposite]
  cells := mirrored.cells

theorem moveLeft : tape.moveLeft.MirroredBy other.moveRight where
  cursor := by
    simp only [Tape.moveRight, Tape.moveLeft, mirrored.cursor, rightOf_opposite]
  cells := mirrored.cells

/-- What a character does to a tape, the exchanged one does to the mirrored tape. -/
theorem effect (character : Char) :
    (Tape.effect character tape).MirroredBy (Tape.effect (Equiv.swap '<' '>' character) other) := by
  have counted (change : UInt8 → UInt8) :
      (tape.write (change tape.read)).MirroredBy (other.write (change other.read)) := by
    rw [mirrored.read_eq]
    exact mirrored.write _
  by_cases isLeft : character = '<'
  · rw [isLeft, Equiv.swap_apply_left]
    exact mirrored.moveLeft
  by_cases isRight : character = '>'
  · rw [isRight, Equiv.swap_apply_right]
    exact mirrored.moveRight
  rw [Equiv.swap_apply_of_ne_of_ne isLeft isRight]
  unfold Tape.effect
  cases read : Instruction.ofChar? character with
  | none => exact mirrored
  | some instruction =>
    obtain rfl := Instruction.ofChar?_eq_some_iff.mp read
    cases instruction with
    | increment => exact counted (· + 1)
    | decrement => exact counted (· - 1)
    | moveRight => exact absurd rfl isRight
    | moveLeft => exact absurd rfl isLeft
    | loopOpen | loopClose | output | input => exact mirrored

end MirroredBy

theorem mirroredBy_blank [HasCell n] : (blank n).MirroredBy (blank n) where
  cursor := by
    apply Fin.ext
    simp [opposite, blank]
  cells := by simp [cell_blank]

/-! ## The negated cells -/

/-- The other tape has the same cursor and the negated cells. -/
structure NegatedBy (tape other : Tape n) : Prop where
  cursor : other.cursor = tape.cursor
  cells : ∀ position : Fin n, other.cell position = -tape.cell position

namespace NegatedBy

variable {tape other : Tape n} (negated : tape.NegatedBy other)

include negated

theorem read_eq : other.read = -tape.read := by
  change other.cell other.cursor = -tape.cell tape.cursor
  rw [negated.cells, negated.cursor]

theorem write (byte : UInt8) : (tape.write byte).NegatedBy (other.write (-byte)) where
  cursor := negated.cursor
  cells position := by
    simp only [cell_write, negated.cursor, negated.cells]
    split_ifs <;> rfl

/-- Counting up on a tape is counting down on the negated tape. -/
theorem increment : tape.increment.NegatedBy other.decrement := by
  unfold Tape.increment Tape.decrement
  rw [negated.read_eq, ← UInt8.neg_add]
  exact negated.write _

theorem decrement : tape.decrement.NegatedBy other.increment := by
  have counted : other.read + 1 = -(tape.read - 1) := by
    rw [negated.read_eq, UInt8.neg_sub, UInt8.sub_eq_add_neg, UInt8.add_comm]
  unfold Tape.increment Tape.decrement
  rw [counted]
  exact negated.write _

/-- What a character does to a tape, the exchanged one does to the negated tape. -/
theorem effect (character : Char) :
    (Tape.effect character tape).NegatedBy (Tape.effect (Equiv.swap '+' '-' character) other) := by
  by_cases isPlus : character = '+'
  · rw [isPlus, Equiv.swap_apply_left]
    exact negated.increment
  by_cases isMinus : character = '-'
  · rw [isMinus, Equiv.swap_apply_right]
    exact negated.decrement
  rw [Equiv.swap_apply_of_ne_of_ne isPlus isMinus]
  unfold Tape.effect
  cases read : Instruction.ofChar? character with
  | none => exact negated
  | some instruction =>
    obtain rfl := Instruction.ofChar?_eq_some_iff.mp read
    cases instruction with
    | increment => exact absurd rfl isPlus
    | decrement => exact absurd rfl isMinus
    | moveRight => exact ⟨congrArg rightOf negated.cursor, negated.cells⟩
    | moveLeft => exact ⟨congrArg leftOf negated.cursor, negated.cells⟩
    | loopOpen | loopClose | output | input => exact negated

end NegatedBy

theorem negatedBy_blank [HasCell n] : (blank n).NegatedBy (blank n) where
  cursor := rfl
  cells := by simp [cell_blank]

end Tape

/-! ## The two correspondences -/

namespace Correspondence

/-- A tape is read as its mirrored one. -/
def mirrored (n : Nat) : Correspondence n n where
  character := Equiv.swap '<' '>'
  byte := id
  cursor cursor := (n - cursor) % n
  Like := Tape.MirroredBy
  Covers _ _ := True
  character_eq_iff := swap_eq_iff (by decide) (by decide)
  byte_eq_zero_iff := byte_id_iff
  cursor_eq mirrored := congrArg Fin.val mirrored.cursor
  read_eq mirrored := mirrored.read_eq
  write mirrored byte := mirrored.write byte
  effect mirrored _ := mirrored.effect _
  blank := Tape.mirroredBy_blank

/-- A tape is read as the one with the negated cells. -/
def negated (n : Nat) : Correspondence n n where
  character := Equiv.swap '+' '-'
  byte := (-·)
  cursor := id
  Like := Tape.NegatedBy
  Covers _ _ := True
  character_eq_iff := swap_eq_iff (by decide) (by decide)
  byte_eq_zero_iff given :=
    ⟨fun zero => UInt8.neg_inj.mp (zero.trans UInt8.neg_zero.symm),
      fun zero => (congrArg (-·) zero).trans UInt8.neg_zero⟩
  cursor_eq negated := congrArg Fin.val negated.cursor
  read_eq negated := negated.read_eq
  write negated byte := negated.write byte
  effect negated _ := negated.effect _
  blank := Tape.negatedBy_blank

end Correspondence

/-! ## Devices that take no notice of bytes -/

/-- The device that reads each byte negated. -/
def Device.negatedInput {World : Type u} (device : Device World) : Device World where
  read world := ((device.read world).1.map (Option.map (-·)), (device.read world).2)
  write := device.write
  flush := device.flush

/-- It makes no difference to any answer which bytes the device is given. Similar worlds are those
between which only such bytes make a difference. -/
structure Device.Indifferent {World : Type u} (device : Device World)
    (Similar : World → World → Prop) : Prop where
  read : ∀ {world worldToo}, Similar world worldToo →
    (device.read worldToo).1 = (device.read world).1 ∧
      Similar (device.read world).2 (device.read worldToo).2
  write : ∀ {world worldToo}, Similar world worldToo → ∀ byte byteToo,
    (device.write byteToo worldToo).1 = (device.write byte world).1 ∧
      Similar (device.write byte world).2 (device.write byteToo worldToo).2
  flush : ∀ {world worldToo}, Similar world worldToo →
    (device.flush worldToo).1 = (device.flush world).1 ∧
      Similar (device.flush world).2 (device.flush worldToo).2

/-- An indifferent device with negated input answers like the device. -/
theorem Device.Indifferent.answersAlike {World : Type u} {device : Device World}
    {Similar : World → World → Prop} (indifferent : device.Indifferent Similar) :
    AnswersAlike (-·) Similar device device.negatedInput where
  read similar := by
    obtain ⟨same, after⟩ := indifferent.read similar
    exact ⟨congrArg (Except.map (Option.map (-·))) same, after⟩
  write similar byte := indifferent.write similar byte (-byte)
  flush similar := indifferent.flush similar

namespace Script

variable {script : Script} {program : Program} (loaded : Program.load script = .ok program)

include loaded

/-- A script is accepted with other instructions if its brackets stay. -/
theorem exists_load_map {spell : Char → Char} (keeps : KeepsBrackets spell) :
    ∃ other, Program.load (script.map spell) = .ok other := by
  rw [Program.exists_load_iff, check_map keeps, ← Program.exists_load_iff]
  exact ⟨program, loaded⟩

/-- The machine is symmetric in its directions and in its signs. With the two moves exchanged a script
is accepted as before, and its session makes the same calls and steps, ends in the same way, and has
the mirrored tape. With counting up and counting down exchanged it is accepted as before too, and
between devices whose answers are the same but for negated bytes its session makes the same calls
but for negated bytes, takes the same steps and jumps, ends in the same way, and has the negated
cells. -/
theorem symmetric (strategy : Strategy) (n : Nat) [HasCell n] :
    (∃ mirrored, Program.load script.mirrored = .ok mirrored ∧
      ∀ {World : Type u} (device : Device World) (control : Control (World × CallLog))
        (world : World × CallLog) (count : Nat),
        RunsAlike (Event.map (fun cursor => (n - cursor) % n) id (Equiv.swap '<' '>'))
          (Tape.MirroredBy (n := n)) Eq count
          (program.withStrategy strategy) device.logged control world
          (mirrored.withStrategy strategy) device.logged control world) ∧
    ∃ negated, Program.load script.negated = .ok negated ∧
      ∀ {World : Type u} {Other : Type v} (Related : World → Other → Prop) (device : Device World)
        (other : Device Other) (control : Control (World × CallLog))
        (controlToo : Control (Other × CallLog)),
        AnswersAlike (-·) Related device other →
        (∀ {world worldToo}, RelatedCalls (-·) Related world worldToo → ∀ steps,
          controlToo.stop? steps worldToo = control.stop? steps world) →
        ∀ {world worldToo}, RelatedCalls (-·) Related world worldToo → ∀ count,
          RunsAlike (Event.map id (-·) (Equiv.swap '+' '-'))
            (Tape.NegatedBy (n := n)) (RelatedCalls (-·) Related) count
            (program.withStrategy strategy) device.logged control world
            (negated.withStrategy strategy) other.logged controlToo worldToo := by
  have loads (between : Correspondence n n) :
      ∃ other, Program.load (script.map between.character) = .ok other ∧
        (other.withStrategy strategy).script =
          (program.withStrategy strategy).script.map between.character := by
    obtain ⟨other, loadedToo⟩ := exists_load_map loaded between.keepsBrackets
    have same := Program.script_of_load loadedToo
    rw [← Program.script_of_load loaded] at same
    exact ⟨other, loadedToo, same⟩
  obtain ⟨mirrored, loadedMirrored, scriptMirrored⟩ := loads (.mirrored n)
  obtain ⟨negated, loadedNegated, scriptNegated⟩ := loads (.negated n)
  refine ⟨⟨mirrored, loadedMirrored, fun device control world count => ?_⟩,
    negated, loadedNegated, fun Related device other control controlToo answers stop => ?_⟩
  · have parallel : (Correspondence.mirrored n).Parallel Eq (program.withStrategy strategy)
        device.logged control (mirrored.withStrategy strategy) device.logged control :=
      { script := scriptMirrored
        answers := .refl device.logged
        stop := by rintro world _ rfl steps; rfl }
    exact parallel.runsAlike rfl (Correspondence.coversRun_of_forall fun _ _ => trivial)
  · have parallel : (Correspondence.negated n).Parallel (RelatedCalls (-·) Related)
        (program.withStrategy strategy) device.logged control (negated.withStrategy strategy)
        other.logged controlToo :=
      { script := scriptNegated
        answers := answers.logged
        stop := stop }
    intro world worldToo related count
    exact parallel.runsAlike related (Correspondence.coversRun_of_forall fun _ _ => trivial)

omit loaded in
/-- A move around the left end, its mirrored one, and a count below zero beside one above it. -/
theorem symmetric_wrap :
    ∃ program mirrored negated, Program.load #[',', '<', '-', '.'] = .ok program ∧
      Program.load #[',', '>', '-', '.'] = .ok mirrored ∧
      Program.load #[',', '<', '+', '.'] = .ok negated ∧
      RunsAlike (Event.map (fun cursor => (3 - cursor) % 3) id (Equiv.swap '<' '>'))
        (Tape.MirroredBy (n := 3)) Eq 5
        (program.withStrategy .scan) (Device.ofEnds .bytes .bytes).logged .none (([5], #[]), [])
        (mirrored.withStrategy .scan) (Device.ofEnds .bytes .bytes).logged .none (([5], #[]), []) ∧
      RunsAlike (Event.map id (-·) (Equiv.swap '+' '-')) (Tape.NegatedBy (n := 3))
        (RelatedCalls (-·) fun world worldToo => worldToo.1 = world.1) 5
        (program.withStrategy .scan) (Device.ofEnds .bytes .bytes).logged .none (([5], #[]), [])
        (negated.withStrategy .scan) (Device.ofEnds .bytes .bytes).negatedInput.logged .none
        (([5], #[]), []) := by
  have indifferent : (Device.ofEnds .bytes .bytes).Indifferent
      (fun world worldToo => worldToo.1 = world.1) := by
    constructor
    · rintro ⟨unread, kept⟩ ⟨_, keptToo⟩ rfl
      exact ⟨rfl, rfl⟩
    · rintro ⟨unread, kept⟩ ⟨_, keptToo⟩ rfl byte byteToo
      exact ⟨rfl, rfl⟩
    · rintro ⟨unread, kept⟩ ⟨_, keptToo⟩ rfl
      exact ⟨rfl, rfl⟩
  have loaded : Program.load #[',', '<', '-', '.'] = .ok ⟨_, _, _, rfl, rfl⟩ := rfl
  obtain ⟨⟨mirrored, loadedMirrored, runs⟩, negated, loadedNegated, runsToo⟩ :=
    symmetric loaded .scan 3
  have spelled : Script.mirrored #[',', '<', '-', '.'] = #[',', '>', '-', '.'] := by
    simp [Script.mirrored, Equiv.swap_apply_def]
  have spelledToo : Script.negated #[',', '<', '-', '.'] = #[',', '<', '+', '.'] := by
    simp [Script.negated, Equiv.swap_apply_def]
  rw [spelled] at loadedMirrored
  rw [spelledToo] at loadedNegated
  exact ⟨_, mirrored, negated, loaded, loadedMirrored, loadedNegated, runs _ _ _ 5,
    runsToo _ _ _ .none .none indifferent.answersAlike (fun _ _ => rfl) ⟨rfl, rfl⟩ 5⟩

end Script

end TapeMachine
