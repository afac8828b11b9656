import Mathlib.Logic.Function.Iterate
import TapeMachine.Proofs.Block
import TapeMachine.Session.Basic
import TapeMachine.Device.Basic

/-! # Structured execution

What a block of items and loops means, told without positions to jump to. The items of a block are
performed in order. A loop costs one step when it is entered or skipped, and then one step behind
every round of its body, until the cell is zero behind a round. Positions only name the item that
failed. Every block has an outcome from every start: it finishes, fails, or goes on forever.
-/

namespace TapeMachine

universe u

variable {n : Nat} {World : Type u}

/-- All that a structured execution changes. -/
@[ext]
structure Snapshot (n : Nat) (World : Type u) where
  tape : Tape n
  steps : Nat
  world : World

namespace Snapshot

def start (n : Nat) [HasCell n] (world : World) : Snapshot n World := ⟨.blank n, 0, world⟩

def next (start : Snapshot n World) (tape : Tape n) (world : World) : Snapshot n World :=
  ⟨tape, start.steps + 1, world⟩

/-- One step without an effect. -/
def pass (start : Snapshot n World) : Snapshot n World := start.next start.tape start.world

/-- A call to the device that failed, which is no step. -/
def refused (start : Snapshot n World) (world : World) : Snapshot n World := { start with world }

end Snapshot

/-- What comes of a structured execution. -/
inductive Outcome (n : Nat) (World : Type u) where
  | finished (last : Snapshot n World)
  /-- The item at a position made a call that the device refused. -/
  | failed (last : Snapshot n World) (position : Nat) (error : ExecError)
  | diverged

/-- Go on with `rest` if the first part is finished. -/
def Outcome.Then (first : Outcome n World) (rest : Snapshot n World → Outcome n World → Prop)
    (outcome : Outcome n World) : Prop :=
  match first with
  | finished middle => rest middle outcome
  | failed .. | diverged => outcome = first

/-- Perform the item at a position. -/
def Item.perform (device : Device World) (item : Item) (position : Nat)
    (start : Snapshot n World) : Outcome n World :=
  match Instruction.ofChar? item.character with
  | some .increment => .finished (start.next start.tape.increment start.world)
  | some .decrement => .finished (start.next start.tape.decrement start.world)
  | some .moveRight => .finished (start.next start.tape.moveRight start.world)
  | some .moveLeft => .finished (start.next start.tape.moveLeft start.world)
  | some .output =>
    match device.write start.tape.read start.world with
    | (.ok (), world) => .finished (start.next start.tape world)
    | (.error failure, world) => .failed (start.refused world) position (.io position failure)
  | some .input =>
    match device.read start.world with
    | (.ok (some byte), world) => .finished (start.next (start.tape.write byte) world)
    | (.ok none, world) => .failed (start.refused world) position (.noMoreInput position)
    | (.error failure, world) => .failed (start.refused world) position (.io position failure)
  | _ => .finished start.pass

section Loops

variable {body : Snapshot n World → Outcome n World → Prop}

/-- One round of a loop, behind which the loop is not left. -/
def Round (body : Snapshot n World → Outcome n World → Prop) (first second : Snapshot n World) :
    Prop :=
  ∃ last, body first (.finished last) ∧ last.tape.read ≠ 0 ∧ second = last.pass

/-- The rounds of a loop that was entered. -/
inductive Rounds (body : Snapshot n World → Outcome n World → Prop) :
    Snapshot n World → Outcome n World → Prop
  | last {start last : Snapshot n World} (done : body start (.finished last))
      (zero : last.tape.read = 0) : Rounds body start (.finished last.pass)
  | again {start second : Snapshot n World} {outcome : Outcome n World}
      (round : Round body start second) (rounds : Rounds body second outcome) :
      Rounds body start outcome
  | stopped {start : Snapshot n World} {outcome : Outcome n World} (stop : body start outcome)
      (unfinished : ∀ last, outcome ≠ .finished last) : Rounds body start outcome
  | forever (starts : Nat → Snapshot n World)
      (rounds : ∀ index, Round body (starts index) (starts (index + 1))) :
      Rounds body (starts 0) .diverged

/-- A loop with all its rounds, or skipped. -/
def Looped (body : Snapshot n World → Outcome n World → Prop) (start : Snapshot n World)
    (outcome : Outcome n World) : Prop :=
  if start.tape.read = 0 then outcome = .finished start.pass else Rounds body start.pass outcome

end Loops

/-- The outcomes of a block whose text begins at a position. -/
def Block.Runs (device : Device World) :
    Block → Nat → Snapshot n World → Outcome n World → Prop
  | done, _, start, outcome => outcome = .finished start
  | item head rest, position, start, outcome =>
    (head.perform device position start).Then (rest.Runs device (position + 1)) outcome
  | loop body rest, position, start, outcome =>
    ∃ looped, Looped (body.Runs device (position + 1)) start looped ∧
      looped.Then (rest.Runs device (position + 1 + body.text.length + 1)) outcome

/-! ## Every block has an outcome -/

theorem Outcome.exists_then {rest : Snapshot n World → Outcome n World → Prop}
    (total : ∀ middle, ∃ outcome, rest middle outcome) (first : Outcome n World) :
    ∃ outcome, first.Then rest outcome := by
  cases first with
  | finished middle => exact total middle
  | failed | diverged => exact ⟨_, rfl⟩

/-- Where the rounds of a loop have no outcome, there is one more round to a start like it. -/
theorem Round.exists_of_no_outcome {body : Snapshot n World → Outcome n World → Prop}
    {start : Snapshot n World} (total : ∃ outcome, body start outcome)
    (without : ∀ outcome, ¬Rounds body start outcome) :
    ∃ second, Round body start second ∧ ∀ outcome, ¬Rounds body second outcome := by
  obtain ⟨outcome, ran⟩ := total
  cases outcome with
  | finished last =>
    have nonzero : last.tape.read ≠ 0 := fun zero => without _ (.last ran zero)
    have round : Round body start last.pass := ⟨last, ran, nonzero, rfl⟩
    exact ⟨last.pass, round, fun outcome rounds => without outcome (.again round rounds)⟩
  | failed | diverged => exact absurd (.stopped ran (by simp)) (without _)

theorem Rounds.exists_outcome {body : Snapshot n World → Outcome n World → Prop}
    (total : ∀ start, ∃ outcome, body start outcome) (start : Snapshot n World) :
    ∃ outcome, Rounds body start outcome := by
  by_contra none
  have without : ∀ outcome, ¬Rounds body start outcome := not_exists.mp none
  choose next round lasting using
    fun start : { start // ∀ outcome, ¬Rounds body start outcome } =>
      Round.exists_of_no_outcome (total start) start.property
  -- Going on from such a start to the next is a loop without an end.
  let follow (start : { start // ∀ outcome, ¬Rounds body start outcome }) :
      { start // ∀ outcome, ¬Rounds body start outcome } := ⟨next start, lasting start⟩
  refine without .diverged (Rounds.forever (fun index => (follow^[index] ⟨start, without⟩).val) ?_)
  intro index
  rw [Function.iterate_succ_apply']
  exact round _

theorem Looped.exists_outcome {body : Snapshot n World → Outcome n World → Prop}
    (total : ∀ start, ∃ outcome, body start outcome) (start : Snapshot n World) :
    ∃ outcome, Looped body start outcome := by
  unfold Looped
  split
  · exact ⟨_, rfl⟩
  · exact Rounds.exists_outcome total start.pass

/-- Structured execution always comes to something. -/
theorem Block.exists_outcome (device : Device World) (block : Block) (position : Nat)
    (start : Snapshot n World) : ∃ outcome, block.Runs device position start outcome := by
  induction block generalizing position start with
  | done => exact ⟨_, rfl⟩
  | item head rest ih => exact Outcome.exists_then (ih (position + 1)) _
  | loop body rest ihBody ihRest =>
    obtain ⟨looped, rounds⟩ := Looped.exists_outcome (ihBody (position + 1)) start
    obtain ⟨outcome, ran⟩ := Outcome.exists_then (ihRest _) looped
    exact ⟨outcome, looped, rounds, ran⟩

end TapeMachine
