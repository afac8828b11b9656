import TapeMachine.Proofs.Advance
import TapeMachine.Proofs.Partners
import TapeMachine.Proofs.Structured

/-! # Jumps simulate structured loops

A session jumps between brackets, a block is executed loop by loop. A part of the script that is the
text of a block takes a session from its first position to the one behind it, or to a failure, or
nowhere, as the block says. The induction is on the block, and for a loop on its rounds; a round
takes at least one step, so rounds without an end are a session without an end.
-/

namespace TapeMachine

universe u

variable {n : Nat} {World : Type u}

/-- The session that a snapshot shows, at a position. -/
def Snapshot.session (snapshot : Snapshot n World) (position : Nat) : Session n :=
  ⟨snapshot.tape, position, snapshot.steps⟩

namespace Program

/-- From a position, a session comes to what the outcome says, at `finish` if it is finished. -/
def Meets (program : Program) (device : Device World) (position finish : Nat)
    (start : Snapshot n World) : Outcome n World → Prop
  | .finished last =>
    ∃ count, program.advance device .none count (start.session position) start.world =
      (.running (last.session finish), last.world)
  | .failed last failedAt error =>
    ∃ count, program.advance device .none count (start.session position) start.world =
      (.aborted (last.session failedAt) error, last.world)
  | .diverged =>
    ∀ count, ∃ next after, program.advance device .none count (start.session position) start.world =
      (.running next, after)

variable {program : Program} {device : Device World} {position middle finish : Nat}
  {start second : Snapshot n World} {outcome : Outcome n World}

/-! ## Going on -/

/-- What a session comes to, it comes to from every state that leads there. -/
theorem meets_of_advance {count : Nat}
    (reached : program.advance device .none count (start.session position) start.world =
      (.running (second.session middle), second.world))
    (rest : program.Meets device middle finish second outcome) :
    program.Meets device position finish start outcome := by
  cases outcome with
  | finished last | failed last failedAt error =>
    obtain ⟨more, ran⟩ := rest
    exact ⟨count + more, by rw [advance_add_of_running reached, ran]⟩
  | diverged =>
    intro total
    obtain ⟨next, after, ran⟩ := rest total
    rw [← advance_add_of_running reached] at ran
    exact exists_running_of_le ran (Nat.le_add_left total count)

theorem meets_of_then {first : Outcome n World} {rest : Snapshot n World → Outcome n World → Prop}
    (firstMeets : program.Meets device position middle start first)
    (ran : first.Then rest outcome)
    (restMeets : ∀ between, rest between outcome →
      program.Meets device middle finish between outcome) :
    program.Meets device position finish start outcome := by
  cases first with
  | finished between =>
    obtain ⟨count, reached⟩ := firstMeets
    exact meets_of_advance reached (restMeets between ran)
  | failed | diverged =>
    obtain rfl : outcome = _ := ran
    exact firstMeets

/-! ## Items -/

/-- The dispatch of an item performs it. -/
theorem meets_perform {item : Item} (present : program.script[position]? = some item.character)
    (start : Snapshot n World) :
    program.Meets device position (position + 1) start (item.perform device position start) := by
  have ran : program.advance device .none 1 (start.session position) start.world =
      program.dispatch device item.character (start.session position) start.world := by
    rw [advance_one]
    exact step_of_present present rfl
  unfold Item.perform
  cases read : Instruction.ofChar? item.character with
  | none =>
    refine ⟨1, ran.trans ?_⟩
    simp only [dispatch, action, read]
    rfl
  | some instruction =>
    have same := Instruction.ofChar?_eq_some_iff.mp read
    cases instruction with
    | loopOpen => exact absurd same item.notOpening
    | loopClose => exact absurd same item.notClosing
    | increment | decrement | moveRight | moveLeft =>
      refine ⟨1, ran.trans ?_⟩
      simp only [dispatch, action, read]
      rfl
    | output =>
      rw [dispatch_of_output read] at ran
      change _ = ((start.session position).delivered (device.write start.tape.read start.world).1,
        (device.write start.tape.read start.world).2) at ran
      rcases answer : device.write start.tape.read start.world with ⟨_ | _, after⟩ <;>
        rw [answer] at ran <;> exact ⟨1, ran⟩
    | input =>
      rw [dispatch_of_input read] at ran
      rcases answer : device.read start.world with ⟨_ | _ | _, after⟩ <;>
        rw [answer] at ran <;> exact ⟨1, ran⟩

/-! ## Loops -/

section Loops

variable {opening closing : Nat} {body : Snapshot n World → Outcome n World → Prop}

/-- From either end of a loop a session goes behind the loop on zero, and into it otherwise. -/
theorem step_bracket (device : Device World)
    (isLoop : Script.IsLoop program.script.toList opening closing)
    (bracket : position = opening ∨ position = closing) (start : Snapshot n World) :
    program.step device .none (start.session position) start.world =
      (.running (start.pass.session (if start.tape.read = 0 then closing + 1 else opening + 1)),
        start.world) := by
  rcases bracket with rfl | rfl
  · have present := isLoop.opens
    rw [Array.getElem?_toList] at present
    have acted : program.action '[' (start.session position) = .proceed
        (start.pass.session (if start.tape.read = 0 then closing + 1 else position + 1)) := by
      change (if start.tape.read = 0 then program.jump (start.session position)
        else .proceed ((start.session position).goOn id)) = _
      split
      · exact jump_of_partner (program.partner_eq_ok_iff.mpr (.inl isLoop))
      · rfl
    exact (step_of_present present rfl).trans (dispatch_of_proceed acted)
  · have present := isLoop.closes
    rw [Array.getElem?_toList] at present
    have acted : program.action ']' (start.session position) = .proceed
        (start.pass.session (if start.tape.read = 0 then position + 1 else opening + 1)) := by
      change (if start.tape.read = 0 then .proceed ((start.session position).goOn id)
        else program.jump (start.session position)) = _
      split
      · rfl
      · exact jump_of_partner (program.partner_eq_ok_iff.mpr (.inr isLoop))
    exact (step_of_present present rfl).trans (dispatch_of_proceed acted)

variable (isLoop : Script.IsLoop program.script.toList opening closing)
  (bodyMeets : ∀ start outcome, body start outcome →
    program.Meets device (opening + 1) closing start outcome)

include isLoop bodyMeets

/-- A round takes a session from the front of the body back to it, and that takes a step. -/
theorem advance_of_round {first second : Snapshot n World} (round : Round body first second) :
    ∃ count, 0 < count ∧
      program.advance device .none count (first.session (opening + 1)) first.world =
        (.running (second.session (opening + 1)), second.world) := by
  obtain ⟨last, done, nonzero, rfl⟩ := round
  obtain ⟨count, reached⟩ := bodyMeets _ _ done
  refine ⟨count + 1, Nat.succ_pos count, ?_⟩
  rw [advance_add_of_running reached, advance_one, step_bracket device isLoop (.inr rfl),
    if_neg nonzero]
  rfl

/-- Rounds without an end take a session through any number of steps. -/
theorem advance_of_rounds_forever (starts : Nat → Snapshot n World)
    (rounds : ∀ index, Round body (starts index) (starts (index + 1))) (index : Nat) :
    ∃ count, index ≤ count ∧
      program.advance device .none count ((starts 0).session (opening + 1)) (starts 0).world =
        (.running ((starts index).session (opening + 1)), (starts index).world) := by
  induction index with
  | zero => exact ⟨0, Nat.le_refl 0, rfl⟩
  | succ index ih =>
    obtain ⟨count, enough, reached⟩ := ih
    obtain ⟨more, positive, ran⟩ := advance_of_round isLoop bodyMeets (rounds index)
    exact ⟨count + more, by omega, by rw [advance_add_of_running reached, ran]⟩

theorem meets_rounds (rounds : Rounds body start outcome) :
    program.Meets device (opening + 1) (closing + 1) start outcome := by
  induction rounds with
  | last done zero =>
    obtain ⟨count, reached⟩ := bodyMeets _ _ done
    refine ⟨count + 1, ?_⟩
    rw [advance_add_of_running reached, advance_one, step_bracket device isLoop (.inr rfl),
      if_pos zero]
    rfl
  | again round _ ih =>
    obtain ⟨count, -, reached⟩ := advance_of_round isLoop bodyMeets round
    exact meets_of_advance reached ih
  | @stopped start outcome stop unfinished =>
    have met := bodyMeets start outcome stop
    cases outcome with
    | finished last => exact absurd rfl (unfinished last)
    | failed | diverged => exact met
  | forever starts rounds =>
    intro total
    -- As many rounds as there are steps to make take at least that many steps.
    obtain ⟨count, enough, reached⟩ :=
      advance_of_rounds_forever isLoop bodyMeets starts rounds total
    exact exists_running_of_le reached enough

theorem meets_looped (looped : Looped body start outcome) :
    program.Meets device opening (closing + 1) start outcome := by
  have entered := step_bracket device isLoop (.inl rfl) start
  rw [← advance_one] at entered
  unfold Looped at looped
  split at looped
  · rename_i zero
    obtain rfl := looped
    rw [if_pos zero] at entered
    exact ⟨1, entered⟩
  · rename_i nonzero
    rw [if_neg nonzero] at entered
    exact meets_of_advance entered (meets_rounds isLoop bodyMeets looped)

end Loops

end Program

/-! ## Blocks -/

/-- The text of a block stands at a position. -/
def Block.StandsAt (characters : List Char) (position : Nat) (block : Block) : Prop :=
  ∃ front behind, characters = front ++ (block.text ++ behind) ∧ position = front.length

namespace Block.StandsAt

variable {characters : List Char} {position : Nat} {head : Item} {body rest : Block}

theorem head_eq (stands : (item head rest).StandsAt characters position) :
    characters[position]? = some head.character := by
  obtain ⟨front, behind, rfl, rfl⟩ := stands
  simp [text]

theorem tail (stands : (item head rest).StandsAt characters position) :
    rest.StandsAt characters (position + 1) := by
  obtain ⟨front, behind, rfl, rfl⟩ := stands
  exact ⟨front ++ [head.character], behind, by simp [text], by simp⟩

theorem isLoop (stands : (loop body rest).StandsAt characters position) :
    Script.IsLoop characters position (position + 1 + body.text.length) := by
  obtain ⟨front, behind, rfl, rfl⟩ := stands
  exact ⟨front, body.text, rest.text ++ behind, by simp [text], body.depthAfter?_text 0, rfl, rfl⟩

theorem inside (stands : (loop body rest).StandsAt characters position) :
    body.StandsAt characters (position + 1) := by
  obtain ⟨front, behind, rfl, rfl⟩ := stands
  exact ⟨front ++ ['['], ']' :: (rest.text ++ behind), by simp [text], by simp⟩

theorem behind (stands : (loop body rest).StandsAt characters position) :
    rest.StandsAt characters (position + 1 + body.text.length + 1) := by
  obtain ⟨front, behind, rfl, rfl⟩ := stands
  exact ⟨front ++ '[' :: (body.text ++ [']']), behind, by simp [text], by simp; omega⟩

end Block.StandsAt

namespace Program

variable {program : Program} {device : Device World} {position : Nat}
  {start : Snapshot n World} {outcome : Outcome n World}

/-- The text of a block takes a session through the block. -/
theorem meets_runs {block : Block} (stands : block.StandsAt program.script.toList position)
    (ran : block.Runs device position start outcome) :
    program.Meets device position (position + block.text.length) start outcome := by
  induction block generalizing position start outcome with
  | done =>
    obtain rfl : outcome = .finished start := ran
    exact ⟨0, rfl⟩
  | item head rest ih =>
    have length : position + (Block.item head rest).text.length =
        position + 1 + rest.text.length := by
      simp only [Block.text, List.length_cons]
      omega
    have present := stands.head_eq
    rw [Array.getElem?_toList] at present
    rw [length]
    exact meets_of_then (meets_perform present start) ran fun _ => ih stands.tail
  | loop body rest ihBody ihRest =>
    have length : position + (Block.loop body rest).text.length =
        position + 1 + body.text.length + 1 + rest.text.length := by
      simp only [Block.text, List.length_cons, List.length_append]
      omega
    obtain ⟨looped, rounds, ran⟩ := ran
    have met := meets_looped stands.isLoop (fun _ _ => ihBody stands.inside) rounds
    rw [length]
    exact meets_of_then met ran fun _ => ihRest stands.behind

end Program

end TapeMachine
