import TapeMachine.Device.Text
import TapeMachine.Proofs.Calls
import TapeMachine.Proofs.Ending
import TapeMachine.Proofs.NoOp

/-! # A word without effect can be put anywhere

Every character behind the insertion stands further back, and so do the partners of the brackets.
A session of the longer script goes through the same states as one of the script itself. Whenever
that one stands at the insertion, the longer one goes through the word first; in between both make
the same dispatch. Both therefore make the same calls and end alike, and the longer session takes
the length of the word more for every state at the insertion.
-/

namespace TapeMachine

universe u

variable {n : Nat} {World : Type u}

def LoopFault.moved (move : Nat → Nat) : LoopFault → LoopFault
  | notBound position => .notBound (move position)
  | ranOffEnd position => .ranOffEnd (move position)

/-- The same error at another position, if it names one. -/
def ExecError.moved (move : Nat → Nat) : ExecError → ExecError
  | noMoreInput position => .noMoreInput (move position)
  | io position failure => .io (move position) failure
  | internal fault => .internal (fault.moved move)
  | stepLimitExceeded limit => .stepLimitExceeded limit
  | cancelled => .cancelled

theorem ExecError.moved_injective {move : Nat → Nat} (injective : Function.Injective move) :
    Function.Injective (moved move) := by
  intro first second same
  cases first <;> cases second <;> simp [moved] at same ⊢
  case noMoreInput.noMoreInput => exact injective same
  case stepLimitExceeded.stepLimitExceeded => exact same
  case io.io => exact ⟨injective same.1, same.2⟩
  case internal.internal first second =>
    cases first <;> cases second <;> simp [LoopFault.moved] at same ⊢ <;> exact injective same

/-- The state of a session that stands at another position and has made `extra` dispatches more. -/
def Session.moved (move : Nat → Nat) (extra : Nat) (session : Session n) : Session n :=
  ⟨session.tape, move session.position, session.steps + extra⟩

/-- The result of a session that has come to the same at another position. -/
def movedResult (move : Nat → Nat) (extra : Nat) :
    Except ExecError (Halted n) → Except ExecError (Halted n)
  | .ok halted => .ok ⟨halted.tape, halted.steps + extra⟩
  | .error error => .error (error.moved move)

/-- Where a session arrives that goes on to a position: in front of the word, if it stands there. -/
def arrival (index length position : Nat) : Nat :=
  if position ≤ index then position else position + length

/-- Behind a character, and behind the partner of a bracket. -/
theorem arrival_succ (index length position : Nat) :
    arrival index length (position + 1) = shifted index length position + 1 := by
  grind [arrival, shifted]

theorem Session.goTo_moved (index length extra : Nat) (session : Session n) (position : Nat) :
    (session.moved (shifted index length) extra).goTo (shifted index length position + 1) =
      (session.goTo (position + 1)).moved (arrival index length) extra := by
  simp only [goTo, moved, arrival_succ, Nat.add_right_comm]

theorem Session.goOn_moved (index length extra : Nat) (session : Session n)
    (change : Tape n → Tape n) :
    (session.moved (shifted index length) extra).goOn change =
      (session.goOn change).moved (arrival index length) extra := by
  simp only [goOn, moved, arrival_succ, Nat.add_right_comm]

/-- How a session stands behind a step, if one without the word stands so. -/
def Status.carried (index length extra : Nat) : Status n → Status n
  | running next => .running (next.moved (arrival index length) extra)
  | completed last => .completed (last.moved (shifted index length) extra)
  | aborted last error =>
    .aborted (last.moved (shifted index length) extra) (error.moved (shifted index length))

namespace Status

variable (index length extra : Nat)

theorem received_moved (session : Session n) (answer : Except IoFailure (Option UInt8)) :
    (session.moved (shifted index length) extra).received answer =
      (session.received answer).carried index length extra := by
  rcases answer with failure | _ | byte
  · rfl
  · rfl
  · exact congrArg running (Session.goOn_moved ..)

theorem delivered_moved (session : Session n) (answer : Except IoFailure Unit) :
    (session.moved (shifted index length) extra).delivered answer =
      (session.delivered answer).carried index length extra := by
  rcases answer with failure | _
  · rfl
  · exact congrArg running (Session.goOn_moved ..)

theorem result?_carried (flushed : Except IoFailure Unit) (status : Status n) :
    (status.carried index length extra).result? flushed =
      (status.result? flushed).map (movedResult (shifted index length) extra) := by
  cases status with
  | running | aborted => rfl
  | completed last => cases flushed <;> rfl

end Status

namespace Program

/-- The script of one program is that of another with a word in it that does nothing. -/
structure Inserted (program : Program) (index : Nat) (word : List Char) (longer : Program) :
    Prop where
  within : index ≤ program.script.size
  noOp : NoOp word
  script_eq : longer.script = program.script.insertAt index word

/-- How many of the first `count` states of a session stand at the position. -/
def visits (program : Program) (device : Device World) (n : Nat) [HasCell n] (world : World)
    (position count : Nat) : Nat :=
  (List.range count).countP fun step =>
    (program.advance device .none step (Session.start n) world).1.session.position == position

theorem visits_succ [HasCell n] {program : Program} {device : Device World} {world after : World}
    {count : Nat} {next : Session n}
    (reached : program.advance device .none count (Session.start n) world = (.running next, after))
    (position : Nat) :
    program.visits device n world position (count + 1) =
      program.visits device n world position count +
        if next.position = position then 1 else 0 := by
  unfold visits
  rw [List.range_succ, List.countP_append, List.countP_singleton, reached]
  simp [Status.session]

theorem mul_visits_succ [HasCell n] {program : Program} {device : Device World}
    {world after : World} {count : Nat} {next : Session n}
    (reached : program.advance device .none count (Session.start n) world = (.running next, after))
    (position length : Nat) :
    length * program.visits device n world position (count + 1) =
      length * program.visits device n world position count +
        if next.position = position then length else 0 := by
  rw [visits_succ reached, Nat.mul_add]
  split <;> simp

namespace Inserted

variable {program longer : Program} {index : Nat} {word : List Char} {device : Device World}

section Script

variable (inserted : program.Inserted index word longer)

include inserted

theorem size_eq : longer.script.size = program.script.size + word.length := by
  rw [inserted.script_eq, Script.insertAt, List.size_toArray, length_insertWord, Array.length_toList]

theorem getElem?_shifted (position : Nat) :
    longer.script[shifted index word.length position]? = program.script[position]? := by
  rw [inserted.script_eq, Script.insertAt, List.getElem?_toArray,
    getElem?_insertWord_shifted inserted.within, Array.getElem?_toList]

theorem getElem?_word {offset : Nat} (inside : offset < word.length) :
    longer.script[index + offset]? = word[offset]? := by
  rw [inserted.script_eq, Script.insertAt, List.getElem?_toArray,
    getElem?_insertWord_word inserted.within inside]

theorem shifted_size : shifted index word.length program.script.size = longer.script.size := by
  rw [inserted.size_eq, shifted, if_neg (Nat.not_lt.mpr inserted.within)]

/-- Partners stay partners. -/
theorem partner_shifted {position other : Nat} (found : program.partner position = .ok other) :
    longer.partner (shifted index word.length position) =
      .ok (shifted index word.length other) := by
  rw [partner_eq_ok_iff, inserted.script_eq]
  rcases program.partner_eq_ok_iff.mp found with isLoop | isLoop
  · exact .inl (isLoop.insertWord inserted.noOp.isQuiet index)
  · exact .inr (isLoop.insertWord inserted.noOp.isQuiet index)

end Script

section Session

variable (inserted : program.Inserted index word longer)

include inserted

/-- What a session goes through at a position before it makes the dispatch there. -/
theorem advance_arrival (position : Nat) (tape : Tape n) (steps : Nat) (world : World) :
    longer.advance device .none (if position = index then word.length else 0)
        ⟨tape, arrival index word.length position, steps⟩ world =
      (.running ⟨tape, shifted index word.length position,
        steps + if position = index then word.length else 0⟩, world) := by
  by_cases atIndex : position = index
  · subst atIndex
    simp only [↓reduceIte, arrival, Nat.le_refl, shifted, Nat.lt_irrefl]
    rw [advance_quiet inserted.noOp.isQuiet (fun offset inside => inserted.getElem?_word inside),
      inserted.noOp.foldl_effect]
  · have same : arrival index word.length position = shifted index word.length position := by
      grind [arrival, shifted]
    simp only [atIndex, ↓reduceIte, same, Nat.add_zero, advance_zero]

theorem world_of_advance_arrival (position : Nat) (tape : Tape n) (steps : Nat) (world : World)
    {count : Nat} (within : count ≤ if position = index then word.length else 0) :
    (longer.advance device .none count ⟨tape, arrival index word.length position, steps⟩ world).2 =
      world := by
  by_cases atIndex : position = index
  · subst atIndex
    simp only [↓reduceIte] at within
    simp only [arrival, Nat.le_refl, ↓reduceIte]
    exact world_of_advance_quiet inserted.noOp.isQuiet
      (fun offset inside => inserted.getElem?_word inside) tape steps world within
  · rw [if_neg atIndex, Nat.le_zero] at within
    subst within
    rfl

/-- The longer session makes the same dispatch at the other position. -/
theorem dispatch_moved {session : Session n} {character : Char}
    (present : program.script[session.position]? = some character) (extra : Nat) (world : World) :
    longer.dispatch device character (session.moved (shifted index word.length) extra) world =
      ((program.dispatch device character session world).1.carried index word.length extra,
        (program.dispatch device character session world).2) := by
  have sameJumps : Instruction.charJumpsOn character
      (session.moved (shifted index word.length) extra).tape.read =
        Instruction.charJumpsOn character session.tape.read := rfl
  by_cases jumps : Instruction.charJumpsOn character session.tape.read
  · obtain ⟨target, found, -⟩ :=
      program.exists_partner present (Instruction.bracket_of_charJumpsOn jumps)
    rw [dispatch_of_jump jumps found,
      dispatch_of_jump (sameJumps.trans jumps) (inserted.partner_shifted found), Session.goTo_moved]
    rfl
  by_cases isOutput : Instruction.ofChar? character = some .output
  · rw [dispatch_of_output isOutput, dispatch_of_output isOutput, Status.delivered_moved]
    rfl
  by_cases isInput : Instruction.ofChar? character = some .input
  · rw [dispatch_of_input isInput, dispatch_of_input isInput, Status.received_moved]
  · rw [dispatch_of_proceed (program.action_of_plain jumps isOutput isInput)]
    rw [← sameJumps] at jumps
    rw [dispatch_of_proceed (longer.action_of_plain jumps isOutput isInput), Session.goOn_moved]
    rfl

/-- Each step of a session is a step of the longer one. -/
theorem step_moved {session : Session n} (inside : session.position ≤ program.script.size)
    (extra : Nat) (world : World) :
    longer.step device .none (session.moved (shifted index word.length) extra) world =
      ((program.step device .none session world).1.carried index word.length extra,
        (program.step device .none session world).2) := by
  rcases Nat.eq_or_lt_of_le inside with atEnd | before
  · have atEndToo : (session.moved (shifted index word.length) extra).position =
        longer.script.size := (congrArg _ atEnd).trans inserted.shifted_size
    rw [step_of_outside (Nat.le_of_eq atEnd.symm), step_of_outside (Nat.le_of_eq atEndToo.symm)]
    rfl
  · have present := Array.getElem?_eq_getElem before
    have presentToo := (inserted.getElem?_shifted session.position).trans present
    rw [step_of_present present rfl, ← inserted.dispatch_moved present]
    exact step_of_present presentToo rfl

end Session

section Run

variable [HasCell n] (inserted : program.Inserted index word longer) {count : Nat}
  {world after : World} {next : Session n}

include inserted

/-- From where it arrives the longer session goes on behind the word. -/
theorem advance_settled_of_arrived
    (reached : program.advance device .none count (Session.start n) world = (.running next, after))
    (arrived : longer.advance device .none
      (count + word.length * program.visits device n world index count) (Session.start n) world =
        (.running (next.moved (arrival index word.length)
          (word.length * program.visits device n world index count)), after)) :
    longer.advance device .none
        (count + word.length * program.visits device n world index (count + 1)) (Session.start n)
        world =
      (.running (next.moved (shifted index word.length)
        (word.length * program.visits device n world index (count + 1))), after) := by
  rw [mul_visits_succ reached, ← Nat.add_assoc, advance_add_of_running arrived, Session.moved,
    inserted.advance_arrival, Session.moved, Nat.add_assoc]

/-- The longer session arrives wherever the session itself is, after the length of the word more for
each time that this one stood at the insertion. -/
theorem advance_arrived
    (reached : program.advance device .none count (Session.start n) world = (.running next, after)) :
    longer.advance device .none
        (count + word.length * program.visits device n world index count) (Session.start n) world =
      (.running (next.moved (arrival index word.length)
        (word.length * program.visits device n world index count)), after) := by
  induction count generalizing next after with
  | zero =>
    cases reached
    simp [visits, Session.moved, Session.start, arrival]
  | succ count ih =>
    obtain ⟨middle, between, ran⟩ := exists_running_of_le reached (Nat.le_succ count)
    have settled := inserted.advance_settled_of_arrived ran (ih ran)
    have stepped := reached
    rw [advance_add_of_running ran, advance_one] at stepped
    have inside : middle.position ≤ program.script.size :=
      Nat.le_of_lt (free_of_running reached ran (Nat.lt_succ_self count)).1
    rw [Nat.add_right_comm, advance_add_of_running settled, advance_one,
      inserted.step_moved inside, stepped]
    rfl

theorem advance_settled
    (reached : program.advance device .none count (Session.start n) world = (.running next, after)) :
    longer.advance device .none
        (count + word.length * program.visits device n world index (count + 1)) (Session.start n)
        world =
      (.running (next.moved (shifted index word.length)
        (word.length * program.visits device n world index (count + 1))), after) :=
  inserted.advance_settled_of_arrived reached (inserted.advance_arrived reached)

/-- From there its next step is the step of the session itself. -/
theorem advance_settled_succ
    (reached : program.advance device .none count (Session.start n) world = (.running next, after)) :
    longer.advance device .none
        (count + word.length * program.visits device n world index (count + 1) + 1)
        (Session.start n) world =
      ((program.step device .none next after).1.carried index word.length
          (word.length * program.visits device n world index (count + 1)),
        (program.step device .none next after).2) := by
  rw [advance_add_of_running (inserted.advance_settled reached), advance_one,
    inserted.step_moved (position_le_of_running reached)]

/-! ## The same calls -/

/-- Up to there the longer session has been through no other worlds. -/
theorem exists_world_eq_of_le {countToo : Nat}
    (reached : program.advance device .none count (Session.start n) world = (.running next, after))
    (le : countToo ≤ count + word.length * program.visits device n world index (count + 1)) :
    ∃ first, (longer.advance device .none countToo (Session.start n) world).2 =
      (program.advance device .none first (Session.start n) world).2 := by
  induction count using Nat.strongRecOn generalizing next after with
  | ind count ih =>
    rcases Nat.lt_or_ge countToo
      (count + word.length * program.visits device n world index count) with early | late
    · cases count with
      | zero => simp [visits] at early
      | succ count =>
        obtain ⟨middle, between, ran⟩ := exists_running_of_le reached (Nat.le_succ count)
        exact ih count (Nat.lt_succ_self count) ran (by omega)
    · obtain ⟨passed, rfl⟩ := Nat.exists_eq_add_of_le late
      rw [mul_visits_succ reached] at le
      refine ⟨count, ?_⟩
      rw [advance_add_of_running (inserted.advance_arrived reached), reached, Session.moved,
        inserted.world_of_advance_arrival _ _ _ _ (by omega)]

/-- Whatever world a session comes to, the longer one comes to. -/
theorem exists_advance_world_eq (count : Nat) (world : World) :
    ∃ countToo, (longer.advance device .none countToo (Session.start n) world).2 =
      (program.advance device .none count (Session.start n) world).2 := by
  rcases reached : program.advance device .none count (Session.start n) world with ⟨status, after⟩
  cases status with
  | running next => exact ⟨_, by rw [inserted.advance_arrived reached]⟩
  | completed | aborted =>
    obtain ⟨first, last, before, running, stepped⟩ := exists_last_step reached (by simp)
    exact ⟨_, by rw [inserted.advance_settled_succ running, stepped]⟩

/-- The longer session comes to no other worlds. -/
theorem exists_world_eq_advance (countToo : Nat) (world : World) :
    ∃ count, (longer.advance device .none countToo (Session.start n) world).2 =
      (program.advance device .none count (Session.start n) world).2 := by
  rcases reached : program.advance device .none countToo (Session.start n) world with
    ⟨status, after⟩
  by_cases running : ∃ next, status = .running next
  · obtain ⟨next, rfl⟩ := running
    exact inserted.exists_world_eq_of_le reached (Nat.le_add_right ..)
  · have ended (next : Session n) : status ≠ .running next := fun same => running ⟨next, same⟩
    obtain ⟨first, last, before, ran, stepped⟩ := exists_last_step reached ended
    rcases Nat.lt_or_ge (first + word.length * program.visits device n world index (first + 1))
      countToo with late | early
    · have endedToo := inserted.advance_settled_succ ran
      rw [stepped] at endedToo
      have never (next : Session n) : status.carried index word.length
          (word.length * program.visits device n world index (first + 1)) ≠ .running next := by
        cases status with
        | running next => exact absurd rfl (ended next)
        | completed | aborted => simp [Status.carried]
      refine ⟨countToo, ?_⟩
      rw [advance_of_ended endedToo never late, reached]
    · exact inserted.exists_world_eq_of_le ran early

end Run

/-! ## The same end -/

section End

variable [HasCell n] (inserted : program.Inserted index word longer) {world final : World}
  {result other : Except ExecError (Halted n)}

/-- What the longer session ends with, if the session itself ends with a result. -/
def resultBehind (program : Program) (device : Device World) (n : Nat) [HasCell n] (world : World)
    (index length : Nat) : Except ExecError (Halted n) → Except ExecError (Halted n)
  | .ok halted =>
    .ok ⟨halted.tape,
      halted.steps + length * program.visits device n world index (halted.steps + 1)⟩
  | .error error => .error (error.moved (shifted index length))

include inserted

theorem endsWith_of_endsWith (ends : program.EndsWith device .none n world result final) :
    longer.EndsWith device .none n world
      (resultBehind program device n world index word.length result) final := by
  obtain ⟨first, last, before, status, after, running, stepped, found, rfl⟩ :=
    endsWith_iff.mp ends
  have steppedToo : longer.step device .none _ before = _ :=
    inserted.step_moved (position_le_of_running running)
      (word.length * program.visits device n world index (first + 1)) before
  rw [stepped] at steppedToo
  refine endsWith_iff.mpr ⟨_, _, _, _, _, inserted.advance_settled running, steppedToo, ?_, rfl⟩
  rw [Status.result?_carried, found]
  cases result with
  | error error => rfl
  | ok halted =>
    obtain rfl := halted_eq_of_step stepped found
    simp only [Option.map_some, movedResult, resultBehind, steps_of_running running]

/-- If the session goes on forever, so does the longer one. -/
theorem forall_run?_eq_none
    (never : ∀ count, program.run? device .none n count world = none) (count : Nat) :
    longer.run? device .none n count world = none := by
  obtain ⟨next, after, reached⟩ := run?_eq_none_iff.mp (never count)
  rw [run?_eq_none_iff]
  exact exists_running_of_le (inserted.advance_arrived reached) (Nat.le_add_right ..)

/-- What the longer session ends with comes from what the session itself ends with. -/
theorem endsWith_iff_exists :
    longer.EndsWith device .none n world other final ↔
      ∃ result, program.EndsWith device .none n world result final ∧
        other = resultBehind program device n world index word.length result := by
  constructor
  · intro endsToo
    by_cases ends : ∃ result final, program.EndsWith device .none n world result final
    · obtain ⟨result, finalToo, ends⟩ := ends
      obtain ⟨rfl, rfl⟩ := endsToo.unique (inserted.endsWith_of_endsWith ends)
      exact ⟨result, ends, rfl⟩
    · have never := forall_run?_eq_none_iff.mpr fun result final ended => ends ⟨result, final, ended⟩
      have neverToo := inserted.forall_run?_eq_none never
      exact absurd endsToo (forall_run?_eq_none_iff.mp neverToo _ _)
  · rintro ⟨result, ends, rfl⟩
    exact inserted.endsWith_of_endsWith ends

end End

end Inserted

/-- A word without effect may stand anywhere in an accepted script, inside its loops too. The script
is accepted with it, and for every tape, device and strategy its sessions make the same calls,
through the same worlds: they halt with the same cells and cursor, fail with the same error at the
place where its instruction now stands, or go on forever, exactly as without it. A session that
halts has then taken the length of the word more for every state of it, the last one included, that
stands at the insertion. -/
theorem insert_invisible (program : Program) {index : Nat} {word : List Char}
    (within : index ≤ program.script.size) (noOp : NoOp word) :
    (program.script.insertAt index word).check = .ok () ∧
    ∀ (longer : Program) (device : Device World) (n : Nat) [HasCell n] (world : World),
      longer.script = program.script.insertAt index word →
        (∀ count, ∃ countToo,
          (longer.advance device.logged .none countToo (Session.start n) (world, [])).2 =
            (program.advance device.logged .none count (Session.start n) (world, [])).2) ∧
        (∀ countToo, ∃ count,
          (longer.advance device.logged .none countToo (Session.start n) (world, [])).2 =
            (program.advance device.logged .none count (Session.start n) (world, [])).2) ∧
        ((∀ count, program.run? device.logged .none n count (world, []) = none) ↔
          ∀ count, longer.run? device.logged .none n count (world, []) = none) ∧
        (∀ tape final,
          (∃ steps, program.EndsWith device.logged .none n (world, []) (.ok ⟨tape, steps⟩) final) ↔
            ∃ steps, longer.EndsWith device.logged .none n (world, []) (.ok ⟨tape, steps⟩) final) ∧
        (∀ error final,
          program.EndsWith device.logged .none n (world, []) (.error error) final ↔
            longer.EndsWith device.logged .none n (world, [])
              (.error (error.moved (shifted index word.length))) final) ∧
        ∀ halted haltedToo final finalToo,
          program.EndsWith device.logged .none n (world, []) (.ok halted) final →
          longer.EndsWith device.logged .none n (world, []) (.ok haltedToo) finalToo →
            haltedToo.steps = halted.steps + word.length *
              program.visits device.logged n (world, []) index (halted.steps + 1) := by
  refine ⟨(program.script.check_insertAt noOp.isQuiet index).mpr program.balanced, ?_⟩
  intro longer device n _ world same
  have inserted : program.Inserted index word longer := ⟨within, noOp, same⟩
  refine ⟨fun count => inserted.exists_advance_world_eq count _,
    fun countToo => inserted.exists_world_eq_advance countToo _, ?_, ?_, ?_, ?_⟩
  · refine ⟨inserted.forall_run?_eq_none, fun neverToo => ?_⟩
    rw [forall_run?_eq_none_iff] at neverToo ⊢
    exact fun result final ends => neverToo _ _ (inserted.endsWith_of_endsWith ends)
  · intro tape final
    constructor
    · rintro ⟨steps, ends⟩
      exact ⟨_, inserted.endsWith_of_endsWith ends⟩
    · rintro ⟨steps, endsToo⟩
      obtain ⟨result, ends, same⟩ := inserted.endsWith_iff_exists.mp endsToo
      cases result with
      | error error => cases same
      | ok halted =>
        cases same
        exact ⟨halted.steps, ends⟩
  · intro error final
    refine ⟨inserted.endsWith_of_endsWith, fun endsToo => ?_⟩
    obtain ⟨result, ends, same⟩ := inserted.endsWith_iff_exists.mp endsToo
    cases result with
    | ok halted => cases same
    | error other =>
      obtain rfl := ExecError.moved_injective (shifted_injective ..) (Except.error.inj same)
      exact ends
  · intro halted haltedToo final finalToo ends endsToo
    obtain ⟨same, -⟩ := endsToo.unique (inserted.endsWith_of_endsWith ends)
    cases same
    rfl

/-- Put in front of a loop body, a step to the right and one back are made whenever the body is
entered: once from the opening bracket, and once from the closing one. -/
theorem insert_invisible_loopBody :
    ∃ program longer : Program, load #['+', '+', '[', '-', ']'] = .ok program ∧
      load #['+', '+', '[', '>', '<', '-', ']'] = .ok longer ∧
      3 ≤ program.script.size ∧ NoOp ['>', '<'] ∧
      longer.script = program.script.insertAt 3 ['>', '<'] ∧
      ∃ tape final,
        program.EndsWith (Device.ofEnds .text .bytes).logged .none 1 (([], #[]), [])
          (.ok ⟨tape, 7⟩) final ∧
        longer.EndsWith (Device.ofEnds .text .bytes).logged .none 1 (([], #[]), [])
          (.ok ⟨tape, 7 + 2 * 2⟩) final := by
  refine ⟨⟨_, _, _, rfl, rfl⟩, ⟨_, _, _, rfl, rfl⟩, rfl, rfl, by decide, .rightLeft, rfl,
    .blank 1, (([], #[]), [.flush (.ok ())]), ?_⟩
  have ends : EndsWith ⟨#['+', '+', '[', '-', ']'], _, .default, rfl, rfl⟩
      (Device.ofEnds .text .bytes).logged .none 1 (([], #[]), []) (.ok ⟨.blank 1, 7⟩)
        (([], #[]), [.flush (.ok ())]) := ⟨8, _, rfl, rfl, rfl⟩
  obtain ⟨-, -, -, halts, -, steps⟩ :=
    (insert_invisible ⟨#['+', '+', '[', '-', ']'], _, .default, rfl, rfl⟩
      (show 3 ≤ 5 by decide) .rightLeft).2
        ⟨#['+', '+', '[', '>', '<', '-', ']'], _, .default, rfl, rfl⟩ (.ofEnds .text .bytes) 1
          ([], #[]) rfl
  obtain ⟨stepsToo, endsToo⟩ := (halts _ _).mp ⟨7, ends⟩
  obtain rfl : stepsToo = 7 + 2 * 2 := steps _ _ _ _ ends endsToo
  exact ⟨ends, endsToo⟩

end Program

end TapeMachine
