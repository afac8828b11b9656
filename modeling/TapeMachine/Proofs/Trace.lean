import TapeMachine.Proofs.Guards
import TapeMachine.Proofs.Record

/-! # The record as a trace of states

A record falls into entries, one for each dispatch: the dispatch event with the state in front of
the dispatch, and directly behind it the jump event if the dispatch is a jump. From one entry to the
next the position goes on as the entry says. One event closes the record and counts the dispatches
that were made to their end, unless the script was executed and only the flush behind it failed.
-/

namespace TapeMachine

universe u

/-- A dispatch as a record tells it. -/
structure Entry where
  step : Nat
  position : Nat
  cursor : Nat
  cell : UInt8
  character : Char
  /-- The partner that the dispatch jumps to, if it is a jump. -/
  target? : Option Nat

namespace Entry

def announcement (entry : Entry) : Event :=
  .dispatch entry.step entry.position entry.cursor entry.cell entry.character

/-- The events of the dispatch: it is announced, and if it is a jump the jump follows directly. -/
def events (entry : Entry) : List Event :=
  entry.announcement :: (entry.target?.map (.jump entry.position)).toList

def next (entry : Entry) : Nat :=
  match entry.target? with
  | some target => target + 1
  | none => entry.position + 1

/-- Each entry announces one dispatch. -/
theorem filter_events (entry : Entry) :
    entry.events.filter Event.isDispatch = [entry.announcement] := by
  unfold events
  cases entry.target? <;> rfl

theorem filter_flatMap_events (entries : List Entry) :
    (entries.flatMap events).filter Event.isDispatch = entries.map announcement := by
  rw [List.filter_flatMap, List.map_eq_flatMap]
  simp only [filter_events]

end Entry

namespace Instruction

/-- A jump is made by the start of a loop on a zero cell and by its end on another one. -/
theorem charJumpsOn_iff {character : Char} {cell : UInt8} :
    charJumpsOn character cell = true ↔
      character = '[' ∧ cell = 0 ∨ character = ']' ∧ cell ≠ 0 := by
  constructor
  · intro jumps
    rcases bracket_of_charJumpsOn jumps with rfl | rfl
    · simpa using jumps
    · simpa using jumps
  · rintro (⟨rfl, zero⟩ | ⟨rfl, nonzero⟩)
    · simpa using zero
    · simpa using nonzero

end Instruction

variable {n : Nat} {World : Type u}

namespace Program

/-- The entry tells of the dispatch that is made in this state. -/
structure Tells (program : Program) (entry : Entry) (session : Session n) : Prop where
  step : entry.step = session.steps
  position : entry.position = session.position
  cursor : entry.cursor = session.tape.cursor
  cell : entry.cell = session.tape.read
  present : program.script[session.position]? = some entry.character
  jumps_iff : entry.target? ≠ none ↔
    entry.character = '[' ∧ entry.cell = 0 ∨ entry.character = ']' ∧ entry.cell ≠ 0
  partner : ∀ target, entry.target? = some target →
    program.script.partner entry.position = .ok target

/-- The entry of the next dispatch, if the session makes one. -/
def told? (program : Program) (control : Control World) (session : Session n) (world : World) :
    Option Entry :=
  if inside : session.position < program.script.size then
    match control.stop? session.steps world with
    | some _ => none
    | none =>
      let character := program.script[session.position]
      some {
        step := session.steps
        position := session.position
        cursor := session.tape.cursor
        cell := session.tape.read
        character
        target? :=
          if Instruction.charJumpsOn character session.tape.read then
            (program.partner session.position).toOption
          else none }
  else none

/-- The entries of the next `count` steps. -/
def entries (program : Program) (device : Device World) (control : Control World) :
    (count : Nat) → Session n → World → List Entry
  | 0, _, _ => []
  | count + 1, session, world =>
    (program.told? control session world).toList ++
      match program.step device control session world with
      | (.running next, after) => program.entries device control count next after
      | _ => []

variable {program : Program} {device : Device World} {control : Control World}
  {session next : Session n} {world after : World} {entry : Entry}

theorem told?_of_outside (outside : program.script.size ≤ session.position) :
    program.told? control session world = none := by
  simp only [told?, Nat.not_lt.mpr outside, ↓reduceDIte]

theorem told?_of_stop {error : ExecError}
    (stop : control.stop? session.steps world = some error) :
    program.told? control session world = none := by
  simp only [told?, stop, dite_eq_ite, ite_self]

/-- An entry tells of a dispatch that its control allows. -/
theorem tells_of_told? (told : program.told? control session world = some entry) :
    control.stop? session.steps world = none ∧ program.Tells entry session := by
  unfold told? at told
  split at told
  · rename_i inside
    cases free : control.stop? session.steps world with
    | some error => simp [free] at told
    | none =>
      simp only [free, Option.some.injEq] at told
      subst told
      refine ⟨rfl, rfl, rfl, rfl, rfl, Array.getElem?_eq_getElem inside, ?_, ?_⟩
      · rw [← Instruction.charJumpsOn_iff]
        split
        · rename_i jumps
          obtain ⟨target, found, -⟩ := program.exists_partner (Array.getElem?_eq_getElem inside)
            (Instruction.bracket_of_charJumpsOn jumps)
          simp [jumps, found, Except.toOption]
        · rename_i stays
          simp [stays]
      · intro target found
        split at found
        · cases partner : program.partner session.position with
          | error fault => simp [partner, Except.toOption] at found
          | ok other =>
            simp only [partner, Except.toOption, Option.some.injEq] at found
            rw [← found, program.script.partner_eq_ok_iff, ← program.partner_eq_ok_iff, partner]
        · cases found
  · cases told

/-- A session that goes on made a dispatch. -/
theorem exists_told? (inside : session.position < program.script.size)
    (free : control.stop? session.steps world = none) :
    ∃ entry, program.told? control session world = some entry := by
  simp only [told?, inside, ↓reduceDIte, free]
  exact ⟨_, rfl⟩

/-- The events of a step are those of its entry. -/
theorem events_eq_flatMap (session : Session n) (world : World) :
    program.events control session world =
      (program.told? control session world).toList.flatMap Entry.events := by
  by_cases inside : session.position < program.script.size
  · cases free : control.stop? session.steps world with
    | some error => rw [events_of_stop free, told?_of_stop free]; rfl
    | none =>
      simp only [events, told?, inside, ↓reduceDIte, free, Option.toList_some,
        List.flatMap_singleton, Entry.events, Entry.announcement]
      refine congrArg (_ :: ·) (congrArg Option.toList ?_)
      change (if Instruction.charJumpsOn _ _ then _ else _) = _
      split
      · cases program.partner session.position <;> rfl
      · rfl
  · rw [events_of_outside (Nat.not_lt.mp inside), told?_of_outside (Nat.not_lt.mp inside)]
    rfl

/-- A record is made of the events of its entries. -/
theorem toList_record_eq_flatMap (count : Nat) (session : Session n) (world : World) :
    (program.record device control count #[] session world).1.toList =
      (program.entries device control count session world).flatMap Entry.events := by
  induction count generalizing session world with
  | zero => rfl
  | succ count ih =>
    simp only [record, entries, events_eq_flatMap, List.flatMap_append]
    rcases program.step device control session world with ⟨_ | _ | _, after⟩
    · rw [toList_record, ih]
      simp
    · simp
    · simp

theorem entries_add_of_running {first : Nat}
    (reached : program.advance device control first session world = (.running next, after))
    (second : Nat) :
    program.entries device control (first + second) session world =
      program.entries device control first session world ++
        program.entries device control second next after := by
  induction first generalizing session world with
  | zero =>
    cases reached
    rw [Nat.zero_add]
    rfl
  | succ first ih =>
    rw [Nat.add_right_comm]
    rcases stepped : program.step device control session world with ⟨middle | _ | _, between⟩
    · rw [advance_succ_of_running stepped] at reached
      simp only [entries, stepped, ih reached, List.append_assoc]
    · simp [advance, stepped] at reached
    · simp [advance, stepped] at reached

/-- A session that is running has left an entry for each step. -/
theorem length_entries_of_running {count : Nat}
    (reached : program.advance device control count session world = (.running next, after)) :
    (program.entries device control count session world).length = count := by
  induction count generalizing session world with
  | zero => rfl
  | succ count ih =>
    rcases stepped : program.step device control session world with ⟨middle | _ | _, between⟩
    · obtain ⟨inside, free⟩ := free_of_running (advance_one.trans stepped) advance_zero Nat.one_pos
      obtain ⟨entry, told⟩ := exists_told? inside free
      rw [advance_succ_of_running stepped] at reached
      simp only [entries, told, stepped, Option.toList_some, List.length_append,
        List.length_singleton, ih reached]
      omega
    · simp [advance, stepped] at reached
    · simp [advance, stepped] at reached

/-- Behind the entries of its steps a session that ends leaves at most that of the last dispatch. -/
theorem entries_of_ended {first count : Nat}
    (reached : program.advance device control first session world = (.running next, after))
    (ended : ∀ other, (program.step device control next after).1 ≠ .running other)
    (lt : first < count) :
    program.entries device control count session world =
      program.entries device control first session world ++
        (program.told? control next after).toList := by
  obtain ⟨more, rfl⟩ := Nat.exists_eq_add_of_lt lt
  rw [Nat.add_assoc, entries_add_of_running reached, entries]
  rcases stepped : program.step device control next after with ⟨_ | _ | _, final⟩
  · exact absurd (congrArg Prod.fst stepped) (ended _)
  · rw [List.append_nil]
  · rw [List.append_nil]

/-- Each entry tells of the state that the session comes to in as many steps. -/
theorem exists_state_of_getElem? {count index : Nat}
    (found : (program.entries device control count session world)[index]? = some entry) :
    ∃ reached before,
      program.advance device control index session world = (.running reached, before) ∧
        program.told? control reached before = some entry := by
  induction count generalizing index session world with
  | zero => simp [entries] at found
  | succ count ih =>
    simp only [entries] at found
    cases told : program.told? control session world with
    | none =>
      rcases stepped : program.step device control session world with ⟨middle | _ | _, between⟩
      · obtain ⟨inside, free⟩ :=
          free_of_running (advance_one.trans stepped) advance_zero Nat.one_pos
        obtain ⟨first, toldToo⟩ := exists_told? inside free
        cases told.symm.trans toldToo
      · simp [told, stepped] at found
      · simp [told, stepped] at found
    | some first =>
      rw [told, Option.toList_some, List.singleton_append] at found
      cases index with
      | zero =>
        cases found
        exact ⟨session, world, rfl, told⟩
      | succ index =>
        rw [List.getElem?_cons_succ] at found
        rcases stepped : program.step device control session world with ⟨middle | _ | _, between⟩
        · rw [stepped] at found
          obtain ⟨reached, before, ran, toldToo⟩ := ih found
          exact ⟨reached, before, by rw [advance_succ_of_running stepped, ran], toldToo⟩
        · simp [stepped] at found
        · simp [stepped] at found

/-- A session moves on to the position that its entry says. -/
theorem Moves.position_eq (moves : program.Moves session next)
    (tells : program.Tells entry session) : next.position = entry.next := by
  unfold Entry.next
  cases moves with
  | @passed character present stays position tape =>
    obtain rfl := Option.some.inj (present.symm.trans tells.present)
    rw [← tells.cell, Instruction.charJumpsOn_iff, ← tells.jumps_iff, not_not] at stays
    rw [stays, position, tells.position]
  | @jumped character target present jumps found position tape =>
    obtain rfl := Option.some.inj (present.symm.trans tells.present)
    rw [← tells.cell, Instruction.charJumpsOn_iff, ← tells.jumps_iff, Option.ne_none_iff_exists']
      at jumps
    obtain ⟨other, told⟩ := jumps
    have partner := tells.partner other told
    rw [tells.position, program.script.partner_eq_ok_iff, ← program.partner_eq_ok_iff, found]
      at partner
    obtain rfl := Except.ok.inj partner
    rw [told, position]

/-- From one entry to the next the position goes on as the first of them says. -/
theorem position_eq_next {count index : Nat} {entryToo : Entry}
    (found : (program.entries device control count session world)[index]? = some entry)
    (foundToo : (program.entries device control count session world)[index + 1]? = some entryToo) :
    entryToo.position = entry.next := by
  obtain ⟨first, before, reached, told⟩ := exists_state_of_getElem? found
  obtain ⟨second, between, reachedToo, toldToo⟩ := exists_state_of_getElem? foundToo
  obtain ⟨free, tells⟩ := tells_of_told? told
  rw [advance_add_of_running reached, advance_one, step_of_present tells.present free]
    at reachedToo
  have moves := moves_of_dispatch tells.present reachedToo
  rw [(tells_of_told? toldToo).2.position, moves.position_eq tells]

/-- How the record of a session closes behind its entries, and the result of the session. A dispatch
that failed has an entry and does not count. -/
inductive ClosesRecord [HasCell n] (program : Program) (device : Device World)
    (control : Control World) (world : World) (entries : List Entry) :
    Except ExecError (Halted n) → List Event → Prop
  | halted {last : Session n} {before : World}
      (reached : program.advance device control entries.length (Session.start n) world =
        (.running last, before))
      (executed : last.position = program.script.size)
      (flushed : (device.flush before).1 = .ok ()) :
      ClosesRecord program device control world entries (.ok ⟨last.tape, entries.length⟩)
        [.halted entries.length]
  | flushFailed {last : Session n} {before : World} {failure : IoFailure}
      (reached : program.advance device control entries.length (Session.start n) world =
        (.running last, before))
      (executed : last.position = program.script.size)
      (answer : (device.flush before).1 = .error failure) :
      ClosesRecord program device control world entries
        (.error (.io program.script.size failure)) []
  | stopped {last : Session n} {before : World} {error : ExecError}
      (reached : program.advance device control entries.length (Session.start n) world =
        (.running last, before))
      (inside : last.position < program.script.size)
      (stop : control.stop? entries.length before = some error) :
      ClosesRecord program device control world entries (.error error)
        [.aborted last.position entries.length error]
  | failed {last : Session n} {before : World} {entry : Entry} {error : ExecError}
      (reached : program.advance device control (entries.length - 1) (Session.start n) world =
        (.running last, before))
      (lastEntry : entries.getLast? = some entry) (told : program.Tells entry last)
      (lost : (program.dispatch device entry.character last before).1 = .aborted last error) :
      ClosesRecord program device control world entries (.error error)
        [.aborted entry.position (entries.length - 1) error]

/-- No dispatch is announced where a record closes. -/
theorem ClosesRecord.filter_isDispatch [HasCell n] {entries : List Entry}
    {result : Except ExecError (Halted n)} {closing : List Event}
    (closes : program.ClosesRecord device control world entries result closing) :
    closing.filter Event.isDispatch = [] := by
  cases closes <;> rfl

/-- A session that ends inside its script is aborted where it stands. -/
theorem EndsIn.exists_aborted {status : Status n} {final : World}
    (ends : program.EndsIn device control session world status final)
    (inside : session.position < program.script.size) :
    ∃ error, status = .aborted session error := by
  cases ends with
  | executed atEnd => exact absurd atEnd (Nat.ne_of_lt inside)
  | stopped | exhausted | readFailed | writeFailed => exact ⟨_, rfl⟩

section Closing

variable [HasCell n] {last : Session n} {before final : World} {front : List Entry}
  (running : program.advance device control last.steps (Session.start n) world =
    (.running last, before))
  (made : front.length = last.steps)

include running made

/-- A session that ends inside its script was stopped in front of a dispatch, which has no entry, or
failed in one, which has. -/
theorem closesRecord_of_inside {error : ExecError}
    (inside : last.position < program.script.size)
    (stepped : program.step device control last before = (.aborted last error, final)) :
    program.ClosesRecord (n := n) device control world
      (front ++ (program.told? control last before).toList) (.error error)
      [.aborted last.position last.steps error] := by
  cases stop : control.stop? last.steps before with
  | some other =>
    rw [step_of_stop inside stop] at stepped
    cases stepped
    rw [told?_of_stop stop, Option.toList_none, List.append_nil]
    rw [← made] at running stop ⊢
    exact .stopped running inside stop
  | none =>
    obtain ⟨entry, told⟩ := exists_told? inside stop
    have tells := (tells_of_told? told).2
    have steps : last.steps = (front ++ [entry]).length - 1 := by simp [made]
    rw [step_of_present tells.present stop] at stepped
    rw [told, Option.toList_some, ← tells.position]
    rw [steps] at running ⊢
    exact .failed running List.getLast?_concat tells (congrArg Prod.fst stepped)

/-- A session that ends behind its script has an entry for each step, and is halted unless the flush
fails. -/
theorem closesRecord_of_outside {result : Except ExecError (Halted n)}
    (atEnd : last.position = program.script.size)
    (found : (Status.completed last).result? (device.flush before).1 = some result) :
    program.ClosesRecord device control world
      (front ++ (program.told? control last before).toList) result
      (⟨result, .completed last, final⟩ : Report n World).closingEvent?.toList := by
  rw [told?_of_outside (Nat.le_of_eq atEnd.symm), Option.toList_none, List.append_nil]
  rw [← made] at running
  rcases flushed : (device.flush before).1 with failure | done
  · rw [flushed] at found
    cases found
    rw [atEnd]
    exact .flushFailed running atEnd flushed
  · rw [flushed] at found
    cases found
    change program.ClosesRecord device control world front (.ok ⟨last.tape, last.steps⟩)
      [.halted last.steps]
    rw [← made]
    exact .halted running atEnd flushed

end Closing

/-- The record of every session that ends closes in one of these ways. -/
theorem closesRecord_of_run? [HasCell n] {count : Nat} {report : Report n World}
    (ran : program.run? device control n count world = some report) :
    program.ClosesRecord device control world
      (program.entries device control count (Session.start n) world) report.result
      report.closingEvent?.toList := by
  obtain ⟨first, last, before, final, running, ends, closed⟩ := exists_endsIn_of_run? ran
  have made := length_entries_of_running running
  have result := (Status.close?_eq_some_iff.mp closed).1
  rw [entries_of_ended running (by simpa [ends.step_eq] using ends.ne_running)
    (lt_of_run? running ran)]
  obtain rfl : last.steps = first := steps_of_running running
  obtain ⟨told, status, final⟩ := report
  by_cases inside : last.position < program.script.size
  · obtain ⟨error, rfl⟩ := ends.exists_aborted inside
    cases result
    exact closesRecord_of_inside running made inside ends.step_eq
  · have atEnd := Nat.le_antisymm (position_le_of_running running) (Nat.not_lt.mp inside)
    have stepped := ends.step_eq
    rw [step_of_outside (Nat.le_of_eq atEnd.symm)] at stepped
    cases stepped
    exact closesRecord_of_outside running made atEnd result

/-- The record of a session that ends tells of its dispatches, and of nothing else, one after the
other. Each of its entries tells of the state to which the session came in as many steps, the first
at the start of the script and the next where the one in front of it leads. An entry of a jump is
one of a bracket that jumps, and it names its partner. One event closes the record, or none where
only the flush failed behind the script. -/
theorem record_tells_run (program : Program) (device : Device World) (control : Control World)
    (n : Nat) [HasCell n] (count : Nat) (world : World) {events : Array Event}
    {report : Report n World}
    (ran : program.runRecorded? device control n count world = some (events, report)) :
    program.run? device control n count world = some report ∧
    ∃ (entries : List Entry) (closing : List Event),
      events.toList = entries.flatMap Entry.events ++ closing ∧
      events.toList.filter Event.isDispatch = entries.map Entry.announcement ∧
      (∀ index entry, entries[index]? = some entry → entry.step = index ∧
        ∃ session before,
          program.advance device control index (Session.start n) world =
              (.running session, before) ∧ program.Tells entry session) ∧
      (∀ entry, entries.head? = some entry → entry.position = 0) ∧
      (∀ index entry following, entries[index]? = some entry →
        entries[index + 1]? = some following → following.position = entry.next) ∧
      program.ClosesRecord device control world entries report.result closing := by
  obtain ⟨ranToo, recorded⟩ := runRecorded?_eq_some_iff.mp ran
  have closes := closesRecord_of_run? ranToo
  rw [toList_record_eq_flatMap] at recorded
  refine ⟨ranToo, _, _, recorded, ?_, ?_, ?_, fun _ _ _ => position_eq_next, closes⟩
  · rw [recorded, List.filter_append, Entry.filter_flatMap_events, closes.filter_isDispatch,
      List.append_nil]
  · intro index entry found
    obtain ⟨session, before, reached, told⟩ := exists_state_of_getElem? found
    have tells := (tells_of_told? told).2
    exact ⟨tells.step.trans (steps_of_running reached), session, before, reached, tells⟩
  · intro entry found
    rw [List.head?_eq_getElem?] at found
    obtain ⟨session, before, reached, told⟩ := exists_state_of_getElem? found
    cases reached
    exact (tells_of_told? told).2.position

/-- A loop that is skipped leaves its jump behind its dispatch, and an input instruction that fails
leaves a dispatch that is not counted. -/
theorem record_tells_run_failed :
    let program : Program := ⟨#['[', '+', ']', ','], _, .table, rfl, rfl⟩
    let device := Device.ofEnds .text .bytes
    ∃ events report, program.runRecorded? device .none 2 3 ([], #[]) = some (events, report) ∧
      events.toList = [.dispatch 0 0 0 0 '[', .jump 0 2, .dispatch 1 3 0 0 ',',
        .aborted 3 1 (.noMoreInput 3)] ∧
      ∃ (entries : List Entry) (closing : List Event),
        events.toList = entries.flatMap Entry.events ++ closing ∧
        events.toList.filter Event.isDispatch = entries.map Entry.announcement ∧
        (∀ index entry following, entries[index]? = some entry →
          entries[index + 1]? = some following → following.position = entry.next) ∧
        program.ClosesRecord (n := 2) device .none ([], #[]) entries (.error (.noMoreInput 3))
          closing := by
  intro program device
  refine ⟨_, _, rfl, rfl, ?_⟩
  obtain ⟨-, entries, closing, split, dispatches, -, -, leads, closes⟩ :=
    program.record_tells_run device .none 2 3 ([], #[]) rfl
  exact ⟨entries, closing, split, dispatches, leads, closes⟩

end Program

end TapeMachine
