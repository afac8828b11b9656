import Mathlib.Tactic.SplitIfs
import TapeMachine.Proofs.Advance
import TapeMachine.Session.Event

/-! # The record of a session

A record is made of the events of the steps one after the other, so it can be cut at any step, and
what holds of the events of each step holds of all. Each dispatch leaves one dispatch event.
-/

namespace TapeMachine

universe u

variable {n : Nat} {World : Type u} {program : Program} {device : Device World}
  {control : Control World}

def Event.isDispatch : Event → Bool
  | dispatch .. => true
  | _ => false

namespace Program

/-- What holds of the events of every step holds of a whole record. -/
theorem forall_mem_record {Holds : Event → Prop}
    (each : ∀ (session : Session n) (world : World),
      ∀ event ∈ program.events control session world, Holds event)
    (count : Nat) {recorded : Array Event} (before : ∀ event ∈ recorded, Holds event)
    (session : Session n) (world : World) :
    ∀ event ∈ (program.record device control count recorded session world).1, Holds event := by
  induction count generalizing recorded session world with
  | zero => exact before
  | succ count ih =>
    have grown : ∀ event ∈ recorded.appendList (program.events control session world),
        Holds event := by
      intro event member
      rw [Array.appendList_eq_append, ← Array.mem_toList_iff, Array.toList_appendList,
        List.mem_append] at member
      rcases member with old | new
      · exact before event (Array.mem_toList_iff.mp old)
      · exact each session world event new
    simp only [record]
    rcases program.step device control session world with ⟨_ | _ | _, after⟩
    · exact ih grown _ _
    · exact grown
    · exact grown

/-- A record can be made in two parts. -/
theorem record_add (first second : Nat) (recorded : Array Event) (session : Session n)
    (world : World) :
    program.record device control (first + second) recorded session world =
      match program.record device control first recorded session world with
      | (recorded, .running session, world) =>
        program.record device control second recorded session world
      | ended => ended := by
  induction first generalizing recorded session world with
  | zero => rw [Nat.zero_add]; rfl
  | succ first ih =>
    rw [Nat.add_right_comm]
    simp only [record]
    rcases program.step device control session world with ⟨_ | _ | _, next⟩
    · exact ih _ _ _
    · rfl
    · rfl

/-- One step leaves its own events, however it ends. -/
theorem record_one_fst (recorded : Array Event) (session : Session n) (world : World) :
    (program.record device control 1 recorded session world).1 =
      recorded.appendList (program.events control session world) := by
  simp only [record]
  rcases program.step device control session world with ⟨_ | _ | _, after⟩ <;> rfl

/-- What is recorded already is left as it is. -/
theorem toList_record (count : Nat) (recorded : Array Event) (session : Session n) (world : World) :
    (program.record device control count recorded session world).1.toList =
      recorded.toList ++ (program.record device control count #[] session world).1.toList := by
  induction count generalizing recorded session world with
  | zero => simp [record]
  | succ count ih =>
    simp only [record]
    rcases program.step device control session world with ⟨_ | _ | _, after⟩
    · rw [ih, ih (#[].appendList _)]
      simp
    · simp
    · simp

/-- What holds of no step, of a step in front of others and of a last step holds of every record. -/
theorem record_induction {motive : Session n → World → List Event → Status n → World → Prop}
    (zero : ∀ session world, motive session world [] (.running session) world)
    (running : ∀ session world next between events status after,
      program.step device control session world = (.running next, between) →
        motive next between events status after →
          motive session world (program.events control session world ++ events) status after)
    (ended : ∀ session world status after,
      program.step device control session world = (status, after) →
        (∀ next, status ≠ .running next) →
          motive session world (program.events control session world) status after)
    (count : Nat) (session : Session n) (world : World) :
    motive session world (program.record device control count #[] session world).1.toList
      (program.advance device control count session world).1
      (program.advance device control count session world).2 := by
  induction count generalizing session world with
  | zero => exact zero session world
  | succ count ih =>
    simp only [record, advance]
    rcases stepped : program.step device control session world with ⟨next | _ | _, after⟩
    · rw [toList_record, Array.appendList_eq_append, Array.toList_appendList, List.nil_append]
      exact running _ _ _ _ _ _ _ stepped (ih next after)
    · simpa using ended _ _ _ _ stepped (by simp)
    · simpa using ended _ _ _ _ stepped (by simp)

/-- A recorded session has the report of the session, and its closing event stands last. -/
theorem runRecorded?_eq_some_iff [HasCell n] {count : Nat} {world : World} {events : Array Event}
    {report : Report n World} :
    program.runRecorded? device control n count world = some (events, report) ↔
      program.run? device control n count world = some report ∧
        events.toList =
          (program.record device control count #[] (Session.start n) world).1.toList ++
            report.closingEvent?.toList := by
  unfold runRecorded? run?
  rw [← record_snd program device control count #[]]
  rcases program.record device control count #[] (Session.start n) world with
    ⟨recorded, status, after⟩
  simp only [Option.map_eq_some_iff, Prod.mk.injEq]
  constructor
  · rintro ⟨_, closed, rfl, rfl⟩
    exact ⟨closed, by simp⟩
  · rintro ⟨closed, same⟩
    refine ⟨report, closed, ?_, rfl⟩
    apply Array.ext'
    rw [same]
    simp

theorem map_snd_runRecorded? [HasCell n] {count : Nat} {world : World} :
    (program.runRecorded? device control n count world).map Prod.snd =
      program.run? device control n count world := by
  unfold runRecorded? run?
  rw [← record_snd program device control count #[]]
  simp only [Option.map_map]
  exact congrFun Option.map_id _

/-- A session looks at its control only to learn whether it may make the dispatch at hand. -/
theorem step_congr {other : Control World} {session : Session n} {world : World}
    (same : session.position < program.script.size →
      control.stop? session.steps world = other.stop? session.steps world) :
    program.step device control session world = program.step device other session world := by
  by_cases inside : session.position < program.script.size
  · simp only [step, same inside]
  · simp only [step, inside, ↓reduceDIte]

theorem events_congr {other : Control World} {session : Session n} {world : World}
    (same : session.position < program.script.size →
      control.stop? session.steps world = other.stop? session.steps world) :
    program.events control session world = program.events other session world := by
  by_cases inside : session.position < program.script.size
  · simp only [events, same inside]
  · simp only [events, inside, ↓reduceDIte]

/-- Two controls that agree at the boundaries of a session lead it through the same dispatches. -/
theorem record_congr_of_reached {other : Control World} (count : Nat) (recorded : Array Event)
    {session : Session n} {world : World}
    (same : ∀ first next after, first < count →
      program.advance device other first session world = (.running next, after) →
        next.position < program.script.size →
          control.stop? next.steps after = other.stop? next.steps after) :
    program.record device control count recorded session world =
      program.record device other count recorded session world := by
  induction count generalizing recorded session world with
  | zero => rfl
  | succ count ih =>
    have agree := same 0 session world (Nat.succ_pos count) rfl
    simp only [record, events_congr agree, step_congr agree]
    rcases step : program.step device other session world with ⟨next | _ | _, between⟩
    · apply ih
      intro first last after before reached
      apply same (first + 1) last after (Nat.succ_lt_succ before)
      rw [advance_succ_of_running step, reached]
    · rfl
    · rfl

/-- Two controls that agree on the first `bound` dispatches lead through the same dispatches. -/
theorem record_congr {other : Control World} {bound : Nat}
    (same : ∀ steps world, steps < bound → control.stop? steps world = other.stop? steps world)
    (count : Nat) (recorded : Array Event) {session : Session n} (world : World)
    (within : session.steps + count ≤ bound) :
    program.record device control count recorded session world =
      program.record device other count recorded session world := by
  apply record_congr_of_reached
  intro first next after before reached _
  have made : CountsSteps session.steps first
    (program.advance device other first session world).1 := advance_countsSteps first
  rw [reached] at made
  have steps : next.steps = session.steps + first := made
  exact same _ _ (by omega)

theorem advance_congr {other : Control World} {bound : Nat}
    (same : ∀ steps world, steps < bound → control.stop? steps world = other.stop? steps world)
    (count : Nat) {session : Session n} (world : World) (within : session.steps + count ≤ bound) :
    program.advance device control count session world =
      program.advance device other count session world := by
  rw [← record_snd program device control count #[], ← record_snd program device other count #[],
    record_congr same count #[] world within]

/-- Behind the end of the script and at a stop of the control nothing is dispatched. -/
theorem events_of_stop {session : Session n} {world : World} {error : ExecError}
    (stop : control.stop? session.steps world = some error) :
    program.events control session world = [] := by
  simp only [events, stop, dite_eq_ite, ite_self]

theorem events_of_outside {session : Session n} {world : World}
    (outside : program.script.size ≤ session.position) :
    program.events control session world = [] := by
  simp only [events, Nat.not_lt.mpr outside, ↓reduceDIte]

/-- A step that its control allows announces its dispatch, and its jump if it is one. -/
theorem events_of_present {session : Session n} {world : World} {character : Char}
    (present : program.script[session.position]? = some character)
    (free : control.stop? session.steps world = none) :
    program.events control session world =
      .dispatch session.steps session.position session.tape.cursor session.tape.read character ::
        (program.jumpEvent? character session).toList := by
  obtain ⟨inside, rfl⟩ := Array.getElem?_eq_some_iff.mp present
  simp only [events, inside, ↓reduceDIte, free]

/-- A dispatch that a session comes to is announced in its record. -/
theorem dispatch_mem_record {first count : Nat} {session next : Session n} {world after : World}
    {character : Char} (lt : first < count)
    (reached : program.advance device control first session world = (.running next, after))
    (present : program.script[next.position]? = some character)
    (free : control.stop? next.steps after = none) :
    .dispatch next.steps next.position next.tape.cursor next.tape.read character ∈
      (program.record device control count #[] session world).1 := by
  obtain ⟨more, rfl⟩ := Nat.exists_eq_add_of_lt lt
  rw [← record_snd program device control first #[]] at reached
  rcases recorded : program.record device control first #[] session world with ⟨left, status, middle⟩
  rw [recorded] at reached
  cases reached
  rw [Nat.add_assoc, record_add, recorded, ← Array.mem_toList_iff]
  simp only [record, events_of_present present free]
  rcases program.step device control next after with ⟨_ | _ | _, final⟩
  · rw [toList_record]
    simp
  · simp
  · simp

/-- Where its control stops a session, nothing more is dispatched or recorded. -/
theorem record_of_stop {first count : Nat} {recorded left : Array Event}
    {session stopped : Session n} {world after : World} {error : ExecError}
    (reached : program.record device control first recorded session world =
      (left, .running stopped, after))
    (inside : stopped.position < program.script.size)
    (stop : control.stop? stopped.steps after = some error) (lt : first < count) :
    program.record device control count recorded session world =
      (left, .aborted stopped error, after) := by
  obtain ⟨more, rfl⟩ := Nat.exists_eq_add_of_lt lt
  rw [Nat.add_assoc, record_add, reached]
  simp only [record, events_of_stop stop, step_of_stop inside stop, Array.appendList_eq_append,
    Array.appendList_nil]

/-- A step that its control allows makes one dispatch, however it ends. -/
theorem countP_events {session : Session n} {world : World}
    (inside : session.position < program.script.size)
    (free : control.stop? session.steps world = none) :
    (program.events control session world).countP Event.isDispatch = 1 := by
  simp only [events, inside, ↓reduceDIte, free, List.countP_cons, Event.isDispatch, ↓reduceIte,
    jumpEvent?]
  split_ifs
  · cases program.partner session.position <;> rfl
  · rfl

theorem countP_appendList_events {session : Session n} {world : World} (recorded : Array Event)
    (inside : session.position < program.script.size)
    (free : control.stop? session.steps world = none) :
    (recorded.appendList (program.events control session world)).countP Event.isDispatch =
      recorded.countP Event.isDispatch + 1 := by
  rw [Array.appendList_eq_append, ← Array.countP_toList, Array.toList_appendList,
    List.countP_append, Array.countP_toList, countP_events inside free]

/-- A session that has been taken `count` steps further has left that many dispatch events. -/
theorem countP_record {count : Nat} {recorded left : Array Event} {session next : Session n}
    {world after : World}
    (ran : program.record device control count recorded session world =
      (left, .running next, after)) :
    left.countP Event.isDispatch = recorded.countP Event.isDispatch + count := by
  induction count generalizing recorded session world with
  | zero =>
    cases ran
    rfl
  | succ count ih =>
    simp only [record] at ran
    rcases step : program.step device control session world with ⟨_ | _ | _, middle⟩
    · rw [step] at ran
      obtain ⟨inside, free⟩ := free_of_running (advance_one.trans step) advance_zero Nat.one_pos
      rw [ih ran, countP_appendList_events recorded inside free, Nat.add_assoc, Nat.add_comm 1]
    · rw [step] at ran
      cases ran
    · rw [step] at ran
      cases ran

theorem countP_record_of_running {count : Nat} {session next : Session n} {world after : World}
    (reached : program.advance device control count session world = (.running next, after)) :
    (program.record device control count #[] session world).1.countP Event.isDispatch = count := by
  rw [← record_snd program device control count #[]] at reached
  rw [countP_record (Prod.ext rfl reached), Array.countP_empty, Nat.zero_add]

/-- A step behind which the world is another one made a dispatch. -/
theorem countP_record_succ_of_ne {count : Nat} {session : Session n} {world : World}
    (changed : (program.advance device control (count + 1) session world).2 ≠
      (program.advance device control count session world).2) :
    (program.record device control (count + 1) #[] session world).1.countP Event.isDispatch =
      count + 1 := by
  rcases reached : program.record device control count #[] session world with
    ⟨recorded, status, after⟩
  have ran := record_snd program device control count #[] session world
  rw [reached] at ran
  cases status with
  | running next =>
    rw [advance_add_of_running ran.symm, advance_one, ← ran] at changed
    have inside : next.position < program.script.size := by
      apply Nat.lt_of_not_le
      intro outside
      rw [step_of_outside outside] at changed
      exact changed rfl
    have free : control.stop? next.steps after = none := by
      cases stop : control.stop? next.steps after with
      | none => rfl
      | some error =>
        rw [step_of_stop inside stop] at changed
        exact absurd rfl changed
    have counted := countP_appendList_events recorded inside free
    rw [countP_record reached, Array.countP_empty, Nat.zero_add] at counted
    rw [record_add, reached]
    simp only [record]
    rcases program.step device control next after with ⟨_ | _ | _, final⟩ <;> exact counted
  | completed last | aborted last error =>
    rw [advance_of_ended ran.symm (by simp) (Nat.le_succ count), ← ran] at changed
    exact absurd rfl changed

end Program

end TapeMachine
