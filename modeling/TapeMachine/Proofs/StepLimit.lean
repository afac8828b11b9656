import Mathlib.Tactic.ByContra
import TapeMachine.Device.Text
import TapeMachine.Proofs.Calls
import TapeMachine.Proofs.Record

/-! # A step limit cuts a session short and changes nothing else

A session under a limit makes the dispatches of the unlimited session until the limit is used up.
If the unlimited session has ended by then, both end alike. Otherwise the limited session stops in
front of the next dispatch, exactly where the unlimited one stands after as many steps as the limit
allows. A larger limit therefore only adds output.
-/

namespace TapeMachine

universe u

variable {n : Nat} {World : Type u}

/-- The control that limits the dispatches, and has no flag to raise. -/
def Control.limited (limit : Nat) : Control World := ⟨some limit, fun _ _ => false⟩

/-- The session has ended, and a limit on its dispatches would not have been in its way: it
executed its script in as many, or failed in one of them. -/
def Status.EndsBy (limit : Nat) : Status n → Prop
  | running _ => False
  | completed last => last.steps ≤ limit
  | aborted last _ => last.steps < limit

theorem Status.EndsBy.steps_le {limit : Nat} {status : Status n} (ends : status.EndsBy limit) :
    status.session.steps ≤ limit := by
  cases status with
  | running next => exact ends.elim
  | completed last => exact ends
  | aborted last error => exact Nat.le_of_lt ends

theorem Status.EndsBy.mono {limit larger : Nat} {status : Status n} (ends : status.EndsBy limit)
    (le : limit ≤ larger) : status.EndsBy larger := by
  cases status with
  | running next => exact ends.elim
  | completed last => exact Nat.le_trans ends le
  | aborted last error => exact Nat.lt_of_lt_of_le ends le

/-- A session without a control ends by itself before a limit would stop it. -/
def Program.EndsWithin (program : Program) (device : Device World) (n : Nat) [HasCell n]
    (limit : Nat) (world : World) : Prop :=
  ∃ count, (program.advance device .none count (Session.start n) world).1.EndsBy limit

namespace Control

theorem stop?_limited_of_lt {limit steps : Nat} {world : World} (below : steps < limit) :
    (limited limit).stop? steps world = none.stop? steps world := by
  simp only [stop?, limited, none, Bool.false_eq_true, ↓reduceIte, Nat.not_le.mpr below]

theorem stop?_limited_of_le {limit steps : Nat} {world : World} (reached : limit ≤ steps) :
    (limited limit).stop? steps world = some (.stepLimitExceeded limit) := by
  simp only [stop?, limited, Bool.false_eq_true, ↓reduceIte, reached]

/-- A control without limit and with its flag down lets a session go on at any time. -/
theorem eq_none_of_unraised {control : Control World} (unlimited : control.maxSteps = .none)
    (unraised : ∀ steps world, control.flag steps world = false) : control = none := by
  rcases control with ⟨maxSteps, flag⟩
  obtain rfl : maxSteps = .none := unlimited
  obtain rfl : flag = fun _ _ => false := funext fun steps => funext (unraised steps)
  rfl

end Control

namespace Program

variable {program : Program} {device : Device World} {session : Session n} {world : World}

/-- Until the limit is used up, a session under it goes the way of the unlimited session. -/
theorem advance_limited {limit : Nat} (count : Nat) (within : session.steps + count ≤ limit) :
    program.advance device (.limited limit) count session world =
      program.advance device .none count session world :=
  advance_congr (fun _ _ below => Control.stop?_limited_of_lt below) count world within

/-- With the limit used up, only the end of the script is left to end a session in time. -/
theorem outside_of_endsBy {limit count : Nat} (reached : limit ≤ session.steps)
    (ends : (program.advance device .none count session world).1.EndsBy limit) :
    program.script.size ≤ session.position := by
  cases count with
  | zero => exact ends.elim
  | succ count =>
    rcases step : program.step device .none session world with ⟨next | last | ⟨last, error⟩, after⟩
    · -- A dispatch more is counted, and then the steps are more than the limit for good.
      have first := steps_of_step step
      have counted := (advance_countsSteps count : CountsSteps next.steps count
        (program.advance device .none count next after).1).bounds
      rw [advance_succ_of_running step] at ends
      have tooLate := ends.steps_le
      omega
    · exact outside_of_completed (congrArg Prod.fst step)
    · have counted : CountsSteps session.steps 1 (program.step device .none session world).1 :=
        step_countsSteps
      simp only [advance, step, Status.EndsBy, CountsSteps] at ends counted
      omega

/-- A session that ends by itself in time ends the same way under the limit. -/
theorem advance_limited_of_endsBy {limit count : Nat}
    (ends : (program.advance device .none count session world).1.EndsBy limit) :
    program.advance device (.limited limit) count session world =
      program.advance device .none count session world := by
  induction count generalizing session world with
  | zero => exact ends.elim
  | succ count ih =>
    rcases Nat.lt_or_ge session.steps limit with below | reached
    · have same : program.step device (.limited limit) session world =
          program.step device .none session world :=
        step_congr fun _ => Control.stop?_limited_of_lt below
      simp only [advance, same] at ends ⊢
      rcases step : program.step device .none session world with ⟨next | last | last, after⟩
      · rw [step] at ends
        exact ih ends
      · rfl
      · rfl
    · simp only [advance, step_of_outside (outside_of_endsBy reached ends)]

/-- Under a limit no session makes more dispatches than the limit. -/
theorem steps_le_of_limited {limit : Nat} (count : Nat) (within : session.steps ≤ limit) :
    (program.advance device (.limited limit) count session world).1.session.steps ≤ limit := by
  apply advance_induction (motive := fun status _ => status.session.steps ≤ limit) _ count within
  intro session world within
  apply step_induction (motive := fun status _ => status.session.steps ≤ limit)
  · exact fun _ => within
  · exact fun _ _ _ => within
  · intro _ free status after dispatched
    have below : session.steps < limit := by
      by_contra reached
      rw [Control.stop?_limited_of_le (Nat.not_lt.mp reached)] at free
      cases free
    have counted := (countsSteps_dispatched dispatched).bounds
    omega

/-- Under a limit every session ends, with its next step after the last one allowed at the latest. -/
theorem exists_run?_of_limited [HasCell n] {limit count : Nat} (enough : limit < count) :
    ∃ report, program.run? device (.limited limit) n count world = some report := by
  apply Option.ne_none_iff_exists'.mp
  intro running
  obtain ⟨next, after, ran⟩ := run?_eq_none_iff.mp running
  have made := steps_of_running ran
  have bounded : (program.advance device (.limited limit) count
    (Session.start n) world).1.session.steps ≤ limit := steps_le_of_limited count (Nat.zero_le limit)
  rw [ran] at bounded
  have allowed : next.steps ≤ limit := bounded
  omega

/-- So its report is known by then. -/
theorem run?_limited_of_lt [HasCell n] {limit count enough : Nat} {report : Report n World}
    (ran : program.run? device (.limited limit) n count world = some report) (lt : limit < enough) :
    program.run? device (.limited limit) n enough world = some report := by
  obtain ⟨other, ranToo⟩ : ∃ other, program.run? device (.limited limit) n enough world = some other :=
    exists_run?_of_limited lt
  rw [ranToo, run?_unique ranToo ran]

/-! ## The two ways in which a limited session can end -/

section Ends

variable [HasCell n] {limit : Nat}

/-- If the unlimited session ends in time, its report is the report of the limited one. -/
theorem run?_limited_of_endsWithin (ends : program.EndsWithin device n limit world) :
    ∃ report, (∃ count, program.run? device .none n count world = some report) ∧
      ∀ count, limit < count → program.run? device (.limited limit) n count world = some report := by
  obtain ⟨first, ends⟩ := ends
  have same := advance_limited_of_endsBy ends
  have ended : program.run? device .none n first world ≠ none := by
    rw [Ne, run?_eq_none_iff]
    rintro ⟨next, after, ran⟩
    rw [ran] at ends
    exact ends
  obtain ⟨report, ran⟩ := Option.ne_none_iff_exists'.mp ended
  refine ⟨report, ⟨first, ran⟩, fun count enough => ?_⟩
  have limited : program.run? device (.limited limit) n first world = some report := by
    rw [run?_eq, same, ← run?_eq]
    exact ran
  exact run?_limited_of_lt limited enough

/-- Otherwise the unlimited session has dispatches left when the limit is used up. -/
theorem running_of_not_endsWithin (lasts : ¬program.EndsWithin device n limit world) :
    ∃ session after, program.advance device .none limit (Session.start n) world =
        (.running session, after) ∧
      session.steps = limit ∧ session.position < program.script.size := by
  rcases reached : program.advance device .none limit (Session.start n) world with ⟨status, after⟩
  cases status with
  | running session =>
    have made := steps_of_running reached
    refine ⟨session, after, rfl, made, ?_⟩
    by_contra outside
    apply lasts
    refine ⟨limit + 1, ?_⟩
    rw [advance_add_of_running reached 1]
    simp only [advance, step_of_outside (Nat.not_lt.mp outside)]
    exact Nat.le_of_eq made
  | completed session | aborted session error =>
    refine absurd ⟨limit, ?_⟩ lasts
    have counted : CountsSteps (Session.start n).steps limit
      (program.advance device .none limit (Session.start n) world).1 := advance_countsSteps limit
    rw [reached] at counted ⊢
    have start : (Session.start n).steps = 0 := rfl
    have fewer := counted.2
    simp only [Status.EndsBy]
    omega

/-- There the limited session stops, in front of a dispatch that the limit does not allow, and has
recorded what the unlimited session records. -/
theorem record_limited_of_running {session : Session n} {after : World} {count : Nat}
    (reached : program.advance device .none limit (Session.start n) world =
      (.running session, after))
    (made : session.steps = limit) (inside : session.position < program.script.size)
    (enough : limit < count) :
    program.record device (.limited limit) count #[] (Session.start n) world =
      ((program.record device .none limit #[] (Session.start n) world).1,
        .aborted session (.stepLimitExceeded limit), after) := by
  have same : program.record device (.limited limit) limit #[] (Session.start n) world =
      program.record device .none limit #[] (Session.start n) world :=
    record_congr (fun _ _ below => Control.stop?_limited_of_lt below) limit #[] world
      (by simp [Session.start])
  have recorded : program.record device (.limited limit) limit #[] (Session.start n) world =
      ((program.record device .none limit #[] (Session.start n) world).1,
        .running session, after) := by
    rw [same, ← reached, ← record_snd program device .none limit #[]]
  have stop : (Control.limited limit).stop? session.steps after = some (.stepLimitExceeded limit) :=
    Control.stop?_limited_of_le (Nat.le_of_eq made.symm)
  exact record_of_stop recorded inside stop enough

theorem advance_limited_of_running {session : Session n} {after : World} {count : Nat}
    (reached : program.advance device .none limit (Session.start n) world =
      (.running session, after))
    (made : session.steps = limit) (inside : session.position < program.script.size)
    (enough : limit < count) :
    program.advance device (.limited limit) count (Session.start n) world =
      (.aborted session (.stepLimitExceeded limit), after) := by
  rw [← record_snd program device (.limited limit) count #[],
    record_limited_of_running reached made inside enough]

/-- The output under a limit is the beginning of the output under any larger one. -/
theorem output_isPrefix_of_le {device : Device World} {world : World} {larger count countToo : Nat}
    {report other : Report n (World × CallLog)} (le : limit ≤ larger)
    (ran : program.run? device.logged (.limited limit) n count (world, []) = some report)
    (ranToo : program.run? device.logged (.limited larger) n countToo (world, []) = some other) :
    report.world.2.output <+: other.world.2.output := by
  by_cases ends : program.EndsWithin device.logged n limit (world, [])
  · obtain ⟨plain, ⟨first, ranPlain⟩, all⟩ := run?_limited_of_endsWithin ends
    have endsLarger : program.EndsWithin device.logged n larger (world, []) := by
      obtain ⟨first, ends⟩ := ends
      exact ⟨first, ends.mono le⟩
    obtain ⟨plainToo, ⟨second, ranPlainToo⟩, allToo⟩ := run?_limited_of_endsWithin endsLarger
    have same := run?_unique ran (all (limit + 1) (Nat.lt_succ_self _))
    have sameToo := run?_unique ranToo (allToo (larger + 1) (Nat.lt_succ_self _))
    obtain rfl : report = other := by rw [same, sameToo, run?_unique ranPlain ranPlainToo]
    exact List.prefix_rfl
  · obtain ⟨session, after, reached, made, inside⟩ := running_of_not_endsWithin ends
    have ran := run?_limited_of_lt ran (Nat.lt_succ_self limit)
    have passed : program.advance device.logged (.limited larger) limit (Session.start n)
        (world, []) = (.running session, after) := by
      rw [← reached]
      exact advance_limited limit (by simpa [Session.start] using le)
    rw [output_of_run? ran,
      advance_limited_of_running reached made inside (Nat.lt_succ_self limit)]
    exact output_isPrefix_of_run? passed ranToo

end Ends

/-- A session under a limit is the unlimited session cut short: the same if that one ends in time,
and else stopped behind the last dispatch that the limit allows, with one flush. Its output is the
beginning of the output under a larger limit, it never makes more dispatches than the limit, and
with neither limit nor raised flag a control does nothing. -/
theorem limited_truncates (program : Program) (device : Device World) (n : Nat) [HasCell n]
    (limit : Nat) (world : World) :
    (program.EndsWithin device.logged n limit (world, []) →
      ∃ report, (∃ count, program.run? device.logged .none n count (world, []) = some report) ∧
        ∀ count, limit < count →
          program.run? device.logged (.limited limit) n count (world, []) = some report) ∧
    (¬program.EndsWithin device.logged n limit (world, []) →
      ∃ session after log, program.advance device.logged .none limit (Session.start n) (world, []) =
          (.running session, (after, log)) ∧
        session.steps = limit ∧
        (program.record device.logged (.limited limit) (limit + 1) #[] (Session.start n)
            (world, [])).1.countP Event.isDispatch = limit ∧
        (program.record device.logged (.limited limit) (limit + 1) #[] (Session.start n)
            (world, [])).1 =
          (program.record device.logged .none limit #[] (Session.start n) (world, [])).1 ∧
        ∀ count, limit < count →
          program.run? device.logged (.limited limit) n count (world, []) =
            some ⟨.error (.stepLimitExceeded limit),
              .aborted session (.stepLimitExceeded limit),
              ((device.flush after).2, log ++ [.flush (device.flush after).1])⟩) ∧
    (∀ larger count countToo report other, limit ≤ larger →
      program.run? device.logged (.limited limit) n count (world, []) = some report →
      program.run? device.logged (.limited larger) n countToo (world, []) = some other →
        report.world.2.output <+: other.world.2.output) ∧
    (∀ count, (program.advance device.logged (.limited limit) count (Session.start n)
      (world, [])).1.session.steps ≤ limit) ∧
    ∀ control : Control (World × CallLog), control.maxSteps = .none →
      (∀ steps world, control.flag steps world = false) → ∀ count,
        program.run? device.logged control n count (world, []) =
          program.run? device.logged .none n count (world, []) := by
  refine ⟨run?_limited_of_endsWithin, fun lasts => ?_, fun _ _ _ _ _ le ran ranToo =>
    output_isPrefix_of_le le ran ranToo, fun count => steps_le_of_limited count (Nat.zero_le limit),
    fun control unlimited unraised count => by rw [Control.eq_none_of_unraised unlimited unraised]⟩
  obtain ⟨session, ⟨after, log⟩, reached, made, inside⟩ := running_of_not_endsWithin lasts
  have recorded := record_limited_of_running reached made inside (Nat.lt_succ_self limit)
  have dispatches := countP_record_of_running reached
  refine ⟨session, after, log, reached, made, by rw [recorded, dispatches], by rw [recorded],
    fun count enough => ?_⟩
  rw [run?_eq, advance_limited_of_running reached made inside enough]
  rfl

/-- A limit of two dispatches is not in the way of a script of two characters. -/
theorem limited_truncates_exact :
    ∃ program, load #['+', '.'] = .ok program ∧
      program.EndsWithin (Device.ofEnds .text .bytes).logged 1 2 (([], #[]), []) ∧
      ∃ report,
        (∃ count, program.run? (Device.ofEnds .text .bytes).logged .none 1 count
          (([], #[]), []) = some report) ∧
        ∀ count, 2 < count →
          program.run? (Device.ofEnds .text .bytes).logged (.limited 2) 1 count
            (([], #[]), []) = some report := by
  refine ⟨⟨_, _, _, rfl, rfl⟩, rfl, ?_⟩
  have ends : Program.EndsWithin ⟨#['+', '.'], _, .default, rfl, rfl⟩
      (Device.ofEnds .text .bytes).logged 1 2 (([], #[]), []) := ⟨3, Nat.le_refl 2⟩
  exact ⟨ends, (limited_truncates _ (.ofEnds .text .bytes) 1 2 ([], #[])).1 ends⟩

end Program

end TapeMachine
