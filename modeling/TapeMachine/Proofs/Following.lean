import TapeMachine.Proofs.Calls
import TapeMachine.Proofs.Record

/-! # Two devices that serve alike

A session learns of the world by the answers to its calls only. So if one device serves every call
that another one serves, with the same answer, a session goes on with it as with the other one: it
is in the same states and leaves the same events, as long as its calls are served. Nothing is said
here about a call that is refused; behind it a session makes no call but the flush.
-/

namespace TapeMachine

universe u v

variable {n : Nat} {World : Type u} {Other : Type v}

/-- In related worlds the other device serves what the first one serves, with the same answer, and
leaves related worlds; and the two controls agree there. -/
structure Follows (Related : World → Other → Prop) (device : Device World)
    (control : Control World) (other : Device Other) (controlToo : Control Other) : Prop where
  stop : ∀ {world : World} {worldToo : Other}, Related world worldToo → ∀ steps,
    controlToo.stop? steps worldToo = control.stop? steps world
  read : ∀ {world : World} {worldToo : Other}, Related world worldToo → ∀ byte,
    (device.read world).1 = .ok (some byte) →
      (other.read worldToo).1 = .ok (some byte) ∧ Related (device.read world).2 (other.read worldToo).2
  write : ∀ {world : World} {worldToo : Other}, Related world worldToo → ∀ byte,
    (device.write byte world).1 = .ok () →
      (other.write byte worldToo).1 = .ok () ∧
        Related (device.write byte world).2 (other.write byte worldToo).2

namespace Follows

variable {program : Program} {device : Device World} {control : Control World}
  {other : Device Other} {controlToo : Control Other} {Related : World → Other → Prop}
  {session next : Session n} {world after : World} {worldToo : Other}

section

variable (follows : Follows Related device control other controlToo)
  (related : Related world worldToo)

include follows related

theorem events_eq (session : Session n) :
    program.events controlToo session worldToo = program.events control session world := by
  simp only [Program.events, follows.stop related]

/-- Where a session goes on with the one device, it goes on with the other. -/
theorem step_of_running
    (ran : program.step device control session world = (.running next, after)) :
    ∃ afterToo, program.step other controlToo session worldToo = (.running next, afterToo) ∧
      Related after afterToo := by
  obtain ⟨inside, free⟩ :=
    Program.free_of_running (Program.advance_one.trans ran) Program.advance_zero Nat.one_pos
  rw [Program.step_of_inside inside free] at ran
  rw [Program.step_of_inside inside ((follows.stop related _).trans free)]
  simp only [Program.dispatch] at ran ⊢
  cases acted : program.action program.script[session.position] session with
  | proceed reached =>
    rw [acted] at ran
    cases ran
    exact ⟨worldToo, rfl, related⟩
  | stop stopped fault =>
    rw [acted] at ran
    cases ran
  | read waiting =>
    simp only [acted] at ran ⊢
    rcases answer : (device.read world).1 with failure | _ | byte
    · simp [answer, Session.received] at ran
    · simp [answer, Session.received] at ran
    · obtain ⟨same, relatedToo⟩ := follows.read related byte answer
      rw [answer] at ran
      cases ran
      exact ⟨_, by rw [same]; rfl, relatedToo⟩
  | write byte waiting =>
    simp only [acted] at ran ⊢
    rcases answer : (device.write byte world).1 with failure | _
    · simp [answer, Session.delivered] at ran
    · obtain ⟨same, relatedToo⟩ := follows.write related byte answer
      rw [answer] at ran
      cases ran
      exact ⟨_, by rw [same]; rfl, relatedToo⟩

/-- As long as a session is running with the one device, it makes the same dispatches with the
other. -/
theorem record_of_running {count : Nat} {recorded left : Array Event}
    (ran : program.record device control count recorded session world =
      (left, .running next, after)) :
    ∃ afterToo, program.record other controlToo count recorded session worldToo =
        (left, .running next, afterToo) ∧ Related after afterToo := by
  induction count generalizing recorded session world worldToo with
  | zero =>
    cases ran
    exact ⟨worldToo, rfl, related⟩
  | succ count ih =>
    simp only [Program.record] at ran ⊢
    rcases step : program.step device control session world with ⟨middle | _ | _, between⟩
    · obtain ⟨betweenToo, stepToo, relatedToo⟩ := follows.step_of_running related step
      rw [step] at ran
      rw [follows.events_eq related, stepToo]
      exact ih relatedToo ran
    · rw [step] at ran
      cases ran
    · rw [step] at ran
      cases ran

theorem advance_of_running {count : Nat}
    (ran : program.advance device control count session world = (.running next, after)) :
    ∃ afterToo, program.advance other controlToo count session worldToo = (.running next, afterToo) ∧
      Related after afterToo := by
  rw [← Program.record_snd program device control count #[]] at ran
  obtain ⟨afterToo, recorded, relatedToo⟩ :=
    follows.record_of_running related (Prod.ext rfl ran)
  refine ⟨afterToo, ?_, relatedToo⟩
  rw [← Program.record_snd program other controlToo count #[], recorded]

/-- The dispatch at hand is announced alike with both, even if it is not served any more. -/
theorem record_succ_fst {count : Nat}
    (ran : program.advance device control count session world = (.running next, after)) :
    (program.record other controlToo (count + 1) #[] session worldToo).1 =
      (program.record device control (count + 1) #[] session world).1 := by
  rw [← Program.record_snd program device control count #[]] at ran
  have recorded : program.record device control count #[] session world =
      (_, .running next, after) := Prod.ext rfl ran
  obtain ⟨afterToo, recordedToo, relatedToo⟩ := follows.record_of_running related recorded
  rw [Program.record_add, Program.record_add, recordedToo, recorded]
  simp only [Program.record_one_fst, follows.events_eq relatedToo]

end

end Follows

end TapeMachine
