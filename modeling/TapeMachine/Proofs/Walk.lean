import TapeMachine.Proofs.Nesting
import TapeMachine.Proofs.Unmatched

/-! # The walk to a partner, turn by turn

A walk from a bracket goes on by one position in every turn, with a count of the loops that it has
gone into. It stays on the script, and it comes to its answer in no more turns than the script has
characters: the partner of the bracket, or that it ran off the script. The partner is the bracket of
the other kind that encloses an accepted part with it, so partners belong to each other and the
pairs of a script nest.
-/

namespace TapeMachine

def Bracket.opposite : Bracket → Bracket
  | opening => closing
  | closing => opening

/-- The position that a walk from such a bracket goes to next, if there is one in that direction. -/
def Bracket.next? : Bracket → Nat → Option Nat
  | opening, position => some (position + 1)
  | closing, 0 => none
  | closing, position + 1 => some position

/-- A walk that has come to a position. -/
structure Walk where
  position : Nat
  /-- The number of loops that it is in, the one that it set out from aside. -/
  depth : Nat
deriving DecidableEq, Repr

/-- What some turns of a walk come to. -/
inductive Walk.Progress where
  | walking (walk : Walk)
  | answered (answer : Except LoopFault Nat)

namespace Script

/-- One turn of a walk from the bracket at `start`. -/
def turn (script : Script) (bracket : Bracket) (start : Nat) (walk : Walk) : Walk.Progress :=
  match bracket.next? walk.position with
  | none => .answered (.error (.ranOffEnd start))
  | some position =>
    match script[position]? with
    | none => .answered (.error (.ranOffEnd start))
    | some character =>
      if character = bracket.symbol then .walking ⟨position, walk.depth + 1⟩
      else if character = bracket.opposite.symbol then
        match walk.depth with
        | 0 => .answered (.ok position)
        | outer + 1 => .walking ⟨position, outer⟩
      else .walking ⟨position, walk.depth⟩

/-- A number of turns of a walk from the bracket at `start`, or all up to its answer. -/
def walk (script : Script) (bracket : Bracket) (start : Nat) :
    (turns : Nat) → Walk → Walk.Progress
  | 0, walk => .walking walk
  | turns + 1, walk =>
    match script.turn bracket start walk with
    | .walking next => script.walk bracket start turns next
    | answered => answered

variable {script : Script} {bracket : Bracket} {start : Nat}

section

variable {walk : Walk} {position : Nat} (goes : bracket.next? walk.position = some position)

include goes

/-- A bracket of its own kind leads a walk into a loop. -/
theorem turn_of_same (same : script[position]? = some bracket.symbol) :
    script.turn bracket start walk = .walking ⟨position, walk.depth + 1⟩ := by
  simp only [turn, goes, same, ↓reduceIte]

/-- A bracket of the other kind leads out of the innermost loop, the one that the walk set out from
at last. -/
theorem turn_of_opposite (opposite : script[position]? = some bracket.opposite.symbol) :
    script.turn bracket start walk =
      match walk.depth with
      | 0 => .answered (.ok position)
      | outer + 1 => .walking ⟨position, outer⟩ := by
  have other : bracket.opposite.symbol ≠ bracket.symbol := by cases bracket <;> decide
  simp only [turn, goes, opposite, other, ↓reduceIte]

theorem turn_of_plain {character : Char} (present : script[position]? = some character)
    (notSame : character ≠ bracket.symbol) (notOpposite : character ≠ bracket.opposite.symbol) :
    script.turn bracket start walk = .walking ⟨position, walk.depth⟩ := by
  simp only [turn, goes, present, notSame, notOpposite, ↓reduceIte]

end

/-! ## Staying on the script -/

theorem position_lt_of_turn {walk next : Walk}
    (turned : script.turn bracket start walk = .walking next) : next.position < script.size := by
  unfold turn at turned
  split at turned
  · cases turned
  · rename_i position _
    rcases Nat.lt_or_ge position script.size with inside | outside
    · rw [Array.getElem?_eq_getElem inside] at turned
      dsimp only at turned
      split_ifs at turned
      · cases turned
        exact inside
      · split at turned
        · cases turned
        · cases turned
          exact inside
      · cases turned
        exact inside
    · rw [Array.getElem?_eq_none outside] at turned
      cases turned

theorem position_lt_of_walk {turns : Nat} {walk last : Walk} (inside : walk.position < script.size)
    (walked : script.walk bracket start turns walk = .walking last) :
    last.position < script.size := by
  induction turns generalizing walk with
  | zero =>
    cases walked
    exact inside
  | succ turns ih =>
    simp only [Script.walk] at walked
    cases turned : script.turn bracket start walk with
    | walking next =>
      rw [turned] at walked
      exact ih (position_lt_of_turn turned) walked
    | answered answer =>
      rw [turned] at walked
      cases walked

/-! ## Coming to an answer -/

/-- The answer of a walk that found a bracket, or none. -/
def answerOf (start : Nat) : Option Nat → Except LoopFault Nat
  | some found => .ok found
  | none => .error (.ranOffEnd start)

theorem exists_walk_of_turn {turns : Nat} {walk next : Walk} {answer : Except LoopFault Nat}
    (turned : script.turn bracket start walk = .walking next)
    (walked : ∃ made ≤ turns, script.walk bracket start made next = .answered answer) :
    ∃ made ≤ turns + 1, script.walk bracket start made walk = .answered answer := by
  obtain ⟨made, le, walked⟩ := walked
  refine ⟨made + 1, Nat.succ_le_succ le, ?_⟩
  simp only [Script.walk, turned, walked]

theorem exists_walk_of_answered {turns : Nat} {walk : Walk} {answer : Except LoopFault Nat}
    (turned : script.turn bracket start walk = .answered answer) :
    ∃ made ≤ turns + 1, script.walk bracket start made walk = .answered answer :=
  ⟨1, by omega, by simp only [Script.walk, turned]⟩

/-- A walk to the right finds what lies among the characters ahead of it. -/
theorem exists_walk_opening (start depth : Nat) {ahead position : Nat}
    (rest : position + 1 + ahead = script.size) :
    ∃ turns ≤ ahead + 1, script.walk .opening start turns ⟨position, depth⟩ =
      .answered (answerOf start (script.closingAhead? depth ahead)) := by
  induction ahead generalizing depth position with
  | zero =>
    have outside : script[position + 1]? = none := Array.getElem?_eq_none (by omega)
    apply exists_walk_of_answered
    simp only [turn, Bracket.next?, outside]
    rfl
  | succ ahead ih =>
    have here : script.size - (ahead + 1) = position + 1 := by omega
    have restToo : position + 1 + 1 + ahead = script.size := by omega
    have present := Array.getElem?_eq_getElem (show position + 1 < script.size by omega)
    simp only [closingAhead?, here, present, Option.some.injEq]
    split_ifs with isOpening isClosing
    · rw [isOpening] at present
      exact exists_walk_of_turn (turn_of_same rfl present) (ih _ restToo)
    · rw [isClosing] at present
      cases depth with
      | zero => exact exists_walk_of_answered (turn_of_opposite rfl present)
      | succ outer => exact exists_walk_of_turn (turn_of_opposite rfl present) (ih _ restToo)
    · exact exists_walk_of_turn (turn_of_plain rfl present isOpening isClosing) (ih _ restToo)

/-- A walk to the left finds what lies among the characters behind it. -/
theorem exists_walk_closing (start depth : Nat) {behind : Nat} (inside : behind ≤ script.size) :
    ∃ turns ≤ behind + 1, script.walk .closing start turns ⟨behind, depth⟩ =
      .answered (answerOf start (script.openingBehind? depth behind)) := by
  induction behind generalizing depth with
  | zero => exact exists_walk_of_answered rfl
  | succ position ih =>
    have insideToo : position ≤ script.size := Nat.le_of_succ_le inside
    have present := Array.getElem?_eq_getElem (show position < script.size from inside)
    simp only [openingBehind?, present, Option.some.injEq]
    split_ifs with isClosing isOpening
    · rw [isClosing] at present
      exact exists_walk_of_turn (turn_of_same rfl present) (ih _ insideToo)
    · rw [isOpening] at present
      cases depth with
      | zero => exact exists_walk_of_answered (turn_of_opposite rfl present)
      | succ outer => exact exists_walk_of_turn (turn_of_opposite rfl present) (ih _ insideToo)
    · exact exists_walk_of_turn (turn_of_plain rfl present isClosing isOpening) (ih _ insideToo)

/-- From every bracket the walk comes to the answer that is the partner. -/
theorem exists_walk_of_bracket {position : Nat}
    (present : script[position]? = some bracket.symbol) :
    ∃ turns ≤ script.size, script.walk bracket position turns ⟨position, 0⟩ =
      .answered (script.partner position) := by
  have inside := (Array.getElem?_eq_some_iff.mp present).1
  unfold partner
  rw [present]
  cases bracket with
  | opening =>
    obtain ⟨turns, le, walked⟩ := exists_walk_opening position 0
      (show position + 1 + (script.size - (position + 1)) = script.size by omega)
    refine ⟨turns, by omega, walked.trans ?_⟩
    simp only [Bracket.symbol, ↓reduceIte]
    cases script.closingAhead? 0 (script.size - (position + 1)) <;> rfl
  | closing =>
    obtain ⟨turns, le, walked⟩ := exists_walk_closing position 0 (Nat.le_of_lt inside)
    refine ⟨turns, by omega, walked.trans ?_⟩
    simp only [Bracket.symbol, Option.some.injEq, Char.reduceEq, ↓reduceIte]
    cases script.openingBehind? 0 position <;> rfl

/-! ## Pairs of brackets -/

/-- An opening and a closing bracket behind it, with a part strictly between them that is accepted. -/
structure Encloses (script : Script) (opening closing : Nat) : Prop where
  before : opening < closing
  opens : script[opening]? = some '['
  closes : script[closing]? = some ']'
  accepted : check (script.extract (opening + 1) closing) = .ok ()

theorem encloses_iff_isLoop {opening closing : Nat} :
    script.Encloses opening closing ↔ IsLoop script.toList opening closing := by
  simp only [isLoop_iff_extract, Array.getElem?_toList, ← Array.toList_extract, ← check_eq_ok_iff]
  exact ⟨fun pair => ⟨pair.1, pair.2, pair.3, pair.4⟩, fun ⟨before, opens, closes, accepted⟩ =>
    ⟨before, opens, closes, accepted⟩⟩

theorem partner_eq_ok_iff_encloses {position other : Nat} :
    script.partner position = .ok other ↔
      script.Encloses position other ∨ script.Encloses other position := by
  rw [partner_eq_ok_iff, encloses_iff_isLoop, encloses_iff_isLoop]

/-- The partner of a bracket is the bracket of the other kind that encloses an accepted part with
it, the opening one in front; there is one at most, and its partner is the bracket again. The pairs of
a script are disjoint or nested, whether or not the script is balanced. From every bracket the walk
comes to its answer in no more turns than there are characters, and it does not leave the script. -/
theorem partner_nests (script : Script) :
    (∀ position other, script.partner position = .ok other ↔
      script.Encloses position other ∨ script.Encloses other position) ∧
    (∀ position first second,
      (script.Encloses position first ∨ script.Encloses first position) →
        (script.Encloses position second ∨ script.Encloses second position) → first = second) ∧
    (∀ position other, script.partner position = .ok other ↔ script.partner other = .ok position) ∧
    (∀ opening closing inner other, script.Encloses opening closing → script.Encloses inner other →
      (opening = inner ∧ closing = other) ∨ closing < inner ∨ other < opening ∨
        (opening < inner ∧ other < closing) ∨ (inner < opening ∧ closing < other)) ∧
    ∀ position,
      (¬script.IsBracketAt position ∧ script.partner position = .error (.notBound position)) ∨
        ∃ bracket : Bracket, script[position]? = some bracket.symbol ∧
          (∃ turns ≤ script.size, script.walk bracket position turns ⟨position, 0⟩ =
            .answered (script.partner position)) ∧
          ∀ turns last, script.walk bracket position turns ⟨position, 0⟩ = .walking last →
            last.position < script.size := by
  refine ⟨fun _ _ => partner_eq_ok_iff_encloses, fun position first second => ?_,
    fun position other => ?_, fun opening closing inner other => ?_, fun position => ?_⟩
  · rw [← partner_eq_ok_iff_encloses, ← partner_eq_ok_iff_encloses]
    intro found foundToo
    exact Except.ok.inj (found.symm.trans foundToo)
  · rw [partner_eq_ok_iff_encloses, partner_eq_ok_iff_encloses, or_comm]
  · rw [encloses_iff_isLoop, encloses_iff_isLoop]
    exact IsLoop.disjoint_or_nested
  · by_cases isBracket : script.IsBracketAt position
    · obtain ⟨bracket, present⟩ := isBracket
      have inside := (Array.getElem?_eq_some_iff.mp present).1
      exact .inr ⟨bracket, present, exists_walk_of_bracket present,
        fun _ _ => position_lt_of_walk inside⟩
    · exact .inl ⟨isBracket, script.partner_eq_error_iff.mpr (.inl ⟨rfl, isBracket⟩)⟩

/-- Between two brackets without a partner one loop lies in another. The walk from the end of the
outer one is in the inner one behind two turns. -/
theorem partner_nests_unbalanced :
    let script : Script := #[']', '[', '[', ']', '+', ']', '[']
    script.Encloses 1 5 ∧ script.Encloses 2 3 ∧ script.partner 1 = .ok 5 ∧
      script.partner 5 = .ok 1 ∧ (∀ other, script.Encloses other 5 → other = 1) ∧
      ((1 = 2 ∧ 5 = 3) ∨ 5 < 2 ∨ 3 < 1 ∨ (1 < 2 ∧ 3 < 5) ∨ (2 < 1 ∧ 5 < 3)) ∧
      script.walk .closing 5 2 ⟨5, 0⟩ = .walking ⟨3, 1⟩ ∧ 3 < script.size := by
  intro script
  obtain ⟨found, unique, back, nest, walks⟩ := partner_nests script
  have outer : script.Encloses 1 5 := ⟨by decide, rfl, rfl, rfl⟩
  have inner : script.Encloses 2 3 := ⟨by decide, rfl, rfl, rfl⟩
  have partner := (found 1 5).mpr (.inl outer)
  have only (other : Nat) (pair : script.Encloses other 5) : other = 1 :=
    unique 5 other 1 (.inr pair) (.inr outer)
  have inside : 3 < script.size := by
    obtain ⟨bracket, present, -, stays⟩ := (walks 5).resolve_left fun off => off.1 ⟨.closing, rfl⟩
    cases bracket with
    | opening => exact absurd present (by decide)
    | closing => exact stays 2 ⟨3, 1⟩ rfl
  exact ⟨outer, inner, partner, (back 1 5).mp partner, only, nest 1 5 2 3 outer inner, rfl, inside⟩

end Script

end TapeMachine
