import TapeMachine.Proofs.Balance

/-! # The loops of a script

Two brackets are the ends of one loop when the part strictly between them is balanced. A loop can be
told from either end: from its closing bracket, as the innermost loop that is open before it, and
from its opening bracket, by where the depth behind it falls below zero. In an accepted script every
bracket is an end of a loop.
-/

namespace TapeMachine

namespace Script

/-- A loop that starts at `opening` is still open behind `front`, with `depth` loops open in it. -/
def OpensAt (front : List Char) (depth opening : Nat) : Prop :=
  ∃ outside inside, front = outside ++ '[' :: inside ∧ depthAfter? 0 inside = some depth ∧
    opening = outside.length

/-- The loop around `depth` open loops ends at `closing`, if `ahead` starts at `position`. -/
def ClosesAt (position : Nat) (ahead : List Char) (depth closing : Nat) : Prop :=
  ∃ inside outside, ahead = inside ++ ']' :: outside ∧ depthAfter? depth inside = some 0 ∧
    closing = position + inside.length

/-- The brackets at two positions are the ends of one loop. -/
def IsLoop (characters : List Char) (opening closing : Nat) : Prop :=
  ∃ front body behind, characters = front ++ '[' :: (body ++ ']' :: behind) ∧
    depthAfter? 0 body = some 0 ∧ opening = front.length ∧ closing = opening + 1 + body.length

/-! ## One character more -/

theorem opensAt_snoc {front : List Char} {character : Char} {depth opening : Nat} :
    OpensAt (front ++ [character]) depth opening ↔
      (character = '[' ∧ depth = 0 ∧ opening = front.length) ∨
        ∃ inner, depthAfter? inner [character] = some depth ∧ OpensAt front inner opening := by
  constructor
  · rintro ⟨outside, inside, split, counted, rfl⟩
    induction inside using List.reverseRecOn with
    | nil =>
      obtain ⟨rfl, same⟩ := List.append_inj' split rfl
      exact .inl ⟨List.head_eq_of_cons_eq same, by simpa using counted.symm, rfl⟩
    | append_singleton inside last =>
      rw [show outside ++ '[' :: (inside ++ [last]) = (outside ++ '[' :: inside) ++ [last] by simp]
        at split
      obtain ⟨rfl, same⟩ := List.append_inj' split rfl
      obtain rfl : character = last := List.head_eq_of_cons_eq same
      rw [depthAfter?_snoc, Option.bind_eq_some_iff] at counted
      obtain ⟨inner, counted, stepped⟩ := counted
      exact .inr ⟨inner, stepped, outside, inside, rfl, counted, rfl⟩
  · rintro (⟨rfl, rfl, rfl⟩ | ⟨inner, stepped, outside, inside, rfl, counted, rfl⟩)
    · exact ⟨front, [], rfl, rfl, rfl⟩
    · exact ⟨outside, inside ++ [character], by simp, by simp [depthAfter?_snoc, counted, stepped],
        rfl⟩

theorem closesAt_cons {position depth closing : Nat} {character : Char} {ahead : List Char} :
    ClosesAt position (character :: ahead) depth closing ↔
      (character = ']' ∧ depth = 0 ∧ closing = position) ∨
        ∃ inner, depthAfter? depth [character] = some inner ∧
          ClosesAt (position + 1) ahead inner closing := by
  constructor
  · rintro ⟨inside, outside, split, counted, rfl⟩
    cases inside with
    | nil =>
      obtain ⟨rfl, -⟩ := List.cons_eq_cons.mp split
      exact .inl ⟨rfl, by simpa using counted, rfl⟩
    | cons first inside =>
      obtain ⟨rfl, rfl⟩ := List.cons_eq_cons.mp split
      rw [← List.singleton_append, depthAfter?_append, Option.bind_eq_some_iff] at counted
      obtain ⟨inner, stepped, counted⟩ := counted
      exact .inr ⟨inner, stepped, inside, outside, rfl, counted,
        by simp only [List.length_cons]; omega⟩
  · rintro (⟨rfl, rfl, rfl⟩ | ⟨inner, stepped, inside, outside, rfl, counted, rfl⟩)
    · exact ⟨[], ahead, rfl, rfl, rfl⟩
    · refine ⟨character :: inside, outside, rfl, ?_, by simp only [List.length_cons]; omega⟩
      rw [← List.singleton_append, depthAfter?_append, stepped, Option.bind_some, counted]

@[simp] theorem opensAt_snoc_opening_zero {front : List Char} {opening : Nat} :
    OpensAt (front ++ ['[']) 0 opening ↔ opening = front.length := by
  simp [opensAt_snoc]

@[simp] theorem opensAt_snoc_opening_succ {front : List Char} {depth opening : Nat} :
    OpensAt (front ++ ['[']) (depth + 1) opening ↔ OpensAt front depth opening := by
  simp [opensAt_snoc]

@[simp] theorem opensAt_snoc_closing {front : List Char} {depth opening : Nat} :
    OpensAt (front ++ [']']) depth opening ↔ OpensAt front (depth + 1) opening := by
  rw [opensAt_snoc]
  constructor
  · rintro (⟨other, -⟩ | ⟨_ | inner, stepped, opens⟩)
    · simp at other
    · simp at stepped
    · obtain rfl : inner = depth := by simpa using stepped
      exact opens
  · exact fun opens => .inr ⟨depth + 1, rfl, opens⟩

theorem opensAt_snoc_plain {front : List Char} {character : Char} {depth opening : Nat}
    (notOpening : character ≠ '[') (notClosing : character ≠ ']') :
    OpensAt (front ++ [character]) depth opening ↔ OpensAt front depth opening := by
  simp [opensAt_snoc, notOpening, depthAfter?_plain _ _ notOpening notClosing]

/-! ## Two views of a loop -/

/-- Seen from its end, a loop is the innermost one open before a closing bracket. -/
theorem isLoop_iff_opensAt {characters : List Char} {opening closing : Nat} :
    IsLoop characters opening closing ↔
      characters[closing]? = some ']' ∧ OpensAt (characters.take closing) 0 opening := by
  constructor
  · rintro ⟨front, body, behind, rfl, balanced, rfl, rfl⟩
    have regrouped : front ++ '[' :: (body ++ ']' :: behind) =
        (front ++ '[' :: body) ++ ']' :: behind := by simp
    have length : (front ++ '[' :: body).length = front.length + 1 + body.length := by
      simp only [List.length_append, List.length_cons]
      omega
    rw [regrouped, ← length]
    refine ⟨by simp, front, body, ?_, balanced, rfl⟩
    exact List.take_left
  · rintro ⟨closes, front, body, split, balanced, rfl⟩
    obtain ⟨inside, closes⟩ := List.getElem?_eq_some_iff.mp closes
    have length := congrArg List.length split
    simp only [List.length_take, List.length_append, List.length_cons] at length
    refine ⟨front, body, characters.drop (closing + 1), ?_, balanced, rfl, by omega⟩
    rw [← closes, List.getElem_cons_drop, ← List.cons_append, ← List.append_assoc, ← split,
      List.take_append_drop]

/-- Seen from its start, a loop ends where nothing is left open behind an opening bracket. -/
theorem isLoop_iff_closesAt {characters : List Char} {opening closing : Nat} :
    IsLoop characters opening closing ↔
      characters[opening]? = some '[' ∧
        ClosesAt (opening + 1) (characters.drop (opening + 1)) 0 closing := by
  constructor
  · rintro ⟨front, body, behind, rfl, balanced, rfl, rfl⟩
    refine ⟨by simp, body, behind, ?_, balanced, rfl⟩
    rw [← List.singleton_append, ← List.append_assoc]
    exact List.drop_left' (by simp)
  · rintro ⟨opens, body, behind, split, balanced, rfl⟩
    obtain ⟨inside, opens⟩ := List.getElem?_eq_some_iff.mp opens
    refine ⟨characters.take opening, body, behind, ?_, balanced, ?_, rfl⟩
    · rw [← split, ← opens, List.getElem_cons_drop, List.take_append_drop]
    · rw [List.length_take]
      omega

theorem IsLoop.opens {characters : List Char} {opening closing : Nat}
    (isLoop : IsLoop characters opening closing) : characters[opening]? = some '[' :=
  (isLoop_iff_closesAt.mp isLoop).1

theorem IsLoop.closes {characters : List Char} {opening closing : Nat}
    (isLoop : IsLoop characters opening closing) : characters[closing]? = some ']' :=
  (isLoop_iff_opensAt.mp isLoop).1

theorem IsLoop.closing_lt {characters : List Char} {opening closing : Nat}
    (isLoop : IsLoop characters opening closing) : closing < characters.length :=
  (List.getElem?_eq_some_iff.mp isLoop.closes).1

theorem IsLoop.opening_lt {characters : List Char} {opening closing : Nat}
    (isLoop : IsLoop characters opening closing) : opening < characters.length :=
  (List.getElem?_eq_some_iff.mp isLoop.opens).1

/-- A character more completes a loop only if it closes the innermost one still open. -/
theorem isLoop_snoc {front : List Char} {character : Char} {opening closing : Nat} :
    IsLoop (front ++ [character]) opening closing ↔
      IsLoop front opening closing ∨
        (character = ']' ∧ closing = front.length ∧ OpensAt front 0 opening) := by
  rcases Nat.lt_trichotomy closing front.length with before | rfl | behind
  · rw [isLoop_iff_opensAt, isLoop_iff_opensAt, List.getElem?_append_left before,
      List.take_append_of_le_length (Nat.le_of_lt before)]
    simp [Nat.ne_of_lt before]
  · have outside : ¬IsLoop front opening front.length := fun isLoop =>
      Nat.lt_irrefl _ isLoop.closing_lt
    rw [isLoop_iff_opensAt]
    simp [outside]
  · have outside : ¬IsLoop front opening closing := fun isLoop => by
      have := isLoop.closing_lt
      omega
    have outsideMore : ¬IsLoop (front ++ [character]) opening closing := fun isLoop => by
      have := isLoop.closing_lt
      simp only [List.length_append, List.length_singleton] at this
      omega
    simp [outside, outsideMore, Nat.ne_of_gt behind]

/-! ## Accepted scripts -/

/-- In an accepted script every opening bracket starts a loop. -/
theorem exists_isLoop_of_opening {script : Script} (accepted : script.check = .ok ())
    {opening : Nat} (opens : script[opening]? = some '[') :
    ∃ closing, IsLoop script.toList opening closing := by
  rw [← Array.getElem?_toList] at opens
  obtain ⟨inside, character⟩ := List.getElem?_eq_some_iff.mp opens
  have counted := (check_eq_ok_iff script).mp accepted
  rw [← List.take_append_drop opening script.toList, depthAfter?_append,
    Option.bind_eq_some_iff] at counted
  obtain ⟨depth, -, counted⟩ := counted
  rw [List.drop_eq_getElem_cons inside, character, depthAfter?_opening,
    show depth + 1 = 0 + depth + 1 by omega] at counted
  obtain ⟨body, behind, split, balanced⟩ := exists_closing_of_depthAfter? counted (Nat.zero_le _)
  exact ⟨opening + 1 + body.length, isLoop_iff_closesAt.mpr ⟨opens, body, behind, split, balanced, rfl⟩⟩

/-- A closing bracket that has something to close ends a loop. -/
theorem exists_isLoop_of_depthAfter? {characters : List Char} {closing depth : Nat}
    (closes : characters[closing]? = some ']')
    (counted : depthAfter? 0 (characters.take (closing + 1)) = some depth) :
    ∃ opening, IsLoop characters opening closing := by
  obtain ⟨inside, character⟩ := List.getElem?_eq_some_iff.mp closes
  rw [List.take_succ_eq_append_getElem inside, character, depthAfter?_snoc,
    Option.bind_eq_some_iff] at counted
  obtain ⟨_ | before, counted, stepped⟩ := counted
  · cases stepped
  · obtain ⟨front, body, split, balanced⟩ :=
      exists_opening_of_depthAfter? counted (Nat.succ_pos before)
    exact ⟨front.length, isLoop_iff_opensAt.mpr ⟨closes, front, body, split, balanced, rfl⟩⟩

/-- If a count comes to the end of some characters, it comes to every position among them. -/
theorem exists_depthAfter?_take {characters : List Char} {depth last : Nat}
    (counted : depthAfter? depth characters = some last) (position : Nat) :
    ∃ inner, depthAfter? depth (characters.take position) = some inner := by
  rw [← List.take_append_drop position characters, depthAfter?_append,
    Option.bind_eq_some_iff] at counted
  obtain ⟨inner, counted, -⟩ := counted
  exact ⟨inner, counted⟩

/-- In an accepted script every closing bracket ends a loop. -/
theorem exists_isLoop_of_closing {script : Script} (accepted : script.check = .ok ())
    {closing : Nat} (closes : script[closing]? = some ']') :
    ∃ opening, IsLoop script.toList opening closing := by
  rw [← Array.getElem?_toList] at closes
  obtain ⟨depth, counted⟩ :=
    exists_depthAfter?_take ((check_eq_ok_iff script).mp accepted) (closing + 1)
  exact exists_isLoop_of_depthAfter? closes counted

end Script

end TapeMachine
