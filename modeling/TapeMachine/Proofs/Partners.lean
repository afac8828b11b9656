import TapeMachine.Program
import TapeMachine.Proofs.Loops

/-! # Two ways to the partner

The walk from a bracket and the table of partners both find the other end of the bracket's loop and
nothing else, on every script, so they agree wherever one of them answers. Hence a program finds a
partner inside its script for every bracket, and its strategy makes no difference.
-/

namespace TapeMachine

namespace Script

/-! ## Walking the script -/

/-- The walk to the right finds the closing bracket that leaves the loops it is in. -/
theorem closingAhead?_eq_some_iff (script : Script) (depth : Nat) {ahead closing : Nat}
    (within : ahead ≤ script.size) :
    script.closingAhead? depth ahead = some closing ↔
      ClosesAt (script.size - ahead) (script.toList.drop (script.size - ahead)) depth closing := by
  induction ahead generalizing depth with
  | zero =>
    have nothing : script.toList.drop script.size = [] :=
      List.drop_eq_nil_of_le (Nat.le_of_eq Array.length_toList)
    simp [closingAhead?, ClosesAt, nothing]
  | succ ahead ih =>
    -- The walk counts the characters ahead of it, so it stands that far from the end.
    have inside : script.size - (ahead + 1) < script.toList.length := by
      simp only [Array.length_toList]
      omega
    have next : script.size - (ahead + 1) + 1 = script.size - ahead := by omega
    rw [List.drop_eq_getElem_cons inside, closesAt_cons, next]
    simp only [closingAhead?, ← Array.getElem?_toList, List.getElem?_eq_getElem inside,
      Option.some.injEq]
    generalize script.toList[script.size - (ahead + 1)] = character
    split_ifs with isOpening isClosing
    · subst isOpening
      simp [ih _ (Nat.le_of_succ_le within)]
    · subst isClosing
      cases depth with
      | zero => simp [eq_comm]
      | succ outer => simp [ih _ (Nat.le_of_succ_le within)]
    · simp [ih _ (Nat.le_of_succ_le within), depthAfter?_plain _ _ isOpening isClosing, isClosing]

/-- The walk to the left finds the opening bracket of the innermost loop but `depth`. -/
theorem openingBehind?_eq_some_iff (script : Script) (depth : Nat) {behind opening : Nat}
    (within : behind ≤ script.size) :
    script.openingBehind? depth behind = some opening ↔
      OpensAt (script.toList.take behind) depth opening := by
  induction behind generalizing depth with
  | zero => simp [openingBehind?, OpensAt]
  | succ behind ih =>
    have inside : behind < script.toList.length := by
      simp only [Array.length_toList]
      omega
    have length : (script.toList.take behind).length = behind := by
      simp only [List.length_take]
      omega
    rw [List.take_succ_eq_append_getElem inside]
    simp only [openingBehind?, ← Array.getElem?_toList, List.getElem?_eq_getElem inside,
      Option.some.injEq]
    generalize script.toList[behind] = character
    split_ifs with isClosing isOpening
    · subst isClosing
      rw [opensAt_snoc_closing, ih _ (Nat.le_of_succ_le within)]
    · subst isOpening
      cases depth with
      | zero =>
        rw [opensAt_snoc_opening_zero, length, Option.some.injEq]
        exact eq_comm
      | succ outer => rw [opensAt_snoc_opening_succ, ih _ (Nat.le_of_succ_le within)]
    · rw [opensAt_snoc_plain isOpening isClosing, ih _ (Nat.le_of_succ_le within)]

/-- The walk from a bracket finds the other end of its loop, and nothing else. -/
theorem partner_eq_ok_iff (script : Script) {position other : Nat} :
    script.partner position = .ok other ↔
      IsLoop script.toList position other ∨ IsLoop script.toList other position := by
  rw [isLoop_iff_closesAt, isLoop_iff_opensAt, Array.getElem?_toList]
  unfold partner
  split_ifs with isOpening isClosing
  · have inside := (Array.getElem?_eq_some_iff.mp isOpening).1
    have start : script.size - (script.size - (position + 1)) = position + 1 := by omega
    have found : _ = some other ↔ _ :=
      script.closingAhead?_eq_some_iff 0 (Nat.sub_le script.size (position + 1))
    rw [start] at found
    simp only [isOpening, true_and, Option.some.injEq, Char.reduceEq, false_and, or_false, ← found]
    cases script.closingAhead? 0 (script.size - (position + 1)) <;> simp
  · have inside := (Array.getElem?_eq_some_iff.mp isClosing).1
    have found : _ = some other ↔ _ :=
      script.openingBehind?_eq_some_iff 0 (Nat.le_of_lt inside)
    simp only [isClosing, true_and, Option.some.injEq, Char.reduceEq, false_and, false_or, ← found]
    cases script.openingBehind? 0 position <;> simp
  · simp [isOpening, isClosing]

end Script

namespace JumpTable

/-- What the pass knows behind `front`: the loops still open, and the pairs already complete. -/
structure Covers (table : JumpTable) (opened : List Nat) (front : List Char) : Prop where
  opened_iff : ∀ {depth opening : Nat},
    opened[depth]? = some opening ↔ Script.OpensAt front depth opening
  partner_iff : ∀ {position other : Nat}, table.partner position = .ok other ↔
    Script.IsLoop front position other ∨ Script.IsLoop front other position

theorem partner_eq_ok_iff_getElem? (table : JumpTable) {position other : Nat} :
    table.partner position = .ok other ↔ table.partners[position]? = some (some other) := by
  unfold partner
  split <;> simp_all

/-- Entering a pair changes the partners of its two ends. -/
theorem partner_link {table : JumpTable} {opening closing position other : Nat}
    (apart : opening < closing) (inside : closing < table.partners.size) :
    (table.link opening closing).partner position = .ok other ↔
      if position = closing then other = opening
      else if position = opening then other = closing
      else table.partner position = .ok other := by
  have opens : opening < table.partners.size := Nat.lt_trans apart inside
  simp only [partner_eq_ok_iff_getElem?, link, Array.getElem?_setIfInBounds, Array.size_setIfInBounds,
    inside, opens, ↓reduceIte, eq_comm (b := position)]
  split_ifs <;> simp only [Option.some.injEq, eq_comm]

theorem size_link (table : JumpTable) (opening closing : Nat) :
    (table.link opening closing).partners.size = table.partners.size := by
  simp [link]

namespace Covers

variable {table : JumpTable} {opened : List Nat} {front : List Char}

theorem opening (covers : Covers table opened front) :
    Covers table (front.length :: opened) (front ++ ['[']) where
  opened_iff {depth opening} := by
    cases depth with
    | zero => simp [eq_comm]
    | succ depth => simp [covers.opened_iff]
  partner_iff := by simp [covers.partner_iff, Script.isLoop_snoc]

/-- A closing bracket with nothing to close leaves no trace in the table. -/
theorem strayClosing (covers : Covers table [] front) : Covers table [] (front ++ [']']) where
  opened_iff := by simp [← covers.opened_iff]
  partner_iff := by simp [covers.partner_iff, Script.isLoop_snoc, ← covers.opened_iff]

theorem closing {innermost : Nat} {outer : List Nat}
    (covers : Covers table (innermost :: outer) front) (inside : front.length < table.partners.size) :
    Covers (table.link innermost front.length) outer (front ++ [']']) where
  opened_iff := by simp [← covers.opened_iff]
  partner_iff {position other} := by
    have isInnermost (opening : Nat) : Script.OpensAt front 0 opening ↔ opening = innermost := by
      rw [← covers.opened_iff]
      simp [eq_comm]
    obtain ⟨outside, body, split, counted, start⟩ := (isInnermost innermost).mpr rfl
    have apart : innermost < front.length := by simp [split, start]
    -- The innermost open loop ends here, so it was the end of no loop before.
    have unpaired (other : Nat) : ¬Script.IsLoop front innermost other := by
      rintro ⟨outside', body', behind, split', balanced, start', rfl⟩
      have same : outside.length = outside'.length := start.symm.trans start'
      obtain ⟨-, same⟩ := List.append_inj (split.symm.trans split') same
      rw [List.cons.injEq] at same
      rw [same.2, Script.depthAfter?_append, balanced] at counted
      simp at counted
    have notEnd (other : Nat) : ¬Script.IsLoop front other innermost := by
      intro isLoop
      have closes := isLoop.closes
      simp [split, start] at closes
    rw [partner_link apart inside, Script.isLoop_snoc, Script.isLoop_snoc, isInnermost, isInnermost,
      covers.partner_iff]
    have short {first last : Nat} (isLoop : Script.IsLoop front first last) :
        first < front.length ∧ last < front.length := ⟨isLoop.opening_lt, isLoop.closing_lt⟩
    grind

theorem plain {character : Char} (covers : Covers table opened front)
    (notOpening : character ≠ '[') (notClosing : character ≠ ']') :
    Covers table opened (front ++ [character]) where
  opened_iff := by simp [covers.opened_iff, Script.opensAt_snoc_plain notOpening notClosing]
  partner_iff := by simp [covers.partner_iff, Script.isLoop_snoc, notClosing]

/-- The pass enters the pairs that the characters complete, whatever stands before them. -/
theorem linkPairs (covers : Covers table opened front) (ahead : List Char)
    (size : table.partners.size = front.length + ahead.length) :
    ∃ left, Covers (JumpTable.linkPairs front.length opened table ahead) left (front ++ ahead) := by
  induction ahead generalizing front opened table with
  | nil => exact ⟨opened, by simpa [JumpTable.linkPairs] using covers⟩
  | cons character ahead ih =>
    have grown : front ++ character :: ahead = (front ++ [character]) ++ ahead := by simp
    have length : front.length + 1 = (front ++ [character]).length := by simp
    have sizeNext : table.partners.size = (front ++ [character]).length + ahead.length := by
      rw [size, ← length, List.length_cons]
      omega
    rw [grown]
    simp only [JumpTable.linkPairs, length]
    split_ifs with isOpening isClosing
    · subst isOpening
      exact ih covers.opening sizeNext
    · subst isClosing
      cases opened with
      | nil => exact ih covers.strayClosing sizeNext
      | cons innermost outer =>
        have inside : front.length < table.partners.size := by
          rw [size, List.length_cons]
          omega
        exact ih (covers.closing inside) ((size_link ..).trans sizeNext)
    · exact ih (covers.plain isOpening isClosing) sizeNext

end Covers

/-- A table without entries knows all there is to know before the first character. -/
theorem covers_nil (size : Nat) : Covers ⟨Array.replicate size none⟩ [] [] where
  opened_iff := by simp [Script.OpensAt]
  partner_iff := by
    intro position other
    simp only [partner_eq_ok_iff_getElem?, Array.getElem?_replicate, Script.IsLoop,
      List.nil_eq_append_iff, reduceCtorEq, and_false, false_and, exists_false, or_self, iff_false]
    split_ifs <;> simp

/-- The table of a script finds the other end of each loop, and nothing else. -/
theorem partner_ofScript_eq_ok_iff (script : Script) {position other : Nat} :
    (ofScript script).partner position = .ok other ↔
      Script.IsLoop script.toList position other ∨ Script.IsLoop script.toList other position := by
  obtain ⟨left, covers⟩ := (covers_nil script.size).linkPairs script.toList (by simp)
  exact covers.partner_iff

end JumpTable

namespace Program

/-- Under either strategy a program finds the other end of each loop, and nothing else. -/
theorem partner_eq_ok_iff (program : Program) {position other : Nat} :
    program.partner position = .ok other ↔
      Script.IsLoop program.script.toList position other ∨
        Script.IsLoop program.script.toList other position := by
  unfold partner
  cases program.strategy with
  | scan => exact program.script.partner_eq_ok_iff
  | table =>
    rw [program.table_eq]
    exact JumpTable.partner_ofScript_eq_ok_iff program.script

/-- Every bracket of a program has a partner in its script. -/
theorem exists_partner (program : Program) {position : Nat} {character : Char}
    (present : program.script[position]? = some character)
    (bracket : character = '[' ∨ character = ']') :
    ∃ target, program.partner position = .ok target ∧ target < program.script.size := by
  rw [← Array.length_toList]
  rcases bracket with rfl | rfl
  · obtain ⟨closing, isLoop⟩ := Script.exists_isLoop_of_opening program.balanced present
    exact ⟨closing, program.partner_eq_ok_iff.mpr (.inl isLoop), isLoop.closing_lt⟩
  · obtain ⟨opening, isLoop⟩ := Script.exists_isLoop_of_closing program.balanced present
    exact ⟨opening, program.partner_eq_ok_iff.mpr (.inr isLoop), isLoop.opening_lt⟩

theorem partner_ne_error (program : Program) {position : Nat} {character : Char}
    (present : program.script[position]? = some character)
    (bracket : character = '[' ∨ character = ']') (fault : LoopFault) :
    program.partner position ≠ .error fault := by
  obtain ⟨target, found, -⟩ := program.exists_partner present bracket
  rw [found]
  simp

/-- At a bracket the strategy makes no difference. -/
theorem partner_withStrategy (program : Program) (strategy : Strategy) {position : Nat}
    {character : Char} (present : program.script[position]? = some character)
    (bracket : character = '[' ∨ character = ']') :
    (program.withStrategy strategy).partner position = program.partner position := by
  obtain ⟨target, found, -⟩ := program.exists_partner present bracket
  rw [found, partner_eq_ok_iff]
  exact program.partner_eq_ok_iff.mp found

end Program

end TapeMachine
