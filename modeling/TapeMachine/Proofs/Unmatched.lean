import TapeMachine.Proofs.Partners

/-! # Brackets without a partner

On a script that is not balanced some brackets are no end of a loop. The walk and the table agree
there too in finding nothing, and they tell it in their own ways: the walk leaves the script, the
table has no entry, as for a character that is no bracket. A script is accepted exactly when it has
no such bracket.
-/

namespace TapeMachine

namespace Script

/-- A bracket stands at the position. -/
def IsBracketAt (script : Script) (position : Nat) : Prop :=
  ∃ bracket : Bracket, script[position]? = some bracket.symbol

/-- The position is an end of a loop. -/
def IsMatchedAt (script : Script) (position : Nat) : Prop :=
  ∃ other, IsLoop script.toList position other ∨ IsLoop script.toList other position

theorem isBracketAt_iff {script : Script} {position : Nat} :
    script.IsBracketAt position ↔
      script[position]? = some '[' ∨ script[position]? = some ']' := by
  constructor
  · rintro ⟨_ | _, present⟩
    · exact .inl present
    · exact .inr present
  · rintro (opens | closes)
    · exact ⟨.opening, opens⟩
    · exact ⟨.closing, closes⟩

/-- Off the brackets a position is past the end, or a character with no part in a loop is there. -/
theorem not_isBracketAt_iff {script : Script} {position : Nat} :
    ¬script.IsBracketAt position ↔
      script.size ≤ position ∨
        ∃ character, script[position]? = some character ∧ ∀ bracket : Bracket,
          character ≠ bracket.symbol := by
  rcases Nat.lt_or_ge position script.size with inside | outside
  · have present := Array.getElem?_eq_getElem inside
    simp [IsBracketAt, present, Nat.not_le.mpr inside]
  · simp [IsBracketAt, outside]

theorem isMatchedAt_iff {script : Script} {position : Nat} :
    script.IsMatchedAt position ↔ ∃ other, script.partner position = .ok other :=
  exists_congr fun _ => script.partner_eq_ok_iff.symm

/-- The walk sets out from a bracket only, and an unsuccessful one leaves the script. -/
theorem fault_of_partner {script : Script} {position : Nat} {fault : LoopFault}
    (failed : script.partner position = .error fault) :
    (fault = .notBound position ∧ ¬script.IsBracketAt position) ∨
      (fault = .ranOffEnd position ∧ script.IsBracketAt position) := by
  rw [isBracketAt_iff]
  unfold partner at failed
  split_ifs at failed with isOpening isClosing
  · refine .inr ⟨?_, .inl isOpening⟩
    split at failed
    · cases failed
    · exact (Except.error.inj failed).symm
  · refine .inr ⟨?_, .inr isClosing⟩
    split at failed
    · cases failed
    · exact (Except.error.inj failed).symm
  · exact .inl ⟨(Except.error.inj failed).symm, by simp [isOpening, isClosing]⟩

theorem IsMatchedAt.isBracketAt {script : Script} {position : Nat}
    (matched : script.IsMatchedAt position) : script.IsBracketAt position := by
  rw [isBracketAt_iff, ← Array.getElem?_toList]
  obtain ⟨other, isLoop | isLoop⟩ := matched
  · exact .inl isLoop.opens
  · exact .inr isLoop.closes

/-- The walk fails off the brackets, and at a bracket that is no end of a loop. -/
theorem partner_eq_error_iff (script : Script) {position : Nat} {fault : LoopFault} :
    script.partner position = .error fault ↔
      (fault = .notBound position ∧ ¬script.IsBracketAt position) ∨
        (fault = .ranOffEnd position ∧ script.IsBracketAt position ∧
          ¬script.IsMatchedAt position) := by
  have unmatched {fault : LoopFault} (failed : script.partner position = .error fault) :
      ¬script.IsMatchedAt position := by
    rw [isMatchedAt_iff, failed]
    simp
  constructor
  · intro failed
    rcases fault_of_partner failed with ⟨rfl, off⟩ | ⟨rfl, bracket⟩
    · exact .inl ⟨rfl, off⟩
    · exact .inr ⟨rfl, bracket, unmatched failed⟩
  · intro reason
    cases found : script.partner position with
    | ok other =>
      have matched : script.IsMatchedAt position := isMatchedAt_iff.mpr ⟨other, found⟩
      rcases reason with ⟨-, off⟩ | ⟨-, -, lone⟩
      · exact absurd matched.isBracketAt off
      · exact absurd matched lone
    | error other =>
      rcases fault_of_partner found with ⟨rfl, off⟩ | ⟨rfl, bracket⟩ <;>
        rcases reason with ⟨rfl, offToo⟩ | ⟨rfl, bracketToo, -⟩
      · rfl
      · exact absurd bracketToo off
      · exact absurd bracket offToo
      · rfl

end Script

namespace JumpTable

/-- A look-up fails where the table has no entry, and always in the same way. -/
theorem partner_eq_error_iff (table : JumpTable) {position : Nat} {fault : LoopFault} :
    table.partner position = .error fault ↔
      fault = .notBound position ∧ ∀ other, table.partner position ≠ .ok other := by
  unfold partner
  split <;> simp [eq_comm]

end JumpTable

namespace Script

/-- The walk and the table find the same partners, on every script and at every position. Where
there is none the table always answers that no bracket is there; the walk says so off the brackets,
and at a bracket that is no end of a loop it says that it ran off the script. -/
theorem partner_agree (script : Script) (position : Nat) :
    (∀ other, script.partner position = .ok other ↔
      (JumpTable.ofScript script).partner position = .ok other) ∧
    (∀ fault, (JumpTable.ofScript script).partner position = .error fault ↔
      fault = .notBound position ∧ ∀ other, script.partner position ≠ .ok other) ∧
    (∀ fault, script.partner position = .error fault ↔
      (fault = .notBound position ∧ (script.size ≤ position ∨
        ∃ character, script[position]? = some character ∧ ∀ bracket : Bracket,
          character ≠ bracket.symbol)) ∨
      (fault = .ranOffEnd position ∧ script.IsBracketAt position ∧
        ¬script.IsMatchedAt position)) := by
  have agree (other : Nat) : script.partner position = .ok other ↔
      (JumpTable.ofScript script).partner position = .ok other :=
    script.partner_eq_ok_iff.trans (JumpTable.partner_ofScript_eq_ok_iff script).symm
  refine ⟨agree, fun fault => ?_, fun fault => ?_⟩
  · simp only [JumpTable.partner_eq_error_iff, ne_eq, agree]
  · rw [partner_eq_error_iff, not_isBracketAt_iff]

/-- At a stray bracket the walk and the table answer differently. The loop behind it is found. -/
example : let script : Script := #[']', '[', ']']
    script.partner 0 = .error (.ranOffEnd 0) ∧
      (JumpTable.ofScript script).partner 0 = .error (.notBound 0) ∧
      script.partner 1 = .ok 2 ∧ (JumpTable.ofScript script).partner 1 = .ok 2 := by
  decide

/-! ## Scripts that have none -/

/-- A closing bracket behind a balanced part ends no loop. -/
theorem not_isMatchedAt_of_stray {script : Script} {front behind : List Char}
    (split : script.toList = front ++ ']' :: behind) (counted : depthAfter? 0 front = some 0) :
    ¬script.IsMatchedAt front.length := by
  rintro ⟨other, isLoop | isLoop⟩
  · have opens := isLoop.opens
    simp [split] at opens
  · have opens := (isLoop_iff_opensAt.mp isLoop).2
    rw [split, List.take_left] at opens
    obtain ⟨outside, inside, rfl, balanced, -⟩ := opens
    -- The loop that the bracket would end is open behind `front`, where no loop is.
    rw [depthAfter?_append, Option.bind_eq_some_iff] at counted
    obtain ⟨depth, -, counted⟩ := counted
    rw [depthAfter?_opening, ← Nat.add_zero (depth + 1), depthAfter?_add balanced] at counted
    cases counted

/-- An opening bracket starts no loop if the depth never falls below zero in the part behind it. -/
theorem not_isMatchedAt_of_leftOpen {script : Script} {front body : List Char} {depth : Nat}
    (split : script.toList = front ++ '[' :: body) (counted : depthAfter? 0 body = some depth) :
    ¬script.IsMatchedAt front.length := by
  rintro ⟨other, isLoop | isLoop⟩
  · have closes := (isLoop_iff_closesAt.mp isLoop).2
    rw [split, ← List.singleton_append, ← List.append_assoc, List.drop_left' (by simp)] at closes
    obtain ⟨inside, outside, rfl, balanced, -⟩ := closes
    rw [depthAfter?_append, balanced] at counted
    cases counted
  · have closes := isLoop.closes
    simp [split] at closes

/-- A script is accepted exactly when every bracket of it is an end of a loop. -/
theorem check_eq_ok_iff_forall_isMatchedAt (script : Script) :
    script.check = .ok () ↔
      ∀ position, script.IsBracketAt position → script.IsMatchedAt position := by
  constructor
  · intro accepted position bracket
    rcases isBracketAt_iff.mp bracket with opens | closes
    · obtain ⟨closing, isLoop⟩ := exists_isLoop_of_opening accepted opens
      exact ⟨closing, .inl isLoop⟩
    · obtain ⟨opening, isLoop⟩ := exists_isLoop_of_closing accepted closes
      exact ⟨opening, .inr isLoop⟩
  · intro matched
    rw [check_eq_ok_iff]
    have bracketAt (bracket : Bracket) {front behind : List Char}
        (split : script.toList = front ++ bracket.symbol :: behind) :
        script.IsBracketAt front.length :=
      ⟨bracket, by rw [← Array.getElem?_toList, split]; simp⟩
    cases counted : depthAfter? 0 script.toList with
    | none =>
      obtain ⟨front, behind, split, balanced⟩ := exists_stray_of_depthAfter? counted
      have stray := not_isMatchedAt_of_stray split balanced
      exact absurd (matched _ (bracketAt .closing split)) stray
    | some depth =>
      cases depth with
      | zero => rfl
      | succ depth =>
        obtain ⟨front, body, split, balanced⟩ :=
          exists_opening_of_depthAfter? counted (Nat.succ_pos depth)
        have leftOpen := not_isMatchedAt_of_leftOpen split balanced
        exact absurd (matched _ (bracketAt .opening split)) leftOpen

end Script

end TapeMachine
