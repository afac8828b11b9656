import Mathlib.Data.List.Nodup
import Mathlib.Order.Bounds.Basic
import Mathlib.Tactic.ByContra
import TapeMachine.Proofs.Unmatched

/-! # The bracket that a refusal names

A refused script has brackets without a partner. If one of them closes, the check names the first
that does: what stands before it can still become an accepted script, and with it that is over. If
all of them open, the check names the last: it is the one that the next closing bracket would
belong to, and as many closing brackets as are missing make the script an accepted one.
-/

namespace TapeMachine

namespace Script

/-- The positions of the brackets of one kind that have no partner, in order. -/
def unmatched (script : Script) (bracket : Bracket) : List Nat :=
  (List.range script.size).filter fun position =>
    script[position]? = some bracket.symbol ∧ (script.partner position).toOption = none

variable {script : Script} {position : Nat}

theorem mem_unmatched {bracket : Bracket} :
    position ∈ script.unmatched bracket ↔
      script[position]? = some bracket.symbol ∧ ¬script.IsMatchedAt position := by
  have lone : (script.partner position).toOption = none ↔ ¬script.IsMatchedAt position := by
    rw [isMatchedAt_iff]
    cases script.partner position <;> simp [Except.toOption]
  simp only [unmatched, List.mem_filter, List.mem_range, decide_eq_true_eq, lone, and_iff_right_iff_imp]
  exact fun named => (Array.getElem?_eq_some_iff.mp named.1).1

/-! ## Loops that are left open -/

/-- A loop is left open if the depth never falls below zero behind its bracket. -/
theorem opensAt_iff_drop {characters : List Char} {depth opening : Nat} :
    OpensAt characters depth opening ↔
      characters[opening]? = some '[' ∧
        depthAfter? 0 (characters.drop (opening + 1)) = some depth := by
  constructor
  · rintro ⟨outside, inside, rfl, counted, rfl⟩
    refine ⟨by simp, ?_⟩
    rw [← List.singleton_append, ← List.append_assoc, List.drop_left' (by simp), counted]
  · rintro ⟨opens, counted⟩
    obtain ⟨inside, opens⟩ := List.getElem?_eq_some_iff.mp opens
    refine ⟨characters.take opening, characters.drop (opening + 1), ?_, counted, ?_⟩
    · rw [← opens, List.getElem_cons_drop, List.take_append_drop]
    · rw [List.length_take]
      omega

/-- A loop that is left open has those inside that start behind it. -/
theorem OpensAt.depth_lt {characters : List Char} {outer inner first second : Nat}
    (opens : OpensAt characters outer first) (opensToo : OpensAt characters inner second)
    (before : first < second) : inner < outer := by
  obtain ⟨outside, inside, rfl, counted, rfl⟩ := opensToo
  obtain ⟨-, countedToo⟩ := opensAt_iff_drop.mp opens
  rw [List.drop_append_of_le_length before, depthAfter?_append, Option.bind_eq_some_iff]
    at countedToo
  obtain ⟨between, -, countedToo⟩ := countedToo
  rw [depthAfter?_opening, ← Nat.add_zero (between + 1), depthAfter?_add counted,
    Option.some.injEq] at countedToo
  omega

/-- The opening brackets without a partner are those of the loops that are left open. -/
theorem mem_unmatched_opening :
    position ∈ script.unmatched .opening ↔ ∃ depth, OpensAt script.toList depth position := by
  rw [mem_unmatched, ← Array.getElem?_toList]
  constructor
  · rintro ⟨opens, lone⟩
    cases counted : depthAfter? 0 (script.toList.drop (position + 1)) with
    | some depth => exact ⟨depth, opensAt_iff_drop.mpr ⟨opens, counted⟩⟩
    | none =>
      obtain ⟨inside, outside, split, balanced⟩ := exists_stray_of_depthAfter? counted
      refine absurd ?_ lone
      exact ⟨_, .inl (isLoop_iff_closesAt.mpr ⟨opens, inside, outside, split, balanced, rfl⟩)⟩
  · rintro ⟨depth, opens⟩
    refine ⟨(opensAt_iff_drop.mp opens).1, ?_⟩
    obtain ⟨outside, inside, split, counted, rfl⟩ := opens
    exact not_isMatchedAt_of_leftOpen split counted

/-! ## What the check has seen -/

/-- The check gives up only at a closing bracket behind a balanced part. -/
theorem exists_stray_of_openLoops {characters : List Char} {unmatched : UnmatchedBracket}
    (failed : openLoops 0 [] characters = .error unmatched) :
    ∃ front behind, characters = front ++ ']' :: behind ∧ depthAfter? 0 front = some 0 ∧
      unmatched = ⟨front.length, .closing⟩ := by
  have counted : depthAfter? 0 characters = none := by
    rw [show 0 = ([] : List Nat).length from rfl, depthAfter?_length 0, failed]
    rfl
  obtain ⟨front, behind, rfl, balanced⟩ := exists_stray_of_depthAfter? counted
  refine ⟨front, behind, rfl, balanced, ?_⟩
  have closed : openLoops 0 [] front = .ok [] := by
    have length := depthAfter?_length 0 [] front
    rw [List.length_nil, balanced] at length
    cases opened : openLoops 0 [] front with
    | error other => simp [opened, Except.toOption] at length
    | ok left => simpa [opened, Except.toOption, eq_comm] using length
  rw [openLoops_append, closed] at failed
  have found : Except.error _ = Except.error unmatched := failed
  rw [← Except.error.inj found, Nat.zero_add]

/-- The check keeps the loops that are left open, innermost first. -/
theorem getElem?_openLoops {characters : List Char} {opened : List Nat}
    (counted : openLoops 0 [] characters = .ok opened) {depth opening : Nat} :
    opened[depth]? = some opening ↔ OpensAt characters depth opening := by
  induction characters using List.reverseRecOn generalizing opened depth opening with
  | nil =>
    cases counted
    simp [OpensAt]
  | append_singleton front character ih =>
    rw [openLoops_append, Nat.zero_add] at counted
    cases before : openLoops 0 [] front with
    | error unmatched =>
      rw [before] at counted
      cases counted
    | ok inner =>
      rw [before] at counted
      change openLoops front.length inner [character] = .ok opened at counted
      unfold openLoops at counted
      split_ifs at counted with isOpening isClosing
      · subst isOpening
        cases counted
        cases depth with
        | zero => simp [eq_comm]
        | succ depth => simp [ih before]
      · subst isClosing
        cases inner with
        | nil => cases counted
        | cons innermost outer =>
          cases counted
          simp [← ih before]
      · cases counted
        rw [opensAt_snoc_plain isOpening isClosing, ih before]

/-- The check counts every opening bracket without a partner once. -/
theorem length_openLoops {opened : List Nat}
    (counted : openLoops 0 [] script.toList = .ok opened) :
    (script.unmatched .opening).length = opened.length := by
  have nodup : opened.Nodup := by
    rw [List.nodup_iff_getElem?_ne_getElem?]
    intro first second before inside same
    have opens := (getElem?_openLoops counted).mp (List.getElem?_eq_getElem inside)
    have opensToo := (getElem?_openLoops counted).mp (same.trans (List.getElem?_eq_getElem inside))
    have depth := (opensAt_iff_drop.mp opens).2
    rw [(opensAt_iff_drop.mp opensToo).2, Option.some.injEq] at depth
    omega
  have nodupToo : (script.unmatched .opening).Nodup := List.nodup_range.filter _
  refine ((List.perm_ext_iff_of_nodup nodupToo nodup).mpr fun opening => ?_).length_eq
  rw [mem_unmatched_opening, List.mem_iff_getElem?]
  exact exists_congr fun depth => (getElem?_openLoops counted).symm

/-! ## The two refusals -/

/-- A refusal for a closing bracket names the first one without a partner. -/
theorem stray_of_check (refused : script.check = .error ⟨position, .closing⟩) :
    ∃ front behind, script.toList = front ++ ']' :: behind ∧ depthAfter? 0 front = some 0 ∧
      position = front.length := by
  unfold check at refused
  cases opened : openLoops 0 [] script.toList with
  | error unmatched =>
    rw [opened] at refused
    obtain rfl := Except.error.inj refused
    obtain ⟨front, behind, split, counted, same⟩ := exists_stray_of_openLoops opened
    exact ⟨front, behind, split, counted, congrArg UnmatchedBracket.position same⟩
  | ok left => cases left <;> simp [opened] at refused

/-- A refusal for an opening bracket names the innermost one that is left open. -/
theorem leftOpen_of_check (refused : script.check = .error ⟨position, .opening⟩) :
    ∃ outer, openLoops 0 [] script.toList = .ok (position :: outer) := by
  unfold check at refused
  cases opened : openLoops 0 [] script.toList with
  | error unmatched =>
    rw [opened] at refused
    obtain rfl := Except.error.inj refused
    obtain ⟨_, _, _, _, same⟩ := exists_stray_of_openLoops opened
    cases congrArg UnmatchedBracket.bracket same
  | ok left =>
    rw [opened] at refused
    cases left with
    | nil => cases refused
    | cons innermost outer =>
      obtain rfl : innermost = position :=
        congrArg UnmatchedBracket.position (Except.error.inj refused)
      exact ⟨outer, rfl⟩

/-- A closing bracket that the count can pass has a partner. -/
theorem isMatchedAt_of_depthAfter? {depth : Nat} (closes : script[position]? = some ']')
    (counted : depthAfter? 0 (script.toList.take (position + 1)) = some depth) :
    script.IsMatchedAt position := by
  rw [← Array.getElem?_toList] at closes
  obtain ⟨opening, isLoop⟩ := exists_isLoop_of_depthAfter? closes counted
  exact ⟨opening, .inr isLoop⟩

theorem isLeast_of_check (refused : script.check = .error ⟨position, .closing⟩) :
    IsLeast {stray | stray ∈ script.unmatched .closing} position := by
  obtain ⟨front, behind, split, counted, rfl⟩ := stray_of_check refused
  constructor
  · refine mem_unmatched.mpr ⟨?_, not_isMatchedAt_of_stray split counted⟩
    rw [← Array.getElem?_toList, split]
    simp [Bracket.symbol]
  · intro other stray
    obtain ⟨closes, lone⟩ := mem_unmatched.mp stray
    by_contra before
    obtain ⟨depth, counted⟩ := exists_depthAfter?_take counted (other + 1)
    rw [← List.take_append_of_le_length (Nat.not_le.mp before), ← split] at counted
    exact lone (isMatchedAt_of_depthAfter? closes counted)

/-- If the check comes to the end of a script, the depth there is the number of loops that it keeps. -/
theorem depthAfter?_of_openLoops {opened : List Nat}
    (counted : openLoops 0 [] script.toList = .ok opened) :
    depthAfter? 0 script.toList = some opened.length := by
  rw [show 0 = ([] : List Nat).length from rfl, depthAfter?_length 0, counted]
  rfl

theorem isGreatest_of_check (refused : script.check = .error ⟨position, .opening⟩) :
    script.unmatched .closing = [] ∧
      IsGreatest {opening | opening ∈ script.unmatched .opening} position := by
  obtain ⟨outer, opened⟩ := leftOpen_of_check refused
  refine ⟨List.eq_nil_iff_forall_not_mem.mpr fun stray member => ?_, ?_, fun other member => ?_⟩
  · obtain ⟨closes, lone⟩ := mem_unmatched.mp member
    obtain ⟨depth, counted⟩ :=
      exists_depthAfter?_take (depthAfter?_of_openLoops opened) (stray + 1)
    exact lone (isMatchedAt_of_depthAfter? closes counted)
  · exact mem_unmatched_opening.mpr ⟨0, (getElem?_openLoops opened).mp rfl⟩
  · obtain ⟨depth, opensToo⟩ := mem_unmatched_opening.mp member
    have innermost : OpensAt script.toList 0 position := (getElem?_openLoops opened).mp rfl
    by_contra behind
    exact Nat.not_lt_zero depth (innermost.depth_lt opensToo (Nat.not_le.mp behind))

/-- A refusal names a bracket without a partner. -/
theorem mem_unmatched_of_check {bracket : Bracket}
    (refused : script.check = .error ⟨position, bracket⟩) : position ∈ script.unmatched bracket := by
  cases bracket with
  | opening => exact (isGreatest_of_check refused).2.1
  | closing => exact (isLeast_of_check refused).1

theorem check_eq_closing_iff :
    script.check = .error ⟨position, .closing⟩ ↔
      IsLeast {stray | stray ∈ script.unmatched .closing} position := by
  refine ⟨isLeast_of_check, fun least => ?_⟩
  have lone := mem_unmatched.mp least.1
  cases checked : script.check with
  | ok =>
    have matched := script.check_eq_ok_iff_forall_isMatchedAt.mp checked position
    exact absurd (matched ⟨.closing, lone.1⟩) lone.2
  | error unmatched =>
    obtain ⟨other, _ | _⟩ := unmatched
    · have stray : position ∈ script.unmatched .closing := least.1
      rw [(isGreatest_of_check checked).1] at stray
      cases stray
    · rw [(isLeast_of_check checked).unique least]

theorem check_eq_opening_iff :
    script.check = .error ⟨position, .opening⟩ ↔
      script.unmatched .closing = [] ∧
        IsGreatest {opening | opening ∈ script.unmatched .opening} position := by
  refine ⟨isGreatest_of_check, fun ⟨noStray, greatest⟩ => ?_⟩
  have lone := mem_unmatched.mp greatest.1
  cases checked : script.check with
  | ok =>
    have matched := script.check_eq_ok_iff_forall_isMatchedAt.mp checked position
    exact absurd (matched ⟨.opening, lone.1⟩) lone.2
  | error unmatched =>
    obtain ⟨other, _ | _⟩ := unmatched
    · rw [(isGreatest_of_check checked).2.unique greatest]
    · have stray := mem_unmatched_of_check checked
      rw [noStray] at stray
      cases stray

/-! ## What is left to be accepted -/

/-- Up to the bracket that the check names, and no further, a script with a stray closing bracket is
the beginning of an accepted one. -/
theorem completable_of_check (refused : script.check = .error ⟨position, .closing⟩) :
    (∃ whole : Script, whole.check = .ok () ∧ script.toList.take position <+: whole.toList) ∧
      ∀ whole : Script, whole.check = .ok () →
        ¬script.toList.take (position + 1) <+: whole.toList := by
  obtain ⟨front, behind, split, counted, rfl⟩ := stray_of_check refused
  constructor
  · have before : script.toList.take front.length = front := by rw [split, List.take_left]
    exact ⟨front.toArray, (check_eq_ok_iff _).mpr counted, ⟨[], by simp [before]⟩⟩
  · rintro whole accepted ⟨rest, same⟩
    have stray : script.toList.take (front.length + 1) = front ++ [']'] := by
      rw [split, List.take_length_add_append]
      rfl
    rw [check_eq_ok_iff, ← same, stray, List.append_assoc, depthAfter?_append, counted] at accepted
    cases accepted

theorem depthAfter?_replicate_closing (depth : Nat) :
    depthAfter? depth (List.replicate depth ']') = some 0 := by
  induction depth with
  | zero => rfl
  | succ depth ih => rw [List.replicate_succ, depthAfter?_succ_closing, ih]

/-- The script with a closing bracket more for every opening one that has no partner. -/
def completed (script : Script) : Script :=
  script ++ Array.replicate (script.unmatched .opening).length ']'

/-- Closing all that is left open makes an accepted script, in which the bracket that the check names
belongs to the first bracket behind the old end. -/
theorem completed_of_check (refused : script.check = .error ⟨position, .opening⟩) :
    script.completed.check = .ok () ∧ script.completed.partner position = .ok script.size := by
  obtain ⟨outer, opened⟩ := leftOpen_of_check refused
  have added : script.completed.toList =
      script.toList ++ ']' :: List.replicate outer.length ']' := by
    simp [completed, length_openLoops opened, List.replicate_succ]
  constructor
  · rw [check_eq_ok_iff, added, depthAfter?_append, depthAfter?_of_openLoops opened,
      Option.bind_some]
    exact depthAfter?_replicate_closing (outer.length + 1)
  · have innermost : OpensAt script.toList 0 position := (getElem?_openLoops opened).mp rfl
    obtain ⟨outside, inside, split, balanced, rfl⟩ := innermost
    have size := congrArg List.length split
    simp only [Array.length_toList, List.length_append, List.length_cons] at size
    refine script.completed.partner_eq_ok_iff.mpr (.inl ⟨outside, inside,
      List.replicate outer.length ']', ?_, balanced, rfl, by omega⟩)
    rw [added, split, List.append_assoc, List.cons_append]

end Script

namespace JumpTable

theorem size_linkPairs (position : Nat) (opened : List Nat) (table : JumpTable)
    (characters : List Char) :
    (linkPairs position opened table characters).partners.size = table.partners.size := by
  induction characters generalizing position opened table with
  | nil => rfl
  | cons character rest ih =>
    unfold linkPairs
    split_ifs
    · exact ih ..
    · cases opened with
      | nil => exact ih ..
      | cons opening outer => exact (ih ..).trans (size_link ..)
    · exact ih ..

/-- A bracket without a partner has no entry in the table. -/
theorem getElem?_ofScript_of_unmatched {script : Script} {position : Nat} {bracket : Bracket}
    (unmatched : position ∈ script.unmatched bracket) :
    (ofScript script).partners[position]? = some none := by
  obtain ⟨present, lone⟩ := Script.mem_unmatched.mp unmatched
  have inside : position < (ofScript script).partners.size := by
    rw [ofScript, size_linkPairs, Array.size_replicate]
    exact (Array.getElem?_eq_some_iff.mp present).1
  rw [Array.getElem?_eq_getElem inside]
  cases entry : (ofScript script).partners[position] with
  | none => rfl
  | some other =>
    have found : (ofScript script).partner position = .ok other := by
      rw [partner_eq_ok_iff_getElem?, Array.getElem?_eq_getElem inside, entry]
    exact absurd ⟨other, (partner_ofScript_eq_ok_iff script).mp found⟩ lone

end JumpTable

namespace Script

/-- The check refuses a script for the first closing bracket without a partner, and if there is none
for the last opening one. Up to the former, and no further, the script is the beginning of an accepted
one. When all that is left open is closed behind the script, the latter belongs to the first bracket
added. From the bracket that is named the walk runs off the script, and the table has no entry. -/
theorem check_names_culprit (script : Script) :
    (∀ position, script.check = .error ⟨position, .closing⟩ ↔
      IsLeast {stray | stray ∈ script.unmatched .closing} position) ∧
    (∀ position, script.check = .error ⟨position, .closing⟩ →
      (∃ whole : Script, whole.check = .ok () ∧ script.toList.take position <+: whole.toList) ∧
        ∀ whole : Script, whole.check = .ok () →
          ¬script.toList.take (position + 1) <+: whole.toList) ∧
    (∀ position, script.check = .error ⟨position, .opening⟩ ↔
      script.unmatched .closing = [] ∧
        IsGreatest {opening | opening ∈ script.unmatched .opening} position) ∧
    (∀ position, script.check = .error ⟨position, .opening⟩ →
      script.completed.check = .ok () ∧ script.completed.partner position = .ok script.size) ∧
    ∀ position bracket, script.check = .error ⟨position, bracket⟩ →
      script.partner position = .error (.ranOffEnd position) ∧
        (JumpTable.ofScript script).partners[position]? = some none := by
  refine ⟨fun _ => check_eq_closing_iff, fun _ => completable_of_check,
    fun _ => check_eq_opening_iff, fun _ => completed_of_check, fun position bracket refused => ?_⟩
  have named := mem_unmatched_of_check refused
  obtain ⟨present, lone⟩ := mem_unmatched.mp named
  exact ⟨script.partner_eq_error_iff.mpr (.inr ⟨rfl, ⟨bracket, present⟩, lone⟩),
    JumpTable.getElem?_ofScript_of_unmatched named⟩

/-- A bracket too many among matched ones is named where it stands. Of two loops left open around a
matched one the inner is named, and the first of the two brackets that are missing ends it. -/
theorem check_names_culprit_deep :
    let stray : Script := #['[', ']', ']', '[', ']', ']']
    let left : Script := #['[', '+', '[', '[', ']', '.']
    stray.check = .error ⟨2, .closing⟩ ∧ left.check = .error ⟨2, .opening⟩ ∧
      IsLeast {position | position ∈ stray.unmatched .closing} 2 ∧
      (∃ whole : Script, whole.check = .ok () ∧ ['[', ']'] <+: whole.toList) ∧
      (∀ whole : Script, whole.check = .ok () → ¬['[', ']', ']'] <+: whole.toList) ∧
      IsGreatest {position | position ∈ left.unmatched .opening} 2 ∧
      left.completed.check = .ok () ∧ left.completed.partner 2 = .ok 6 ∧
      stray.partner 2 = .error (.ranOffEnd 2) ∧
      (JumpTable.ofScript left).partners[2]? = some none := by
  intro stray left
  have refused : stray.check = .error ⟨2, .closing⟩ := rfl
  have refusedToo : left.check = .error ⟨2, .opening⟩ := rfl
  obtain ⟨least, completable, -, -, lone⟩ := check_names_culprit stray
  obtain ⟨-, -, greatest, completed, loneToo⟩ := check_names_culprit left
  obtain ⟨beginning, ended⟩ := completable 2 refused
  obtain ⟨accepted, partner⟩ := completed 2 refusedToo
  exact ⟨refused, refusedToo, (least 2).mp refused, beginning, ended, ((greatest 2).mp refusedToo).2,
    accepted, partner, (lone 2 _ refused).1, (loneToo 2 _ refusedToo).2⟩

end Script

end TapeMachine
