import Mathlib.Data.List.Induction
import TapeMachine.Settings.ConfigFile

/-! # The assignment that counts

An assignment counts if the last header in front of it is that of the section `run`, and of all that
count for a key the last one decides. This is said here by the positions of the lines; reading the
lines in order comes to the same.
-/

namespace TapeMachine

namespace ConfigLine

def title? : ConfigLine → Option (List Char)
  | header title => some title
  | _ => none

end ConfigLine

namespace FileConfig

/-- The last header among the lines is that of the section that counts. -/
def InSection (front : List ConfigLine) : Prop :=
  (front.filterMap ConfigLine.title?).getLast? = some sectionName

instance (front : List ConfigLine) : Decidable (InSection front) :=
  inferInstanceAs (Decidable (_ = _))

/-- A line assigns a value to a key, and counts. -/
structure AssignsAt (lines : List ConfigLine) (index : Nat) (key : String) (value : List Char) :
    Prop where
  inSection : InSection (lines.take index)
  line : lines[index]? = some (.assignment key.toList value)

/-- The last assignment to a key that counts. -/
def AssignsLast (lines : List ConfigLine) (key : String) (value : List Char) : Prop :=
  ∃ index, AssignsAt lines index key value ∧
    ∀ later other, index < later → ¬AssignsAt lines later key other

/-- No assignment to a key counts. -/
def AssignsNothing (lines : List ConfigLine) (key : String) : Prop :=
  ∀ index value, ¬AssignsAt lines index key value

/-! ## Lines in order -/

/-- Whether an assignment behind the lines counts, if `counts` says it of one in front of them. -/
def countsBehind (counts : Bool) (front : List ConfigLine) : Bool :=
  match (front.filterMap ConfigLine.title?).getLast? with
  | none => counts
  | some title => title = sectionName

theorem countsBehind_false (front : List ConfigLine) :
    countsBehind false front = decide (InSection front) := by
  unfold countsBehind
  split
  · rename_i headless
    simp [InSection, headless]
  · rename_i title last
    simp [InSection, last]

theorem assignments_append (counts : Bool) (front behind : List ConfigLine) :
    assignments counts (front ++ behind) =
      assignments counts front ++ assignments (countsBehind counts front) behind := by
  induction front generalizing counts with
  | nil => rfl
  | cons line front ih =>
    cases line with
    | noise => exact ih counts
    | header title =>
      have behindHeader : countsBehind counts (.header title :: front) =
          countsBehind (title = sectionName) front := by
        simp only [countsBehind, List.filterMap_cons, ConfigLine.title?, List.getLast?_cons]
        cases (front.filterMap ConfigLine.title?).getLast? <;> rfl
      rw [behindHeader]
      exact ih _
    | assignment key value =>
      have unmoved : countsBehind counts (.assignment key value :: front) =
          countsBehind counts front := rfl
      rw [unmoved]
      cases counts with
      | false => exact ih false
      | true => exact congrArg ((key, value) :: ·) (ih true)

/-- Behind lines that end in the section that counts, assignments count. -/
theorem assignments_append_of_inSection {front : List ConfigLine} (inSection : InSection front)
    (behind : List ConfigLine) :
    assignments false (front ++ behind) = assignments false front ++ assignments true behind := by
  rw [assignments_append, countsBehind_false, decide_eq_true inSection]

theorem assignments_cons_congr (line : ConfigLine) {rest others : List ConfigLine}
    (same : ∀ counts, assignments counts rest = assignments counts others) (counts : Bool) :
    assignments counts (line :: rest) = assignments counts (line :: others) := by
  cases line <;> simp only [assignments, same]

theorem lastValue?_append (front behind : List (List Char × List Char)) (key : String) :
    lastValue? (front ++ behind) key = (lastValue? behind key).or (lastValue? front key) := by
  simp only [lastValue?, List.findRev?_eq_find?_reverse, List.reverse_append, List.find?_append,
    Option.map_or]

theorem lastValue?_cons (assigned value : List Char) (rest : List (List Char × List Char))
    (key : String) :
    lastValue? ((assigned, value) :: rest) key =
      (lastValue? rest key).or (if assigned = key.toList then some value else none) := by
  rw [← List.singleton_append, lastValue?_append]
  by_cases same : assigned = key.toList <;> simp [lastValue?, same]

theorem AssignsAt.lt {lines : List ConfigLine} {index : Nat} {key : String} {value : List Char}
    (assigns : AssignsAt lines index key value) : index < lines.length :=
  (List.getElem?_eq_some_iff.mp assigns.line).1

/-- With one line more, an assignment counts where it did, or in that line. -/
theorem assignsAt_concat {lines : List ConfigLine} {line : ConfigLine} {index : Nat} {key : String}
    {value : List Char} :
    AssignsAt (lines ++ [line]) index key value ↔
      AssignsAt lines index key value ∨
        index = lines.length ∧ InSection lines ∧ line = .assignment key.toList value := by
  constructor
  · intro assigns
    rcases Nat.lt_succ_iff_lt_or_eq.mp (List.length_append ▸ assigns.lt) with inside | rfl
    · left
      have ⟨inSection, found⟩ := assigns
      rw [List.take_append_of_le_length (Nat.le_of_lt inside)] at inSection
      rw [List.getElem?_append_left inside] at found
      exact ⟨inSection, found⟩
    · right
      have ⟨inSection, found⟩ := assigns
      rw [List.take_left] at inSection
      rw [List.getElem?_concat_length] at found
      exact ⟨rfl, inSection, Option.some.inj found⟩
  · rintro (assigns | ⟨rfl, inSection, rfl⟩)
    · have inside := assigns.lt
      constructor
      · rw [List.take_append_of_le_length (Nat.le_of_lt inside)]
        exact assigns.inSection
      · rw [List.getElem?_append_left inside]
        exact assigns.line
    · constructor
      · rwa [List.take_left]
      · exact List.getElem?_concat_length

/-- What one line more assigns to a key, if that counts. -/
theorem lastValue?_concat (front : List ConfigLine) (line : ConfigLine) (key : String) :
    lastValue? (assignments false (front ++ [line])) key =
      (lastValue? (assignments (decide (InSection front)) [line]) key).or
        (lastValue? (assignments false front) key) := by
  rw [assignments_append, countsBehind_false, lastValue?_append]

theorem lastValue?_singleton {counts : Bool} {line : ConfigLine} {key : String}
    {value : List Char} :
    lastValue? (assignments counts [line]) key = some value ↔
      counts = true ∧ line = .assignment key.toList value := by
  cases line with
  | noise => simp [assignments, lastValue?]
  | header title => simp [assignments, lastValue?]
  | assignment assigned other => cases counts <;> simp [assignments, lastValue?]

/-! ## The last assignment -/

/-- Reading the lines in order finds the last assignment that counts, if there is one. -/
theorem lastValue?_assignments (lines : List ConfigLine) (key : String) :
    match lastValue? (assignments false lines) key with
    | some value => AssignsLast lines key value
    | none => AssignsNothing lines key := by
  induction lines using List.reverseRecOn with
  | nil => exact fun index value assigns => Nat.not_lt_zero _ assigns.lt
  | append_singleton lines line ih =>
    rw [lastValue?_concat]
    cases added : lastValue? (assignments (decide (InSection lines)) [line]) key with
    | some value =>
      obtain ⟨counts, rfl⟩ := lastValue?_singleton.mp added
      refine ⟨lines.length, assignsAt_concat.mpr (.inr ⟨rfl, of_decide_eq_true counts, rfl⟩), ?_⟩
      intro later other behind assigns
      have inside := assigns.lt
      rw [List.length_append, List.length_singleton] at inside
      omega
    | none =>
      have unmoved (index : Nat) (value : List Char) :
          AssignsAt (lines ++ [line]) index key value ↔ AssignsAt lines index key value := by
        rw [assignsAt_concat, or_iff_left]
        rintro ⟨-, inSection, rfl⟩
        cases added.symm.trans (lastValue?_singleton.mpr ⟨decide_eq_true inSection, rfl⟩)
      simp only [Option.none_or, AssignsLast, AssignsNothing, unmoved]
      exact ih

variable {lines : List ConfigLine} {key : String} {value other : List Char}

theorem AssignsLast.unique (last : AssignsLast lines key value)
    (lastToo : AssignsLast lines key other) : value = other := by
  obtain ⟨index, assigns, noLater⟩ := last
  obtain ⟨indexToo, assignsToo, noLaterToo⟩ := lastToo
  rcases Nat.lt_trichotomy index indexToo with before | rfl | behind
  · exact absurd assignsToo (noLater indexToo other before)
  · cases Option.some.inj (assigns.line.symm.trans assignsToo.line)
    rfl
  · exact absurd assigns (noLaterToo index value behind)

theorem lastValue?_eq_some_iff :
    lastValue? (assignments false lines) key = some value ↔ AssignsLast lines key value := by
  have found := lastValue?_assignments lines key
  cases decided : lastValue? (assignments false lines) key with
  | none =>
    rw [decided] at found
    simp only [reduceCtorEq, false_iff]
    rintro ⟨index, assigns, -⟩
    exact found index value assigns
  | some last =>
    rw [decided] at found
    rw [Option.some.injEq]
    exact ⟨fun same => same ▸ found, found.unique⟩

theorem lastValue?_eq_none_iff :
    lastValue? (assignments false lines) key = none ↔ AssignsNothing lines key := by
  constructor
  · intro decided
    have found := lastValue?_assignments lines key
    rwa [decided] at found
  · intro nothing
    apply Option.eq_none_iff_forall_ne_some.mpr
    intro value decided
    obtain ⟨index, assigns, -⟩ := lastValue?_eq_some_iff.mp decided
    exact nothing index value assigns

end FileConfig

end TapeMachine
