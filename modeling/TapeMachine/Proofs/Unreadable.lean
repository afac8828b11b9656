import TapeMachine.Proofs.Layers
import TapeMachine.Proofs.WrittenConfig

/-! # Values of the config file that cannot be read

Of all assignments to a key only the last one is read. If its value cannot be read the setting has
no value in the config file: an earlier one that could be read does not come back. Nor is there a
warning, as there is for a variable, since a config does not hold what could not be read.
-/

namespace TapeMachine

/-! ## One line more -/

namespace Setting

variable {setting other : Setting} {value : List Char}
  (front behind : List (List Char × List Char))

theorem inFile?_append :
    setting.inFile? (.ofAssignments (front ++ behind)) =
      ((FileConfig.lastValue? behind setting.key).or
        (FileConfig.lastValue? front setting.key)).bind setting.parse := by
  rw [inFile?_ofAssignments, FileConfig.lastValue?_append]

/-- An assignment hides those in front of it from its own setting. -/
theorem inFile?_append_cons :
    setting.inFile? (.ofAssignments (front ++ (setting.key.toList, value) :: behind)) =
      ((FileConfig.lastValue? behind setting.key).or (some value)).bind setting.parse := by
  rw [inFile?_append, FileConfig.lastValue?_cons, if_pos rfl, Option.or_assoc, Option.some_or]

/-- An assignment hides nothing from another setting. -/
theorem inFile?_append_cons_of_ne (isOther : other ≠ setting) :
    other.inFile? (.ofAssignments (front ++ (setting.key.toList, value) :: behind)) =
      other.inFile? (.ofAssignments (front ++ behind)) := by
  have differ : setting.key.toList ≠ other.key.toList := fun same =>
    isOther (key_injective (String.toList_inj.mp same)).symm
  rw [inFile?_append, inFile?_append, FileConfig.lastValue?_cons, if_neg differ, Option.or_none]

/-- An assignment that cannot be read makes no difference if another follows, or if it hides nothing
that can be read. -/
theorem ofAssignments_append_cons_eq_iff (unreadable : setting.parse value = none) :
    FileConfig.ofAssignments (front ++ (setting.key.toList, value) :: behind) =
        .ofAssignments (front ++ behind) ↔
      FileConfig.lastValue? behind setting.key ≠ none ∨
        (FileConfig.lastValue? front setting.key).bind setting.parse = none := by
  rw [eq_iff_inFile?_eq fun other isOther => inFile?_append_cons_of_ne front behind isOther,
    inFile?_append_cons, inFile?_append]
  cases FileConfig.lastValue? behind setting.key with
  | none =>
    rw [Option.none_or, Option.none_or, Option.bind_some, unreadable, eq_comm]
    simp
  | some last => simp

end Setting

namespace FileConfig

/-- The lines go on with the section `run`, and in one of them an assignment to the key counts. -/
def AssignsBehind (behind : List ConfigLine) (key : String) : Prop :=
  ∃ index value, AssignsAt (.header sectionName :: behind) index key value

theorem lastValue?_behind_eq_none_iff {behind : List ConfigLine} {key : String} :
    lastValue? (assignments true behind) key = none ↔ ¬AssignsBehind behind key := by
  have continued : assignments true behind =
      assignments false (.header sectionName :: behind) := by
    simp only [assignments, decide_true]
  rw [continued, lastValue?_eq_none_iff, AssignsNothing]
  simp only [AssignsBehind, not_exists]

/-- A line of the section `run` that assigns a value which cannot be read changes no other setting.
For its own it does not matter if an assignment that counts follows. If none does, the setting has
no value with that line, and without it that of the last assignment in front. So the line can be
left out if and only if it hides no value that can be read. -/
theorem unreadable_hides_earlier {text without line : List Char} {front behind : List (List Char)}
    {before after : List ConfigLine} {setting : Setting} {value : List Char}
    (hasLines : Text.HasLines text (front ++ line :: behind))
    (hasOthers : Text.HasLines without (front ++ behind))
    (readsFront : List.Forall₂ ConfigLine.Reads front before)
    (assigns : ConfigLine.Reads line (.assignment setting.key.toList value))
    (readsBehind : List.Forall₂ ConfigLine.Reads behind after)
    (inSection : InSection before) (unreadable : setting.parse value = none) :
    (∀ other, other ≠ setting → other.inFile? (ofText text) = other.inFile? (ofText without)) ∧
    (¬AssignsBehind after setting.key → setting.inFile? (ofText text) = none ∧
      (∀ earlier, AssignsLast before setting.key earlier →
        setting.inFile? (ofText without) = setting.parse earlier) ∧
      (AssignsNothing before setting.key → setting.inFile? (ofText without) = none)) ∧
    (ofText text = ofText without ↔ AssignsBehind after setting.key ∨
      ∀ earlier, AssignsLast before setting.key earlier → setting.parse earlier = none) := by
  have withLine := ofText_eq hasLines (List.rel_append readsFront (.cons assigns readsBehind))
  have withoutLine := ofText_eq hasOthers (List.rel_append readsFront readsBehind)
  rw [assignments_append_of_inSection inSection, assignments, if_pos rfl] at withLine
  rw [assignments_append_of_inSection inSection] at withoutLine
  rw [withLine, withoutLine]
  refine ⟨fun other isOther => Setting.inFile?_append_cons_of_ne _ _ isOther, fun noLater => ?_, ?_⟩
  · rw [Setting.inFile?_append_cons, Setting.inFile?_append,
      lastValue?_behind_eq_none_iff.mpr noLater, Option.none_or, Option.none_or, Option.bind_some]
    refine ⟨unreadable, fun earlier last => ?_, fun nothing => ?_⟩
    · rw [lastValue?_eq_some_iff.mpr last, Option.bind_some]
    · rw [lastValue?_eq_none_iff.mpr nothing, Option.bind_none]
  · rw [Setting.ofAssignments_append_cons_eq_iff _ _ unreadable, ne_eq,
      lastValue?_behind_eq_none_iff, not_not, Option.bind_eq_none_iff]
    simp only [lastValue?_eq_some_iff]

/-- With both lines in a file no limit is left, and without the second one there is that of five
steps. -/
theorem unreadable_hides_earlier_limit :
    let front := ["[run]", "max_steps=5"].map String.toList
    let before : List ConfigLine := [.header "run".toList, .assignment "max_steps".toList ['5']]
    Text.HasLines "[run]\nmax_steps=5\nmax_steps=x".toList (front ++ "max_steps=x".toList :: []) ∧
      Text.HasLines "[run]\nmax_steps=5".toList (front ++ []) ∧
      List.Forall₂ ConfigLine.Reads front before ∧
      ConfigLine.Reads "max_steps=x".toList (.assignment Setting.maxSteps.key.toList ['x']) ∧
      InSection before ∧ Setting.maxSteps.parse ['x'] = none ∧
      (ofText "[run]\nmax_steps=5\nmax_steps=x".toList).maxSteps = none ∧
      (ofText "[run]\nmax_steps=5".toList).maxSteps = some 5 := by
  intro front before
  have hasLines := Text.hasLines_lines "[run]\nmax_steps=5\nmax_steps=x".toList
  have hasOthers := Text.hasLines_lines "[run]\nmax_steps=5".toList
  exact ⟨hasLines, hasOthers, ConfigLine.forall₂_reads_iff.mpr (by decide),
    ConfigLine.reads_iff.mpr (by decide), by decide, by decide, by decide, by decide⟩

/-- The log level stays, and the limit is hidden: what other sections assign does not count. -/
theorem unreadable_hides_earlier_otherSection :
    let text := "[run]\nlog_level=info\nmax_steps=5\nmax_steps=x\n[colors]\nmax_steps=9".toList
    let without := "[run]\nlog_level=info\nmax_steps=5\n[colors]\nmax_steps=9".toList
    let front := ["[run]", "log_level=info", "max_steps=5"].map String.toList
    let behind := ["[colors]", "max_steps=9"].map String.toList
    let before := front.map ConfigLine.ofLine
    let after := behind.map ConfigLine.ofLine
    Text.HasLines text (front ++ "max_steps=x".toList :: behind) ∧
      Text.HasLines without (front ++ behind) ∧
      List.Forall₂ ConfigLine.Reads front before ∧
      ConfigLine.Reads "max_steps=x".toList (.assignment Setting.maxSteps.key.toList ['x']) ∧
      List.Forall₂ ConfigLine.Reads behind after ∧
      InSection before ∧ Setting.maxSteps.parse ['x'] = none ∧
      ¬AssignsBehind after Setting.maxSteps.key ∧
      Setting.logLevel.inFile? (ofText text) = Setting.logLevel.inFile? (ofText without) ∧
      Setting.maxSteps.inFile? (ofText text) = none ∧
      Setting.maxSteps.inFile? (ofText without) = some 5 ∧ ofText text ≠ ofText without := by
  intro text without front behind before after
  have hasLines : Text.HasLines text (front ++ "max_steps=x".toList :: behind) :=
    Text.hasLines_lines text
  have hasOthers : Text.HasLines without (front ++ behind) := Text.hasLines_lines without
  have readsFront : List.Forall₂ ConfigLine.Reads front before :=
    ConfigLine.forall₂_reads_iff.mpr rfl
  have readsBehind : List.Forall₂ ConfigLine.Reads behind after :=
    ConfigLine.forall₂_reads_iff.mpr rfl
  have assigns : ConfigLine.Reads "max_steps=x".toList
      (.assignment Setting.maxSteps.key.toList ['x']) := ConfigLine.reads_iff.mpr (by decide)
  have inSection : InSection before := by decide
  have unreadable : Setting.maxSteps.parse ['x'] = none := by decide
  have noLater : ¬AssignsBehind after Setting.maxSteps.key :=
    lastValue?_behind_eq_none_iff.mp (by decide)
  have last : AssignsLast before Setting.maxSteps.key ['5'] := lastValue?_eq_some_iff.mp (by decide)
  obtain ⟨others, hidden, same_iff⟩ := unreadable_hides_earlier hasLines hasOthers readsFront
    assigns readsBehind inSection unreadable
  obtain ⟨none, shown, -⟩ := hidden noLater
  refine ⟨hasLines, hasOthers, readsFront, assigns, readsBehind, inSection, unreadable, noLater,
    others .logLevel (by decide), none, shown ['5'] last, fun same => ?_⟩
  cases (same_iff.mp same).resolve_left noLater ['5'] last

end FileConfig

namespace Settings

/-- What a config file holds for a setting is all that is left of its values. So if the command line
and the environment do not decide a setting and the last value in the file cannot be read, then the
setting has its default, and the warnings are those of variables, as without a config file. -/
theorem unreadable_leaves_no_warning {overrides : Overrides} {environment : Environment}
    {text : List Char} {lines : List (List Char)} {contents : List ConfigLine} {setting : Setting}
    {value : List Char} (silent : setting.flag? overrides = none)
    (uninherited : setting.IsUninherited environment) (hasLines : Text.HasLines text lines)
    (reads : List.Forall₂ ConfigLine.Reads lines contents)
    (last : FileConfig.AssignsLast contents setting.key value)
    (unreadable : setting.parse value = none) :
    setting.decided? (resolve overrides environment (.ofText text)) = setting.default? ∧
      (resolve overrides environment (.ofText text)).warnings =
        (resolve overrides environment (.ofText [])).warnings ∧
      ∀ warning ∈ (resolve overrides environment (.ofText text)).warnings,
        ∃ other : Setting, warning.name = other.variableName ∧
          other.IsUnusable overrides environment warning.value := by
  have unwritten : setting.inFile? (.ofText text) = none := by
    rw [FileConfig.ofText_eq hasLines reads, Setting.inFile?_ofAssignments,
      FileConfig.lastValue?_eq_some_iff.mpr last, Option.bind_some, unreadable]
  refine ⟨Setting.decidedAs_iff.mp (.default silent uninherited unwritten), ?_, ?_⟩
  · rw [Setting.warnings_eq, Setting.warnings_eq]
  · intro warning member
    rw [Setting.warnings_eq, List.mem_filterMap] at member
    obtain ⟨other, -, found⟩ := member
    obtain ⟨unused, unusable, rfl⟩ := Option.map_eq_some_iff.mp found
    exact ⟨other, rfl, Setting.unusable?_eq_some_iff.mp unusable⟩

/-- Nobody learns of a limit in the file that is no number. There is no limit then. -/
theorem unreadable_leaves_no_warning_limit :
    let environment : Environment := fun _ => none
    let contents : List ConfigLine :=
      [.header "run".toList, .assignment "max_steps".toList "lots".toList]
    let settings := resolve .none environment (.ofText "[run]\nmax_steps=lots".toList)
    Setting.maxSteps.flag? .none = none ∧ Setting.maxSteps.IsUninherited environment ∧
      Text.HasLines "[run]\nmax_steps=lots".toList (["[run]", "max_steps=lots"].map String.toList) ∧
      List.Forall₂ ConfigLine.Reads (["[run]", "max_steps=lots"].map String.toList) contents ∧
      FileConfig.AssignsLast contents Setting.maxSteps.key "lots".toList ∧
      Setting.maxSteps.parse "lots".toList = none ∧
      settings.maxSteps = none ∧ settings.warnings = [] := by
  intro environment contents settings
  have uninherited : Setting.maxSteps.IsUninherited environment := by
    rintro text ⟨-, value, found, -⟩
    cases found
  have hasLines := Text.hasLines_lines "[run]\nmax_steps=lots".toList
  exact ⟨rfl, uninherited, hasLines, ConfigLine.forall₂_reads_iff.mpr (by decide),
    FileConfig.lastValue?_eq_some_iff.mp (by decide), by decide, by decide, by decide⟩

/-- With a variable that is no number either, there is one warning, and it is of the variable. -/
theorem unreadable_leaves_no_warning_badVariable :
    let environment : Environment := fun name =>
      if name = "TAPEBF_MAX_STEPS" then some "many" else none
    let lines := ["[run]", "max_steps=lots"].map String.toList
    let contents := lines.map ConfigLine.ofLine
    let settings := resolve .none environment (.ofText "[run]\nmax_steps=lots".toList)
    Setting.maxSteps.flag? .none = none ∧ Setting.maxSteps.IsUninherited environment ∧
      Text.HasLines "[run]\nmax_steps=lots".toList lines ∧
      List.Forall₂ ConfigLine.Reads lines contents ∧
      FileConfig.AssignsLast contents Setting.maxSteps.key "lots".toList ∧
      Setting.maxSteps.parse "lots".toList = none ∧
      Setting.maxSteps.decided? settings = none ∧
      settings.warnings = [⟨"TAPEBF_MAX_STEPS", "many".toList⟩] := by
  intro environment lines contents settings
  have unusable : Setting.maxSteps.IsUnusable .none environment "many".toList :=
    Setting.unusable?_eq_some_iff.mp (by decide)
  have hasLines : Text.HasLines "[run]\nmax_steps=lots".toList lines := Text.hasLines_lines _
  have reads : List.Forall₂ ConfigLine.Reads lines contents := ConfigLine.forall₂_reads_iff.mpr rfl
  have last : FileConfig.AssignsLast contents Setting.maxSteps.key "lots".toList :=
    FileConfig.lastValue?_eq_some_iff.mp (by decide)
  have unreadable : Setting.maxSteps.parse "lots".toList = none := by decide
  obtain ⟨decided, sameWarnings, -⟩ := unreadable_leaves_no_warning unusable.silent
    unusable.isUninherited hasLines reads last unreadable
  exact ⟨rfl, unusable.isUninherited, hasLines, reads, last, unreadable, decided,
    sameWarnings.trans (by decide)⟩

end Settings

end TapeMachine
