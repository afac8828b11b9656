import TapeMachine.Proofs.LineGrammar
import TapeMachine.Proofs.Sections
import TapeMachine.Proofs.Values

/-! # A written config reads back

A config is written by assignments in the sections `run`: the last one to the key of a setting
writes its value, and a setting without a value has none. What else stands in these sections and
what stands in others, how the lines end, and where the blanks are makes no difference.
-/

namespace TapeMachine

/-! ## Lines -/

namespace Text

/-- The lines of a text. Each of them ends at a line feed, or at a carriage return and a line feed,
and the last at the end of the text. There need be no line behind the last line feed. -/
inductive HasLines : List Char → List (List Char) → Prop
  | nil : HasLines [] []
  | last {line : List Char} (inside : '\n' ∉ line) : HasLines line [line]
  | feed {line rest : List Char} {lines : List (List Char)} (inside : '\n' ∉ line)
      (others : HasLines rest lines) : HasLines (line ++ '\n' :: rest) (line :: lines)
  | returnFeed {line rest : List Char} {lines : List (List Char)} (inside : '\n' ∉ line)
      (others : HasLines rest lines) : HasLines (line ++ '\r' :: '\n' :: rest) (line :: lines)

/-- Another character makes the first line longer. -/
theorem HasLines.cons {character : Char} {text line : List Char} {others : List (List Char)}
    (notFeed : character ≠ '\n') (hasLines : HasLines text (line :: others)) :
    HasLines (character :: text) ((character :: line) :: others) := by
  have longer {line : List Char} (inside : '\n' ∉ line) : '\n' ∉ character :: line := by
    simp [notFeed.symm, inside]
  cases hasLines with
  | last inside => exact .last (longer inside)
  | feed inside others => exact .feed (longer inside) others
  | returnFeed inside others => exact .returnFeed (longer inside) others

/-- Every text has lines. -/
theorem hasLines_lines (text : List Char) : HasLines text (lines text) := by
  induction text with
  | nil => exact .last List.not_mem_nil
  | cons character rest ih =>
    unfold lines
    split
    · rename_i feed
      exact feed ▸ .feed List.not_mem_nil ih
    · rename_i notFeed
      cases found : lines rest with
      | nil => exact absurd found (lines_ne_nil rest)
      | cons line others => exact (found ▸ ih).cons notFeed

end Text

namespace ConfigLine

/-- A carriage return at the end of a line is not read. -/
theorem ofLine_concat_return (line : List Char) : ofLine (line ++ ['\r']) = ofLine line := by
  rw [ofLine, Text.trim_append_blank line (List.forall_mem_singleton.mpr rfl), ofLine]

theorem forall₂_reads_iff {lines : List (List Char)} {contents : List ConfigLine} :
    List.Forall₂ Reads lines contents ↔ lines.map ofLine = contents := by
  simp only [← List.forall₂_eq_eq_eq, List.forall₂_map_left_iff, ← reads_iff]

end ConfigLine

/-! ## The layout of an assignment -/

/-- Keys are made of letters and underscores. -/
theorem Setting.forall_mem_key (setting : Setting) : ∀ character ∈ setting.key.toList,
    Text.isBlank character = false ∧ character ∉ ['=', '#', '['] := by
  cases setting <;> exact List.all_iff_forall_prop.mp (by decide)

theorem Setting.key_ne_nil (setting : Setting) : setting.key.toList ≠ [] := by
  cases setting <;> decide

namespace ConfigLine

variable {setting : Setting} {value : setting.Value} {written shown : List Char}

/-- A value is written without quotes of its own, so it may be shown with or without them. -/
theorem shows_of_writes (writes : setting.Writes written value)
    (quotes : shown = written ∨ shown = '"' :: (written ++ ['"'])) : Shows shown written := by
  rcases quotes with rfl | rfl
  · refine .bare fun inner quoted => ?_
    cases writes.isAlphanum '"' (quoted ▸ List.mem_cons_self)
  · exact .quoted written

theorem forall_mem_shown (writes : setting.Writes written value)
    (quotes : shown = written ∨ shown = '"' :: (written ++ ['"'])) :
    ∀ character ∈ shown, Text.isBlank character = false := by
  have solid (character : Char) (member : character ∈ written) : Text.isBlank character = false :=
    Text.isBlank_of_isAlphanum (writes.isAlphanum character member)
  rcases quotes with rfl | rfl
  · exact solid
  · simp only [List.forall_mem_cons, List.forall_mem_append]
    exact ⟨by decide, solid, by decide, List.forall_mem_nil _⟩

/-- An assignment is read from its line, in whatever layout. -/
theorem reads_assignment {before between behind after : List Char}
    (writes : setting.Writes written value)
    (quotes : shown = written ∨ shown = '"' :: (written ++ ['"']))
    (blanks : ∀ character ∈ before ++ between ++ behind ++ after, Text.isBlank character) :
    Reads (before ++ setting.key.toList ++ between ++ ['='] ++ behind ++ shown ++ after)
      (.assignment setting.key.toList written) := by
  simp only [List.forall_mem_append] at blanks
  obtain ⟨⟨⟨blankBefore, blankBetween⟩, blankBehind⟩, blankAfter⟩ := blanks
  have solidKey := setting.forall_mem_key
  have solidShown := forall_mem_shown writes quotes
  have shown_ne_nil : shown ≠ [] := by
    rcases quotes with rfl | rfl
    · exact writes.ne_nil
    · exact List.cons_ne_nil _ _
  have first (character : Char) (found : (setting.key.toList ++ between ++
      '=' :: (behind ++ shown)).head? = some character) : character ∈ setting.key.toList := by
    rw [List.append_assoc, List.head?_append_of_ne_nil _ setting.key_ne_nil] at found
    exact List.mem_of_head? found
  have last (character : Char) (found : (setting.key.toList ++ between ++
      '=' :: (behind ++ shown)).getLast? = some character) : character ∈ shown := by
    rw [← List.cons_append, ← List.append_assoc, List.getLast?_append_of_ne_nil _ shown_ne_nil]
      at found
    exact List.mem_of_getLast? found
  refine ⟨setting.key.toList ++ between ++ '=' :: (behind ++ shown),
    ⟨⟨before, after, by simp, blankBefore, blankAfter⟩,
      fun character found => (solidKey character (first character found)).1,
      fun character found => solidShown character (last character found)⟩,
    .assignment ?whole ?noComment ?noHeader ?named ?placed (shows_of_writes writes quotes)⟩
  case whole =>
    rw [List.mem_append, not_or]
    constructor
    · intro member
      exact (solidKey '=' member).2 (by decide)
    · intro member
      cases blankBetween '=' member
  case noComment =>
    intro found
    exact (solidKey '#' (first '#' found)).2 (by decide)
  case noHeader =>
    rintro ⟨inner, bracketed⟩
    have found := congrArg List.head? bracketed
    exact (solidKey '[' (first '[' found)).2 (by decide)
  case named =>
    exact Text.standsIn_of_forall rfl (List.forall_mem_nil _) blankBetween
      fun character member => (solidKey character member).1
  case placed =>
    exact Text.standsIn_of_forall (List.append_nil _).symm blankBehind (List.forall_mem_nil _)
      solidShown

end ConfigLine

namespace FileConfig

/-- The lines write a config: the last assignment to the key of a setting writes its value, and
nothing is assigned if there is none. -/
structure IsWrittenBy (config : FileConfig) (contents : List ConfigLine) : Prop where
  present : ∀ (setting : Setting) value, setting.inFile? config = some value →
    ∃ written, setting.Writes written value ∧ AssignsLast contents setting.key written
  absent : ∀ setting : Setting, setting.inFile? config = none → AssignsNothing contents setting.key

theorem IsWrittenBy.ofAssignments_eq {config : FileConfig} {contents : List ConfigLine}
    (written : config.IsWrittenBy contents) :
    ofAssignments (assignments false contents) = config := by
  apply Setting.ext_inFile?
  intro setting
  rw [Setting.inFile?_ofAssignments]
  cases inFile : setting.inFile? config with
  | none =>
    rw [lastValue?_eq_none_iff.mpr (written.absent setting inFile), Option.bind_none]
  | some value =>
    obtain ⟨text, writes, last⟩ := written.present setting value inFile
    rw [lastValue?_eq_some_iff.mpr last, Option.bind_some, writes.parse_eq]

/-- The lines of a text assign the same with their carriage returns and without. -/
theorem assignments_lines {text : List Char} {lines : List (List Char)}
    (hasLines : Text.HasLines text lines) (counts : Bool) :
    assignments counts ((Text.lines text).map ConfigLine.ofLine) =
      assignments counts (lines.map ConfigLine.ofLine) := by
  induction hasLines generalizing counts with
  | nil => rfl
  | last inside => rw [Text.lines_of_not_mem inside]
  | feed inside _ ih =>
    rw [Text.lines_append_feed inside, List.map_cons, List.map_cons]
    exact assignments_cons_congr _ ih counts
  | @returnFeed line rest lines inside _ ih =>
    have insideToo : '\n' ∉ line ++ ['\r'] := by simpa using inside
    have split := Text.lines_append_feed insideToo rest
    rw [List.append_assoc] at split
    rw [List.map_cons, ← ConfigLine.ofLine_concat_return line]
    exact (congrArg _ (congrArg _ split)).trans (assignments_cons_congr _ ih counts)

theorem ofText_eq {text : List Char} {lines : List (List Char)} {contents : List ConfigLine}
    (hasLines : Text.HasLines text lines) (reads : List.Forall₂ ConfigLine.Reads lines contents) :
    ofText text = ofAssignments (assignments false contents) := by
  rw [ofText, assignments_lines hasLines, ConfigLine.forall₂_reads_iff.mp reads]

/-- A text has lines, a line can be read, and an assignment is read from its line in whatever
layout. If the lines of a text write a config, then the text is read as that config. -/
theorem written_reads_back :
    (∀ text, ∃ lines contents, Text.HasLines text lines ∧
      List.Forall₂ ConfigLine.Reads lines contents) ∧
    (∀ (setting : Setting) value written shown before between behind after,
      setting.Writes written value → (shown = written ∨ shown = '"' :: (written ++ ['"'])) →
      (∀ character ∈ before ++ between ++ behind ++ after, Text.isBlank character) →
      ConfigLine.Reads
        (before ++ setting.key.toList ++ between ++ ['='] ++ behind ++ shown ++ after)
        (.assignment setting.key.toList written)) ∧
    ∀ (config : FileConfig) text lines contents, Text.HasLines text lines →
      List.Forall₂ ConfigLine.Reads lines contents → config.IsWrittenBy contents →
      ofText text = config := by
  refine ⟨fun text => ?_, ?_, ?_⟩
  · exact ⟨Text.lines text, _, Text.hasLines_lines text, ConfigLine.forall₂_reads_iff.mpr rfl⟩
  · intro setting value written shown before between behind after writes quotes blanks
    exact ConfigLine.reads_assignment writes quotes blanks
  · intro config text lines contents hasLines reads written
    rw [ofText_eq hasLines reads, written.ofAssignments_eq]

/-- An assignment in front of the first header does not count, nor does one in another section, nor
one that another follows. One line here ends with a carriage return, and one value has quotes. -/
theorem written_reads_back_manySections :
    let config : FileConfig := ⟨none, some 18446744073709551615, some .scan, none⟩
    let text := ("resolver = table\n [ run ] \r\nmax_steps = 12x\n# limits\n\tmax_steps " ++
      "=\"18446744073709551615\" \nother\nresolver=Scan\n[colors]\nlog_level = info").toList
    let lines := Text.lines text
    let contents : List ConfigLine := [.assignment "resolver".toList "table".toList,
      .header "run".toList, .assignment "max_steps".toList "12x".toList, .noise,
      .assignment "max_steps".toList "18446744073709551615".toList, .noise,
      .assignment "resolver".toList "Scan".toList, .header "colors".toList,
      .assignment "log_level".toList "info".toList]
    ConfigLine.Reads "\tmax_steps =\"18446744073709551615\" ".toList
        (.assignment "max_steps".toList "18446744073709551615".toList) ∧
      Text.HasLines text lines ∧ List.Forall₂ ConfigLine.Reads lines contents ∧
      config.IsWrittenBy contents ∧ ofText text = config := by
  intro config text lines contents
  have writes : Text.Decimal.Writes "18446744073709551615".toList
      (18446744073709551615 : UInt64).toNat :=
    ⟨by decide, List.all_iff_forall_prop.mp (by decide), by decide⟩
  have laidOut := written_reads_back.2.1 .maxSteps 18446744073709551615 _ _ ['\t'] [' '] [] [' ']
    writes (.inr rfl) (List.all_iff_forall_prop.mp (by decide))
  have hasLines : Text.HasLines text lines := Text.hasLines_lines text
  have reads : List.Forall₂ ConfigLine.Reads lines contents :=
    ConfigLine.forall₂_reads_iff.mpr (by decide +kernel)
  have written : config.IsWrittenBy contents := by
    constructor
    · intro setting value inFile
      cases setting with
      | timeoutMs => cases inFile
      | maxSteps =>
        cases inFile
        exact ⟨_, writes, lastValue?_eq_some_iff.mp (by decide)⟩
      | resolver =>
        cases inFile
        have spelled : Text.WritesName "Scan".toList "scan".toList := by decide
        exact ⟨_, spelled, lastValue?_eq_some_iff.mp (by decide)⟩
      | logLevel => cases inFile
    · intro setting unwritten
      cases setting with
      | timeoutMs => exact lastValue?_eq_none_iff.mp (by decide)
      | maxSteps => cases unwritten
      | resolver => cases unwritten
      | logLevel => exact lastValue?_eq_none_iff.mp (by decide)
  exact ⟨laidOut, hasLines, reads, written,
    written_reads_back.2.2 config text lines contents hasLines reads written⟩

end FileConfig

end TapeMachine
