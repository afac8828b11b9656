import TapeMachine.Proofs.Trim
import TapeMachine.Settings.ConfigFile

/-! # The grammar of a line

A line of a config file is a comment if a number sign comes first, a header if it stands in square
brackets, an assignment if it has an equals sign, and says nothing otherwise. Blanks may stand
around the line, around the title of a header, around the key and around the value, and a value may
stand in double quotes. A line says what is read from it, and nothing else.
-/

namespace TapeMachine

namespace ConfigLine

def IsBracketed (text : List Char) : Prop := ∃ inner, text = '[' :: (inner ++ [']'])

/-- A value stands in double quotes or for itself. -/
inductive Shows : List Char → List Char → Prop
  | quoted (value : List Char) : Shows ('"' :: (value ++ ['"'])) value
  | bare {value : List Char} (unquoted : ∀ inner, value ≠ '"' :: (inner ++ ['"'])) :
      Shows value value

/-- What a line without blanks at its ends says. -/
inductive Means : List Char → ConfigLine → Prop
  | blank : Means [] .noise
  | comment (rest : List Char) : Means ('#' :: rest) .noise
  | header {inner title : List Char} (named : Text.StandsIn title inner) :
      Means ('[' :: (inner ++ [']'])) (.header title)
  | assignment {left right key shown value : List Char} (whole : '=' ∉ left)
      (noComment : (left ++ '=' :: right).head? ≠ some '#')
      (noHeader : ¬IsBracketed (left ++ '=' :: right))
      (named : Text.StandsIn key left) (placed : Text.StandsIn shown right)
      (shows : Shows shown value) :
      Means (left ++ '=' :: right) (.assignment key value)
  | remark {line : List Char} (plain : '=' ∉ line) (noHeader : ¬IsBracketed line) :
      Means line .noise

/-- What a line says, with blanks around it. -/
def Reads (line : List Char) (content : ConfigLine) : Prop :=
  ∃ solid, Text.StandsIn solid line ∧ Means solid content

theorem isBracketed_iff {text : List Char} :
    IsBracketed text ↔ text.head? = some '[' ∧ text.getLast? = some ']' := by
  constructor
  · rintro ⟨inner, rfl⟩
    exact ⟨rfl, by rw [← List.cons_append, List.getLast?_concat]⟩
  · rintro ⟨first, last⟩
    obtain ⟨front, rfl⟩ := List.getLast?_eq_some_iff.mp last
    cases front with
    | nil => cases first
    | cons character inner =>
      cases first
      exact ⟨inner, rfl⟩

theorem Shows.unquote_eq {shown value : List Char} (shows : Shows shown value) :
    unquote shown = value := by
  cases shows with
  | quoted => simp [unquote]
  | bare unquoted =>
    unfold unquote
    split
    · rename_i inner
      rw [if_neg]
      intro last
      obtain ⟨front, rfl⟩ := List.getLast?_eq_some_iff.mp last
      exact unquoted front rfl
    · rfl

theorem shows_unquote (shown : List Char) : Shows shown (unquote shown) := by
  by_cases quoted : ∃ inner, shown = '"' :: (inner ++ ['"'])
  · obtain ⟨inner, rfl⟩ := quoted
    simpa [unquote] using Shows.quoted inner
  · have bare := Shows.bare (not_exists.mp quoted)
    rwa [bare.unquote_eq]

theorem ofTrimmed_of_bracketed (inner : List Char) :
    ofTrimmed ('[' :: (inner ++ [']'])) = .header (Text.trim inner) := by
  have bracketed := isBracketed_iff.mp ⟨inner, rfl⟩
  rw [ofTrimmed, if_neg (by simp), if_pos bracketed, List.tail_cons, List.dropLast_concat]

theorem ofTrimmed_of_split {line key value : List Char} (noComment : line.head? ≠ some '#')
    (noHeader : ¬IsBracketed line) (split : Text.splitFirst? '=' line = some (key, value)) :
    ofTrimmed line = .assignment (Text.trim key) (unquote (Text.trim value)) := by
  rw [ofTrimmed, if_neg noComment, if_neg (isBracketed_iff.not.mp noHeader), split]

theorem ofTrimmed_of_plain {line : List Char} (plain : '=' ∉ line) (noHeader : ¬IsBracketed line) :
    ofTrimmed line = .noise := by
  rw [ofTrimmed, if_neg (isBracketed_iff.not.mp noHeader), Text.splitFirst?_eq_none plain, ite_self]

theorem Means.ofTrimmed_eq {line : List Char} {content : ConfigLine} (means : Means line content) :
    ofTrimmed line = content := by
  cases means with
  | blank => rfl
  | comment rest => rfl
  | header named => rw [ofTrimmed_of_bracketed, named.trim_eq]
  | assignment whole noComment noHeader named placed shows =>
    rw [ofTrimmed_of_split noComment noHeader (Text.splitFirst?_append whole _), named.trim_eq,
      placed.trim_eq, shows.unquote_eq]
  | remark plain noHeader => exact ofTrimmed_of_plain plain noHeader

theorem exists_means (line : List Char) : ∃ content, Means line content := by
  by_cases bracketed : IsBracketed line
  · obtain ⟨inner, rfl⟩ := bracketed
    exact ⟨_, .header (Text.standsIn_trim inner)⟩
  · by_cases comment : line.head? = some '#'
    · obtain ⟨rest, rfl⟩ := List.head?_eq_some_iff.mp comment
      exact ⟨_, .comment rest⟩
    · by_cases assigns : '=' ∈ line
      · obtain ⟨left, right, rfl, whole⟩ := List.eq_append_cons_of_mem assigns
        exact ⟨_, .assignment whole comment bracketed (Text.standsIn_trim left)
          (Text.standsIn_trim right) (shows_unquote _)⟩
      · exact ⟨_, .remark assigns bracketed⟩

theorem means_iff {line : List Char} {content : ConfigLine} :
    Means line content ↔ ofTrimmed line = content := by
  constructor
  · exact Means.ofTrimmed_eq
  · rintro rfl
    obtain ⟨content, means⟩ := exists_means line
    exact means.ofTrimmed_eq ▸ means

/-- A line says what is read from it. -/
theorem reads_iff {line : List Char} {content : ConfigLine} :
    Reads line content ↔ ofLine line = content := by
  simp only [Reads, ← Text.trim_eq_iff, exists_eq_left', means_iff, ofLine]

end ConfigLine

end TapeMachine
