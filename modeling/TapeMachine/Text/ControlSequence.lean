/-! # Control sequences

A terminal does not show all of a text. It obeys the control characters, and the sequences that
start with the escape character: short ones, ones with parameters that a letter ends, and strings
that run up to a terminator. `Text.plain` is what is left without them, for readers that are no
terminal. Blank control characters, such as the line feed, stay.

A blank control character stays also inside a sequence with parameters or a short one, and suspends
it. Text goes on from there as usual, until a control character that is left out takes the sequence
up again. A character outside ASCII ends it for good.
-/

namespace TapeMachine.Text

/-- Whether a control character is a blank: tab, line feed, form feed, carriage return. -/
def isBlankControl (character : Char) : Bool :=
  character = '\t' || character = '\n' || character = '\x0c' || character = '\r'

/-- Whether a character outside of sequences stays. -/
def isShown (character : Char) : Bool :=
  (0x20 ≤ character.toNat && character.toNat ≠ 0x7F) || isBlankControl character

/-- A sequence that blank control characters suspend. -/
inductive Sequence where
  /-- The escape character has been read. -/
  | escape
  /-- Characters behind the escape character have announced one more. -/
  | announced
  /-- The parameters are being read. -/
  | parameters
deriving DecidableEq, Repr

/-- What has been read of the head of a device control string. -/
inductive DeviceHead where
  | opening
  | parameters
  | announced
deriving DecidableEq, Repr

/-- Where in a text a reader stands. -/
inductive Place where
  | text
  | inside (sequence : Sequence)
  /-- In text, with a sequence left unfinished. -/
  | suspended (sequence : Sequence)
  | head (part : DeviceHead)
  /-- In the string of a command, which the bell ends. -/
  | command
  /-- In any other string. -/
  | string
deriving DecidableEq, Repr

/-- Whether a string ends at a character: the byte 9C is the terminator, also where it is only a
part of how a character is encoded. -/
def endsString (character : Char) : Bool :=
  0x80 ≤ character.toNat && (String.utf8EncodeChar character).contains 0x9C

/-- Where a sequence leads from a character that neither suspends nor cancels it. -/
def Sequence.next (sequence : Sequence) (character : Char) : Place :=
  let code := character.toNat
  match sequence with
  | escape =>
    if character = '[' then .inside .parameters
    else if character = ']' then .command
    else if character = 'P' then .head .opening
    else if character = 'X' ∨ character = '^' ∨ character = '_' then .string
    else if 0x20 ≤ code ∧ code ≤ 0x2F then .inside .announced
    else if 0x30 ≤ code ∧ code ≤ 0x7E then .text
    else .inside .escape
  | announced => if 0x30 ≤ code ∧ code ≤ 0x7E then .text else .inside .announced
  | parameters => if 0x40 ≤ code ∧ code ≤ 0x7E then .text else .inside .parameters

/-- Where the head of a device control string leads from a character. Parameters in a wrong place
start the string early. -/
def DeviceHead.next (part : DeviceHead) (character : Char) : Place :=
  let code := character.toNat
  if 0x40 ≤ code ∧ code ≤ 0x7E then .string
  else if 0x20 ≤ code ∧ code ≤ 0x2F then .head .announced
  else if 0x30 ≤ code ∧ code ≤ 0x3F then
    match part with
    | opening => .head .parameters
    | parameters => if code ≤ 0x3B then .head .parameters else .string
    | announced => .string
  else .head part

/-- Where the reader stands behind a character, and whether the character stays. -/
def Place.next (place : Place) (character : Char) : Place × Bool :=
  if character = '\x1b' then (.inside .escape, false)
  else if character = '\x18' ∨ character = '\x1a' then (.text, false)
  else
    match place with
    | text => (.text, isShown character)
    | inside sequence =>
      if isBlankControl character then (.suspended sequence, true)
      else (sequence.next character, false)
    | suspended sequence =>
      if 0x80 ≤ character.toNat then (.text, true)
      else if isShown character then (.suspended sequence, true)
      else (.inside sequence, false)
    | head part => (part.next character, false)
    | command => (if character = '\x07' then .text else .command, false)
    | string => (if endsString character then .text else .string, false)

/-- What is left of a text whose reader stands at a place. -/
def plainFrom (place : Place) : List Char → List Char
  | [] => []
  | character :: rest =>
    match place.next character with
    | (place, true) => character :: plainFrom place rest
    | (place, false) => plainFrom place rest

/-- The text without control sequences, and of the control characters only with the blank ones. -/
def plain (text : List Char) : List Char := plainFrom .text text

/-- A character that stays is one that may be shown. -/
theorem isShown_of_next {place behind : Place} {character : Char}
    (stays : place.next character = (behind, true)) : isShown character = true := by
  unfold Place.next at stays
  split at stays
  · simp at stays
  · split at stays
    · simp at stays
    · split at stays
      · simp_all
      · split at stays
        · simp_all [isShown]
        · simp at stays
      · split at stays
        · simp [isShown]
          omega
        · split at stays
          · assumption
          · simp at stays
      all_goals simp at stays

/-- Nothing that a terminal obeys is left, blanks aside. -/
theorem isShown_of_mem_plain {text : List Char} {character : Char}
    (left : character ∈ plain text) : isShown character = true := by
  suffices every : ∀ place, ∀ other ∈ plainFrom place text, isShown other = true from
    every .text character left
  clear left
  induction text with
  | nil => simp [plainFrom]
  | cons first rest inner =>
    intro place
    unfold plainFrom
    split
    · rename_i stays
      simpa using ⟨isShown_of_next stays, inner _⟩
    · exact inner _

/-- A text without control characters, blanks aside, stays as it is. -/
theorem plain_of_isShown {text : List Char}
    (shown : ∀ character ∈ text, isShown character = true) : plain text = text := by
  unfold plain
  induction text with
  | nil => rfl
  | cons first rest inner =>
    have stays : Place.text.next first = (.text, true) := by
      have here := shown first (by simp)
      unfold Place.next
      split
      · simp_all [isShown, isBlankControl]
      · split
        · rename_i cancelled
          rcases cancelled with rfl | rfl <;> simp [isShown, isBlankControl] at here
        · simp [here]
    simp [plainFrom, stays, inner fun character member => shown character (by simp [member])]

end TapeMachine.Text
