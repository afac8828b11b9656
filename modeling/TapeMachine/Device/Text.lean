import TapeMachine.Device.Basic
import TapeMachine.Text.Quoted

/-! # Text as input, bytes as output

The text source serves the characters of a text as bytes, each character of at most U+00FF as the
byte of the same value. A wider character does not fit in a cell: the call fails and the character
stays unread. The byte sink keeps all bytes and never fails.
-/

namespace TapeMachine

/-- The failure of a read that meets a character wider than a cell. -/
def IoFailure.wideCharacter (character : Char) : IoFailure where
  kind := .invalidData
  text :=
    "input character " ++ String.ofList (Text.quotedChar character) ++ " (U+" ++
      String.ofList (Text.upperHex4 character.toNat) ++ ") does not fit in a cell"

/-- The source that serves an unread text from its front. -/
def Source.text : Source (List Char) where
  read
    | [] => (.ok none, [])
    | character :: rest =>
      if character.toNat < UInt8.size then (.ok (some character.toNat.toUInt8), rest)
      else (.error (.wideCharacter character), character :: rest)

/-- A narrow character is delivered and gone. -/
theorem Source.read_text_of_narrow {character : Char} (fits : character.toNat < UInt8.size)
    (rest : List Char) :
    Source.text.read (character :: rest) = (.ok (some character.toNat.toUInt8), rest) := by
  simp only [text, fits, ↓reduceIte]

/-- A wide character fails the read and stays. -/
theorem Source.read_text_of_wide {character : Char} (isWide : UInt8.size ≤ character.toNat)
    (rest : List Char) :
    Source.text.read (character :: rest) = (.error (.wideCharacter character), character :: rest) := by
  simp only [text, Nat.not_lt.mpr isWide, ↓reduceIte]

def Source.bytes : Source (List UInt8) where
  read
    | [] => (.ok none, [])
    | byte :: rest => (.ok (some byte), rest)

/-- The sink that keeps every byte behind those it has. -/
def Sink.bytes : Sink (Array UInt8) where
  write byte kept := (.ok (), kept.push byte)
  flush kept := (.ok (), kept)

/-- The text with one character of at most U+00FF for each byte. -/
def latinText (bytes : Array UInt8) : String :=
  String.ofList (bytes.toList.map fun byte => Char.ofNat byte.toNat)

end TapeMachine
