import TapeMachine.Text.Ranges

/-! # Blanks

The blank characters are those with the Unicode property White_Space. Text is trimmed of them at
both ends before a name or a number is read from it.
-/

namespace TapeMachine.Text

/-- The ranges of the characters with the property White_Space. -/
def blankRanges : List (Nat × Nat) :=
  [(0x09, 0x0D), (0x20, 0x20), (0x85, 0x85), (0xA0, 0xA0), (0x1680, 0x1680), (0x2000, 0x200A),
    (0x2028, 0x2029), (0x202F, 0x202F), (0x205F, 0x205F), (0x3000, 0x3000)]

def isBlank (character : Char) : Bool := inRanges blankRanges character

def trimLeft (text : List Char) : List Char := text.dropWhile isBlank

def trimRight (text : List Char) : List Char := (text.reverse.dropWhile isBlank).reverse

def trim (text : List Char) : List Char := trimRight (trimLeft text)

end TapeMachine.Text
