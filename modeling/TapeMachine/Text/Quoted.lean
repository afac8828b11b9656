import TapeMachine.Text.GraphemeExtend
import TapeMachine.Text.Ignorable
import TapeMachine.Text.Printable

/-! # Quoted text

Text that comes from outside is quoted before it enters a message. Inside the quotes the common
control characters, the backslash and the quote in use are written with a backslash. What is not
printable, shows nothing, or would attach itself to the character before it, is written by its code
point, as a `u` and lower case hexadecimal digits in braces. All else stands for itself.
-/

namespace TapeMachine.Text

def lowerHex (number : Nat) : List Char := Nat.toDigits 16 number

/-- The upper case hexadecimal digits of a number, at least four. -/
def upperHex4 (number : Nat) : List Char :=
  let digits := (Nat.toDigits 16 number).map Char.toUpper
  List.replicate (4 - digits.length) '0' ++ digits

/-- Whether a character attaches itself to the one before it. The two sound marks of the halfwidth
syllabary have the property Grapheme_Extend as well, but they are letters with a width of their
own. -/
def attaches (character : Char) : Bool :=
  isGraphemeExtend character && character ≠ '\uFF9E' && character ≠ '\uFF9F'

/-- Whether a character can stand for itself in a quoted text. -/
def showsItself (character : Char) : Bool :=
  isPrintable character && !isIgnorable character && !attaches character

/-- A character as it stands between two `quote` characters. -/
def escape (quote character : Char) : List Char :=
  if character = '\x00' then ['\\', '0']
  else if character = '\t' then ['\\', 't']
  else if character = '\r' then ['\\', 'r']
  else if character = '\n' then ['\\', 'n']
  else if character = '\\' then ['\\', '\\']
  else if character = quote then ['\\', quote]
  else if showsItself character then [character]
  else ['\\', 'u', '\x7b'] ++ lowerHex character.toNat ++ ['\x7d']

def quotedChar (character : Char) : List Char := '\'' :: (escape '\'' character ++ ['\''])

def quoted (text : List Char) : List Char := '"' :: (text.flatMap (escape '"') ++ ['"'])

end TapeMachine.Text
