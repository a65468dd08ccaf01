/-!
# Blanks and letter case

`isBlank` holds of the characters with the property `White_Space`, and `trim` removes them
from both ends of a text. Letter case is compared on the ASCII letters alone.
-/

namespace BeaconLight.Text

/-- A blank is a character with the property `White_Space`. -/
def isBlank (c : Char) : Bool :=
  ('\t' ≤ c && c ≤ '\r') || c == ' ' || c == '\u0085' || c == '\u00a0' || c == '\u1680'
    || ('\u2000' ≤ c && c ≤ '\u200a') || c == '\u2028' || c == '\u2029' || c == '\u202f'
    || c == '\u205f' || c == '\u3000'

/-- A list without the elements at either end that satisfy a test. -/
def stripBoth {α : Type} (test : α → Bool) (xs : List α) : List α :=
  ((xs.dropWhile test).reverse.dropWhile test).reverse

/-- A list without the elements at its end that satisfy a test. -/
def stripEnd {α : Type} (test : α → Bool) (xs : List α) : List α :=
  (xs.reverse.dropWhile test).reverse

/-- A text without the blanks at either end. -/
def trim (text : String) : String :=
  String.ofList (stripBoth isBlank text.toList)

/-- A text with its ASCII letters in lower case. -/
def lower (text : String) : String :=
  String.ofList (text.toList.map Char.toLower)

/-- Two texts are equal up to the case of ASCII letters. -/
def equalsIgnoringCase (a b : String) : Bool :=
  lower a == lower b

/-- The part of a text before the first occurrence of a character, or all of it. -/
def before (c : Char) (text : String) : String :=
  String.ofList (text.toList.takeWhile (· != c))

/-- An ASCII blank is a space, a tab, a line feed, a form feed or a carriage return. -/
def isAsciiBlank (byte : UInt8) : Bool :=
  byte == 0x20 || byte == 0x09 || byte == 0x0a || byte == 0x0c || byte == 0x0d

end BeaconLight.Text
