import BeaconLight.Text.Digits
import BeaconLight.Text.GraphemeExtend
import BeaconLight.Text.Printable

/-!
# Quoted text

Error messages show a text or a character between quotes, with what cannot be read on its
own written as an escape: a backslash and a letter for the common controls, the code point
in hexadecimal between braces for all else that is not printable.
-/

namespace BeaconLight.Text

/-- A character as it stands between quotes of the given kind. -/
def escapeChar (quote c : Char) : List Char :=
  if c = '\x00' then ['\\', '0']
  else if c = '\t' then ['\\', 't']
  else if c = '\n' then ['\\', 'n']
  else if c = '\r' then ['\\', 'r']
  else if c = '\\' || c = quote then ['\\', c]
  else if isPrintable c && !isGraphemeExtender c then [c]
  else ['\\', 'u', '\x7b'] ++ (hexadecimal c.toNat).toList ++ ['\x7d']

/-- A text between double quotes. -/
def quoted (text : String) : String :=
  String.ofList ('"' :: text.toList.flatMap (escapeChar '"') ++ ['"'])

/-- A character between single quotes. -/
def quotedChar (c : Char) : String :=
  String.ofList ('\'' :: escapeChar '\'' c ++ ['\''])

end BeaconLight.Text
