import BeaconLight.Text.Blank
import BeaconLight.Url.Percent

/-!
# Domain names

A domain name in a URL is read with its percent escapes decoded, its letters in lower case,
the wide forms of ASCII characters and the ideographic full stops as their ASCII forms, and
invisible characters left out. It may not contain marks of the URL itself, controls, blanks,
or code points that are no characters. Letters of other scripts are kept as they are.
-/

namespace BeaconLight.Domain

/-- Invisible characters that are left out of a name. -/
def isIgnored (c : Char) : Bool :=
  c == '\u00ad' || c == '\u034f' || c == '\u200b' || c == '\u2060' || c == '\u2064'
    || c == '\ufeff' || ('\ufe00' ≤ c && c ≤ '\ufe0f')

/-- Full stops of other scripts. -/
def isFullStop (c : Char) : Bool :=
  c == '\u3002' || c == '\uff0e' || c == '\uff61'

/-- The form of a character that names are compared by. -/
def fold (c : Char) : List Char :=
  if isIgnored c then []
  else if isFullStop c then ['.']
  else if '\uff01' ≤ c ∧ c ≤ '\uff5e' then [(Char.ofNat (c.toNat - 0xfee0)).toLower]
  else [c.toLower]

/-- The ASCII characters that no host may contain. -/
def isForbiddenInHost (c : Char) : Bool :=
  c == '\x00' || c == '\t' || c == '\n' || c == '\r' || " #/:<>?@[\\]^|".toList.contains c

/-- A code point that is no character: private use, or the last two of a plane and the like. -/
def isNoncharacter (c : Char) : Bool :=
  let n := c.toNat
  n % 0x10000 ≥ 0xfffe || (0xfdd0 ≤ n && n ≤ 0xfdef) || (0xe000 ≤ n && n ≤ 0xf8ff) || 0xe0000 ≤ n
    || c == '\ufffd'

/-- The characters that no domain name may contain. -/
def isForbidden (c : Char) : Bool :=
  isForbiddenInHost c || c < ' ' || c == '%' || ('\x7f' ≤ c && c ≤ '\u009f')
    || Text.isBlank c || isNoncharacter c

/-- The domain name that the characters of a URL spell. -/
def parse? (cs : List Char) : Option (List Char) :=
  let decoded := (Utf8.decodeLossy (Percent.decode (Utf8.encode cs))).toList
  let name := decoded.flatMap fold
  if name = [] ∨ name.any isForbidden then none else some name

end BeaconLight.Domain
