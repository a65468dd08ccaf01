import BeaconLight.Json.Token

/-!
# Splitting JSON text into tokens

The lexer reads a text byte by byte. `Lexer.step` says what a byte does to the token that is
being read, and `tokenize` runs it over a whole text. A text that is not a sequence of tokens
gives the tokens in front of the first fault and then `Token.fault`.

A string may hold any bytes but controls; an escape is a backslash and one of the letters
that mean something, with four hexadecimal digits after a `u`. What the bytes of a string
mean is not looked at here, nor how large a number is.
-/

namespace BeaconLight.Json

/-- How far a number has been read. -/
inductive NumberPart
  /-- After the sign; a digit has to follow. -/
  | sign
  /-- After a zero in front, which no digit may follow. -/
  | zero
  /-- Among the digits in front of the point. -/
  | whole
  /-- After the point; a digit has to follow. -/
  | point
  /-- Among the digits after the point. -/
  | fraction
  /-- After the `e`; a sign or a digit has to follow. -/
  | exponentMark
  /-- After the sign of the exponent; a digit has to follow. -/
  | exponentSign
  /-- Among the digits of the exponent. -/
  | exponent
  deriving DecidableEq, Repr

/-- A number that has been read in part; digits are listed last one first. -/
structure PartialNumber where
  part : NumberPart
  negative : Bool
  whole : List Char
  fraction : List Char
  below : Bool
  exponent : List Char
  deriving DecidableEq, Repr

/-- What the lexer is in the middle of. -/
inductive LexState
  /-- Between tokens. -/
  | between
  /-- In a word of which these bytes have to follow. -/
  | word (rest : List UInt8) (token : Token)
  /-- In a number. -/
  | number (n : PartialNumber)
  /-- In a string with these bytes so far, last one first. -/
  | string (done : List UInt8)
  /-- After a backslash in a string. -/
  | escape (done : List UInt8)
  /-- In a string, with this many hexadecimal digits of an escape still to come. -/
  | hex (left : Nat) (done : List UInt8)
  /-- After a fault. -/
  | stopped
  deriving DecidableEq, Repr

/-- The state of the lexer and the tokens read, last one first. -/
structure Lexer where
  state : LexState
  done : List Token
  deriving Repr

/-- The blanks of JSON text. -/
def isSpace (byte : UInt8) : Bool :=
  byte == 0x20 || byte == 0x0a || byte == 0x0d || byte == 0x09

/-- Whether a byte is an ASCII digit. -/
def isDigit (byte : UInt8) : Bool :=
  0x30 ≤ byte && byte ≤ 0x39

/-- Whether a byte is an ASCII hexadecimal digit. -/
def isHexDigit (byte : UInt8) : Bool :=
  isDigit byte || (0x41 ≤ byte && byte ≤ 0x46) || (0x61 ≤ byte && byte ≤ 0x66)

/-- Whether a backslash and this letter are an escape by themselves. -/
def isEscapeLetter (byte : UInt8) : Bool :=
  (simpleEscape byte).isSome

/-- The bytes of ASCII characters. -/
def asciiBytes (cs : List Char) : List UInt8 :=
  cs.map fun c => UInt8.ofNat c.toNat

/-- The character of an ASCII byte. -/
def charOf (byte : UInt8) : Char :=
  Char.ofNat byte.toNat

/-- A number whose first byte is the sign, a zero or another digit. -/
def PartialNumber.start (byte : UInt8) : PartialNumber :=
  if byte = 0x2d then ⟨.sign, true, [], [], false, []⟩
  else if byte = 0x30 then ⟨.zero, false, ['0'], [], false, []⟩
  else ⟨.whole, false, [charOf byte], [], false, []⟩

/-- What a byte does to a number: it goes on, it is refused, or it stands after the end. -/
inductive NumberStep
  | more (n : PartialNumber)
  | refused
  | ended
  deriving DecidableEq, Repr

/-- Reads a byte after the digits behind the point, or in place of a point. -/
def PartialNumber.afterFraction (n : PartialNumber) (byte : UInt8) : NumberStep :=
  if byte = 0x65 ∨ byte = 0x45 then .more { n with part := .exponentMark } else .ended

/-- Reads a byte after the digits in front of the point. -/
def PartialNumber.afterDigits (n : PartialNumber) (byte : UInt8) : NumberStep :=
  if byte = 0x2e then .more { n with part := .point } else n.afterFraction byte

/-- Reads one byte in or after a number. -/
def PartialNumber.step (n : PartialNumber) (byte : UInt8) : NumberStep :=
  let digit := charOf byte
  match n.part with
  | .sign =>
    if byte = 0x30 then .more { n with part := .zero, whole := ['0'] }
    else if isDigit byte then .more { n with part := .whole, whole := [digit] }
    else .refused
  | .zero =>
    if isDigit byte then .refused else n.afterDigits byte
  | .whole =>
    if isDigit byte then .more { n with whole := digit :: n.whole } else n.afterDigits byte
  | .point =>
    if isDigit byte then .more { n with part := .fraction, fraction := [digit] } else .refused
  | .fraction =>
    if isDigit byte then .more { n with fraction := digit :: n.fraction }
    else n.afterFraction byte
  | .exponentMark =>
    if byte = 0x2b then .more { n with part := .exponentSign }
    else if byte = 0x2d then .more { n with part := .exponentSign, below := true }
    else if isDigit byte then .more { n with part := .exponent, exponent := [digit] }
    else .refused
  | .exponentSign =>
    if isDigit byte then .more { n with part := .exponent, exponent := [digit] } else .refused
  | .exponent =>
    if isDigit byte then .more { n with exponent := digit :: n.exponent } else .ended

/-- The literal of a number that may end here. -/
def PartialNumber.literal? (n : PartialNumber) : Option Literal :=
  match n.part with
  | .zero | .whole => some ⟨n.negative, n.whole.reverse, none, none⟩
  | .fraction => some ⟨n.negative, n.whole.reverse, some n.fraction.reverse, none⟩
  | .exponent =>
    let fraction := if n.fraction = [] then none else some n.fraction.reverse
    some ⟨n.negative, n.whole.reverse, fraction, some (n.below, n.exponent.reverse)⟩
  | _ => none

/-- Takes the lexer to a state without a new token. -/
def Lexer.go (l : Lexer) (state : LexState) : Lexer :=
  { l with state }

/-- Ends a token. -/
def Lexer.emit (l : Lexer) (token : Token) : Lexer :=
  ⟨.between, token :: l.done⟩

/-- Stops the lexer at a fault. -/
def Lexer.stop (l : Lexer) : Lexer :=
  ⟨.stopped, .fault :: l.done⟩

/-- Reads a byte between tokens. -/
def Lexer.start (l : Lexer) (byte : UInt8) : Lexer :=
  if isSpace byte then l.go .between
  else if byte = 0x22 then l.go (.string [])
  else if byte = 0x7b then l.emit .openObject
  else if byte = 0x7d then l.emit .closeObject
  else if byte = 0x5b then l.emit .openArray
  else if byte = 0x5d then l.emit .closeArray
  else if byte = 0x2c then l.emit .comma
  else if byte = 0x3a then l.emit .colon
  else if byte = 0x6e then l.go (.word (asciiBytes ['u', 'l', 'l']) .null)
  else if byte = 0x74 then l.go (.word (asciiBytes ['r', 'u', 'e']) (.bool true))
  else if byte = 0x66 then l.go (.word (asciiBytes ['a', 'l', 's', 'e']) (.bool false))
  else if byte = 0x2d ∨ isDigit byte then l.go (.number (.start byte))
  else l.stop

/-- Ends a number if it may end here, and stops otherwise. -/
def Lexer.endNumber (l : Lexer) (n : PartialNumber) : Lexer :=
  match n.literal? with
  | some literal => l.emit (.number literal)
  | none => l.stop

/-- Reads one byte. -/
def Lexer.step (l : Lexer) (byte : UInt8) : Lexer :=
  match l.state with
  | .between => l.start byte
  | .word [] token => (l.emit token).start byte
  | .word [last] token => if byte = last then l.emit token else l.stop
  | .word (next :: rest) token => if byte = next then l.go (.word rest token) else l.stop
  | .number n =>
    match n.step byte with
    | .more m => l.go (.number m)
    | .refused => l.stop
    | .ended => (l.endNumber n).start byte
  | .string done =>
    if byte = 0x22 then l.emit (.string done.reverse)
    else if byte = 0x5c then l.go (.escape done)
    else if byte < 0x20 then l.stop
    else l.go (.string (byte :: done))
  | .escape done =>
    if byte = 0x75 then l.go (.hex 4 (byte :: 0x5c :: done))
    else if isEscapeLetter byte then l.go (.string (byte :: 0x5c :: done))
    else l.stop
  | .hex left done =>
    if isHexDigit byte then
      l.go (if left ≤ 1 then .string (byte :: done) else .hex (left - 1) (byte :: done))
    else l.stop
  | .stopped => l

/-- Ends the text: a number may end with it, any other token in progress is a fault. -/
def Lexer.finish (l : Lexer) : List Token :=
  match l.state with
  | .between | .stopped => l.done.reverse
  | .number n => (l.endNumber n).done.reverse
  | _ => l.stop.done.reverse

/-- The lexer in front of a text. -/
def Lexer.initial : Lexer := ⟨.between, []⟩

/-- The tokens of a text. -/
def tokenize (bytes : List UInt8) : List Token :=
  (bytes.foldl Lexer.step .initial).finish

end BeaconLight.Json
