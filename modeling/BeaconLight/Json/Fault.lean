import BeaconLight.Json.Parser

/-!
# Where a text stops being JSON

`Json.parse` reads a text and says what is wrong with one that is not JSON: a `Fault` is the
first thing that cannot be, and the line and column right behind it.

`Fault.find?` reads the text byte by byte. `Scan` is what may come next, together with the
arrays and objects that are open.
-/

namespace BeaconLight.Json

/-- What is wrong with a text. -/
inductive FaultKind
  | endsInArray
  | endsInObject
  | endsInString
  | endsInValue
  | noColon
  | noArrayComma
  | noObjectComma
  | badWord
  | noValue
  | badEscape
  | badNumber
  /-- A number is out of the range of doubles. -/
  | outOfRange
  /-- A string is not UTF-8. -/
  | badCharacter
  | control
  | nameWithoutQuotes
  /-- A surrogate stands where it cannot. -/
  | loneSurrogate
  /-- A high surrogate is followed by something else than an escape. -/
  | halfSurrogate
  | commaAtEnd
  | textBehind
  | tooDeep
  deriving DecidableEq, Repr

/-- The wording of what is wrong with a text. -/
def FaultKind.message : FaultKind → String
  | .endsInArray => "EOF while parsing a list"
  | .endsInObject => "EOF while parsing an object"
  | .endsInString => "EOF while parsing a string"
  | .endsInValue => "EOF while parsing a value"
  | .noColon => "expected `:`"
  | .noArrayComma => "expected `,` or `]`"
  | .noObjectComma => "expected `,` or `\x7d`"
  | .badWord => "expected ident"
  | .noValue => "expected value"
  | .badEscape => "invalid escape"
  | .badNumber => "invalid number"
  | .outOfRange => "number out of range"
  | .badCharacter => "invalid unicode code point"
  | .control => "control character (\\u0000-\\u001F) found while parsing a string"
  | .nameWithoutQuotes => "key must be a string"
  | .loneSurrogate => "lone leading surrogate in hex escape"
  | .halfSurrogate => "unexpected end of hex escape"
  | .commaAtEnd => "trailing comma"
  | .textBehind => "trailing characters"
  | .tooDeep => "recursion limit exceeded"

/-- A place in a text: the number of the line, and how many bytes of it come before. -/
structure Position where
  line : Nat
  column : Nat
  deriving DecidableEq, Repr

/-- The start of a text. -/
def Position.start : Position := ⟨1, 0⟩

/-- The place behind a byte. -/
def Position.advance (p : Position) (byte : UInt8) : Position :=
  if byte = 0x0a then ⟨p.line + 1, 0⟩ else { p with column := p.column + 1 }

/-- What is wrong with a text, and where. -/
structure Fault where
  kind : FaultKind
  place : Position
  deriving DecidableEq, Repr

/-- The wording of a fault. -/
def Fault.message (f : Fault) : String :=
  f.kind.message ++ " at line " ++ Text.decimal f.place.line ++ " column "
    ++ Text.decimal f.place.column

/-- An open array or object. -/
inductive Enclosure
  | array
  | object
  deriving DecidableEq, Repr

/-- What comes behind the backslash of an escape in a string. -/
inductive Escape
  /-- A letter. -/
  | letter
  /-- Hexadecimal digits, of which some have come, behind a high surrogate if there is one. -/
  | digits (done : List UInt8) (high : Option Nat)
  /-- A backslash, and behind it a `u`, that continue a high surrogate. -/
  | backslash (high : Nat)
  | mark (high : Nat)
  deriving DecidableEq, Repr

/-- What may come next in a text. -/
inductive Scan
  | value
  /-- The first value of an array, or its end. -/
  | firstItem
  /-- A value behind a comma. -/
  | item
  /-- The first name of an object, or its end. -/
  | firstName
  /-- A name behind a comma. -/
  | name
  | colon
  /-- What follows a value. -/
  | next
  | word (rest : List UInt8)
  | number (n : PartialNumber)
  /-- The bytes of a name or another string, those that have come last one first. -/
  | string (isName : Bool) (done : List UInt8)
  | escape (isName : Bool) (done : List UInt8) (part : Escape)
  deriving DecidableEq, Repr

/-- How far a text has been read: what may come next, and what is open, innermost first. -/
structure Scanner where
  scan : Scan
  stack : List Enclosure
  deriving DecidableEq, Repr

/-- What a byte does: it goes on, or there is a fault in it, or in front of it. -/
inductive ScanStep
  | more (s : Scanner)
  | fault (kind : FaultKind)
  | faultBefore (kind : FaultKind)
  deriving DecidableEq, Repr

namespace Scanner

/-- Goes on with something else to come. -/
def go (s : Scanner) (scan : Scan) : ScanStep :=
  .more { s with scan }

/-- Opens an array or object. -/
def enter (s : Scanner) (enclosure : Enclosure) (scan : Scan) : ScanStep :=
  if s.stack.length < maxDepth then .more ⟨scan, enclosure :: s.stack⟩ else .fault .tooDeep

/-- Closes the innermost array or object. -/
def leave (s : Scanner) : ScanStep :=
  .more ⟨.next, s.stack.tail⟩

/-- Reads the first byte of a value. -/
def startValue (s : Scanner) (byte : UInt8) : ScanStep :=
  if byte = 0x22 then s.go (.string false [])
  else if byte = 0x5b then s.enter .array .firstItem
  else if byte = 0x7b then s.enter .object .firstName
  else if byte = 0x6e then s.go (.word (asciiBytes ['u', 'l', 'l']))
  else if byte = 0x74 then s.go (.word (asciiBytes ['r', 'u', 'e']))
  else if byte = 0x66 then s.go (.word (asciiBytes ['a', 'l', 's', 'e']))
  else if byte = 0x2d ∨ isDigit byte then s.go (.number (.start byte))
  else .fault .noValue

/-- Reads a byte behind a value. -/
def afterValue (s : Scanner) (byte : UInt8) : ScanStep :=
  if isSpace byte then s.go .next
  else
    match s.stack with
    | [] => .fault .textBehind
    | .array :: _ =>
      if byte = 0x2c then s.go .item
      else if byte = 0x5d then s.leave
      else .fault .noArrayComma
    | .object :: _ =>
      if byte = 0x2c then s.go .name
      else if byte = 0x7d then s.leave
      else .fault .noObjectComma

/-- A number is out of range by its exponent alone. -/
def hasHugeExponent (n : PartialNumber) : Bool :=
  n.part == .exponent && !n.below
    && exponentLimit ≤ Text.ofDigits n.exponent.reverse
    && (n.whole ++ n.fraction).any (· != '0')

/-- What is wrong with a number that ends, if anything is. -/
def numberFault? (n : PartialNumber) (unfinished : FaultKind) : Option FaultKind :=
  match n.literal? with
  | none => some unfinished
  | some literal => if literal.value?.isSome then none else some .outOfRange

/-- Reads a byte in or behind a number. -/
def stepNumber (s : Scanner) (n : PartialNumber) (byte : UInt8) : ScanStep :=
  match n.step byte with
  | .more m => if hasHugeExponent m then .fault .outOfRange else s.go (.number m)
  | .refused => .fault .badNumber
  | .ended =>
    match numberFault? n .badNumber with
    | some kind => .faultBefore kind
    | none => s.afterValue byte

/-- Reads a byte of a string. -/
def stepString (s : Scanner) (isName : Bool) (done : List UInt8) (byte : UInt8) : ScanStep :=
  if byte = 0x22 then
    if (readString done.reverse).isSome then s.go (if isName then .colon else .next)
    else .fault .badCharacter
  else if byte = 0x5c then s.go (.escape isName (byte :: done) .letter)
  else if byte < 0x20 then .fault .control
  else s.go (.string isName (byte :: done))

/-- Ends the hexadecimal digits of an escape. -/
def endDigits (s : Scanner) (isName : Bool) (done : List UInt8) (unit : Option Nat)
    (high : Option Nat) : ScanStep :=
  match unit, high with
  | none, _ => .fault .badEscape
  | some unit, none =>
    if isLowSurrogate unit then .fault .loneSurrogate
    else if isHighSurrogate unit then s.go (.escape isName done (.backslash unit))
    else s.go (.string isName done)
  | some unit, some _ =>
    if isLowSurrogate unit then s.go (.string isName done) else .fault .loneSurrogate

/-- Reads a byte of an escape. -/
def stepEscape (s : Scanner) (isName : Bool) (done : List UInt8) (part : Escape)
    (byte : UInt8) : ScanStep :=
  let done := byte :: done
  match part with
  | .letter =>
    if byte = 0x75 then s.go (.escape isName done (.digits [] none))
    else if isEscapeLetter byte then s.go (.string isName done)
    else .fault .badEscape
  | .digits [c, b, a] high => s.endDigits isName done (hexFour a b c byte) high
  | .digits digits high => s.go (.escape isName done (.digits (byte :: digits) high))
  | .backslash high =>
    if byte = 0x5c then s.go (.escape isName done (.mark high)) else .fault .halfSurrogate
  | .mark high =>
    if byte = 0x75 then s.go (.escape isName done (.digits [] (some high)))
    else .fault .halfSurrogate

/-- Reads one byte. -/
def step (s : Scanner) (byte : UInt8) : ScanStep :=
  match s.scan with
  | .value => if isSpace byte then .more s else s.startValue byte
  | .firstItem =>
    if isSpace byte then .more s else if byte = 0x5d then s.leave else s.startValue byte
  | .item =>
    if isSpace byte then .more s
    else if byte = 0x5d then .fault .commaAtEnd
    else s.startValue byte
  | .firstName =>
    if isSpace byte then .more s
    else if byte = 0x22 then s.go (.string true [])
    else if byte = 0x7d then s.leave
    else .fault .nameWithoutQuotes
  | .name =>
    if isSpace byte then .more s
    else if byte = 0x22 then s.go (.string true [])
    else if byte = 0x7d then .fault .commaAtEnd
    else .fault .nameWithoutQuotes
  | .colon =>
    if isSpace byte then .more s
    else if byte = 0x3a then s.go .value
    else .fault .noColon
  | .next => s.afterValue byte
  | .word [] => s.afterValue byte
  | .word [last] => if byte = last then s.go .next else .fault .badWord
  | .word (next :: rest) => if byte = next then s.go (.word rest) else .fault .badWord
  | .number n => s.stepNumber n byte
  | .string isName done => s.stepString isName done byte
  | .escape isName done part => s.stepEscape isName done part byte

/-- What is wrong with a text that ends behind a value, if anything is. -/
def openFault? (s : Scanner) : Option FaultKind :=
  match s.stack with
  | [] => none
  | .array :: _ => some .endsInArray
  | .object :: _ => some .endsInObject

/-- What is wrong with a text that ends here, if anything is. -/
def endFault? (s : Scanner) : Option FaultKind :=
  match s.scan with
  | .value | .item | .name | .word _ => some .endsInValue
  | .firstItem => some .endsInArray
  | .firstName | .colon => some .endsInObject
  | .next => s.openFault?
  | .number n => numberFault? n .endsInValue <|> s.openFault?
  | .string .. | .escape .. => some .endsInString

end Scanner

/-- The first fault in the rest of a text. -/
def Fault.findFrom? (p : Position) (s : Scanner) : List UInt8 → Option Fault
  | [] => s.endFault?.map (⟨·, p⟩)
  | byte :: rest =>
    match s.step byte with
    | .more s => findFrom? (p.advance byte) s rest
    | .fault kind => some ⟨kind, p.advance byte⟩
    | .faultBefore kind => some ⟨kind, p⟩

/-- The first fault in a text. -/
def Fault.find? (bytes : List UInt8) : Option Fault :=
  findFrom? .start ⟨.value, []⟩ bytes

/-- The place behind a text. -/
def Position.behind (bytes : List UInt8) : Position :=
  bytes.foldl Position.advance .start

/-- The value of a JSON text, or what is wrong with the text. -/
def parse (bytes : List UInt8) : Except Fault Json :=
  match parse? bytes with
  | some value => .ok value
  | none => .error ((Fault.find? bytes).getD ⟨.endsInValue, .behind bytes⟩)

end BeaconLight.Json
