import BeaconLight.Hex
import BeaconLight.Node.Client

/-!
# Requests and replies on the wire

`Get.lines` is what is sent over a connection: the lines of a request that asks the node to
close the connection behind its reply.

`Reply.ofBytes?` reads all that came back: a line with the status, the headers, an empty line
and the body. The end of the body is marked in one of three ways. It comes in pieces with
their lengths in front, or a header gives its length, or it goes on to the end.
-/

namespace BeaconLight

/-- The lines of a request. -/
def Get.lines (get : Get) : List String := [
  "GET " ++ get.url.target ++ " HTTP/1.1",
  "Host: " ++ get.url.authority,
  "Accept: " ++ get.accept.accept,
  "Connection: close",
  ""]

/-- A request as it is sent. -/
def Get.text (get : Get) : String :=
  String.join (get.lines.map (· ++ "\r\n"))

namespace Wire

/-- The first line and what comes behind its end. -/
def cutLine? : List UInt8 → Option (List UInt8 × List UInt8)
  | 0x0d :: 0x0a :: rest => some ([], rest)
  | byte :: rest => (cutLine? rest).map fun (line, behind) => (byte :: line, behind)
  | [] => none

/-- What comes behind a line is shorter. -/
theorem length_of_cutLine? {bytes line behind : List UInt8}
    (h : cutLine? bytes = some (line, behind)) :
  behind.length < bytes.length
  := by
  induction bytes using cutLine?.induct generalizing line behind with
  | case1 rest =>
    simp only [cutLine?, Option.some.injEq, Prod.mk.injEq] at h
    obtain ⟨_, rfl⟩ := h
    simp only [List.length_cons]
    omega
  | case2 byte rest notEnd ih =>
    rw [cutLine?.eq_2 _ _ notEnd] at h
    obtain ⟨⟨line', behind'⟩, found, same⟩ := Option.map_eq_some_iff.1 h
    simp only [Prod.mk.injEq] at same
    obtain ⟨_, rfl⟩ := same
    have shorter := ih found
    simp only [List.length_cons]
    omega
  | case3 => simp [cutLine?] at h

/-- Bytes as the characters of their values. -/
def ofBytes (bytes : List UInt8) : String :=
  String.ofList (bytes.map fun byte => Char.ofNat byte.toNat)

/-- The status in the first line of a reply, which comes behind the first space. -/
def status? (line : List UInt8) : Option Nat :=
  Text.ofDecimal? (ofBytes ((line.dropWhile (· != 0x20)).drop 1 |>.takeWhile (· != 0x20)))

/-- The header on a line: its name, and its value behind a colon. -/
def header? (line : List UInt8) : Option (String × List UInt8) :=
  match line.dropWhile (· != 0x3a) with
  | _ :: value => some (ofBytes (line.takeWhile (· != 0x3a)), value)
  | [] => none

/-- The headers, and what comes behind the empty line that ends them. -/
def headers? (bytes : List UInt8) : Option (List (String × List UInt8) × List UInt8) :=
  match _ : cutLine? bytes with
  | none => none
  | some ([], behind) => some ([], behind)
  | some (line, behind) =>
    match header? line, headers? behind with
    | some header, some (headers, body) => some (header :: headers, body)
    | _, _ => none
termination_by bytes.length
decreasing_by exact length_of_cutLine? ‹_›

/-- The number that hexadecimal digits spell, which anything else may follow. -/
def size? (line : List UInt8) : Option Nat :=
  let digits := (ofBytes line).toList.map Hex.digitValue? |>.takeWhile Option.isSome
  if digits.isEmpty then none
  else some (digits.foldl (fun n digit => 16 * n + digit.getD 0) 0)

/-- A body that comes in pieces, the last of which is empty. -/
def pieces? (bytes : List UInt8) : Option (List UInt8) :=
  match _ : cutLine? bytes with
  | none => none
  | some (line, behind) =>
    match size? line with
    | none => none
    | some 0 => some []
    | some size =>
      if behind.length < size + 2 then none
      else (pieces? (behind.drop (size + 2))).map (behind.take size ++ ·)
termination_by bytes.length
decreasing_by
  have := length_of_cutLine? ‹cutLine? bytes = _›
  simp only [List.length_drop]
  omega

/-- The text of the first header of a name, in lower case. -/
def field? (headers : List (String × List UInt8)) (name : String) : Option String :=
  (headers.find? fun header => Text.equalsIgnoringCase header.1 name).bind
    fun header => (Reply.headerText? header.2).map Text.lower

/-- The body in what comes behind the headers. -/
def body? (headers : List (String × List UInt8)) (bytes : List UInt8) : Option (List UInt8) :=
  if field? headers "transfer-encoding" = some "chunked" then pieces? bytes
  else
    match field? headers "content-length" with
    | none => some bytes
    | some text => do
      let length ← Text.ofDecimal? text
      if bytes.length < length then none else some (bytes.take length)

end Wire

/-- The reply that a node sent before it closed the connection. -/
def Reply.ofBytes? (bytes : List UInt8) : Option Reply := do
  let (line, behind) ← Wire.cutLine? bytes
  let status ← Wire.status? line
  let (headers, rest) ← Wire.headers? behind
  if Status.hasBody status then return ⟨status, headers, ← Wire.body? headers rest⟩
  else return ⟨status, headers, []⟩

end BeaconLight
