import BeaconLight.Json.Parser
import BeaconLight.Json.Printer
import BeaconLight.Record.Kind
import BeaconLight.Schema.Document
import BeaconLight.Schema.Ssz
import BeaconLight.Text.Utf8

/-!
# Versioned records

A `Versioned` record is a light client record together with the fork it belongs to, and the
fork decides the shape of its headers. The fork is given to `ofJson`, `parse` and `ofSsz`;
an event document names it. The first fork has no light client data and is refused before
anything else is looked at, except that an event has to name its fork and to have data.
-/

namespace BeaconLight

/-- A light client record of a kind with the fork it belongs to. -/
structure Versioned (kind : Kind) where
  fork : LightFork
  data : kind.Record fork.shape.Header
  deriving DecidableEq

namespace Versioned

variable {kind : Kind}

/-- Reads the record of a fork from the JSON value at a path. -/
def ofJson (kind : Kind) (fork : Fork) (value : Json) (path : String) :
  Except RecordError (Versioned kind) :=
  match fork.light? with
  | none => .error (.unsupportedFork fork)
  | some light => (Layout.ofJson (kind.Record light.shape.Header) value path).map (⟨light, ·⟩)

/-- Reads the record of a fork from a JSON text. -/
def parse (kind : Kind) (fork : Fork) (bytes : List UInt8) :
  Except RecordError (Versioned kind) :=
  if fork.light? = none then .error (.unsupportedFork fork)
  else
    match Json.parse bytes with
    | .error fault => .error (.malformed fault)
    | .ok value => ofJson kind fork value ""

/-- Reads a record from an event document, an object with the name of the fork as `version`
and the record as `data`. -/
def ofEvent (kind : Kind) (bytes : List UInt8) : Except RecordError (Versioned kind) := do
  let value ← (Json.parse bytes).mapError .malformed
  let document ← Section.ofJson value ""
  match ← document.required "version" with
  | .string text =>
    match Fork.parse? text with
    | none => throw (.unknownFork text)
    | some fork => ofJson kind fork (← document.required "data") "data"
  | _ => throw (.wrongType "version" "a string")

/-- Reads the record of a fork from its SSZ bytes. -/
def ofSsz (kind : Kind) (fork : Fork) (bytes : List UInt8) :
  Except RecordError (Versioned kind) :=
  match fork.light? with
  | none => .error (.unsupportedFork fork)
  | some light =>
    match Layout.decode (kind.Record light.shape.Header) bytes with
    | .ok data => .ok ⟨light, data⟩
    | .error e => .error (.badLayout kind.name e.message)

/-- The record as JSON, without its fork. -/
def toJson (x : Versioned kind) : Json :=
  Layout.toJson x.data

/-- The text that a record is shown as: its JSON, read as UTF-8. -/
def text (x : Versioned kind) : String :=
  Utf8.decodeLossy (Json.encode x.toJson)

/-- The record as SSZ bytes. -/
def toSsz (x : Versioned kind) : List UInt8 :=
  Layout.encode x.data

/-- The event document of a record: its fork and the record. -/
def envelope (x : Versioned kind) : Json :=
  .object [("version", .string x.fork.name), ("data", x.toJson)]

/-- The beacon block header that a record attests to. -/
def attestedBeacon (x : Versioned kind) : BeaconBlockHeader :=
  x.fork.shape.beacon (kind.attested x.data)

/-- The finalized beacon block header of a record, for the kinds that carry one. -/
def finalizedBeacon (x : Versioned kind) : Option BeaconBlockHeader :=
  (kind.finalized x.data).map x.fork.shape.beacon

end Versioned

end BeaconLight
