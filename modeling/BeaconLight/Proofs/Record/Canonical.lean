import BeaconLight.Proofs.Record.Fault
import BeaconLight.Proofs.Schema.Canonical
import BeaconLight.Proofs.Schema.Spelling

/-!
# The canonical text of records

What a record is written as is the canonical text of any JSON value that it is read from, and
what is lost is the spelling alone: JSON values that differ in nothing else are read as the same
record, or neither is read.
-/

namespace BeaconLight

/-- The schema of the records of a kind at a fork. -/
abbrev Kind.schema (kind : Kind) (fork : LightFork) : Schema :=
  Layout.schema (kind.Record fork.shape.Header)

namespace Versioned

variable {kind : Kind}

theorem hasPlainNames (kind : Kind) (shape : Shape) :
  (Layout.schema (kind.Record shape.Header)).hasPlainNames = true
  := by
  cases kind
  all_goals
    cases shape
    all_goals decide

/-- A record is written as the canonical text of what it is read from. -/
theorem encode_of_ofJson {fork : Fork} {json : Json} {path : String} {x : Versioned kind}
    (h : ofJson kind fork json path = .ok x) :
  Json.encode x.toJson = Utf8.encode ((kind.schema x.fork).canonicalChars json)
  := by
  obtain ⟨-, hx⟩ := ofJson_eq_ok_iff.mp h
  exact congrArg Utf8.encode (Schema.chars_toJson _ (hasPlainNames kind x.fork.shape) _ hx)

/-- JSON values that differ in spelling alone are read as the same record, or neither is. -/
theorem toOption_ofJson_of_respells {fork : Fork} {json json' : Json} (path : String)
    (h : ∀ light, fork.light? = some light → (kind.schema light).Respells json json') :
  (ofJson kind fork json path).toOption = (ofJson kind fork json' path).toOption
  := by
  apply Except.toOption_eq_of_eq_ok_iff
  intro x
  rw [ofJson_eq_ok_iff, ofJson_eq_ok_iff]
  apply and_congr_right
  intro hfork
  exact Schema.denotes_iff_of_respells _ (h x.fork (Fork.light?_eq_some_iff.mpr hfork)) _

/-- Writing what was read makes the text canonical, and only the spelling is lost. A record that
is read from a JSON value is written as the canonical text of that value; and JSON values that
differ in spelling alone, whether they are read or not, are read as the same record or not at
all. -/
theorem encode_canonical_and_spelling_lost (kind : Kind) (fork : Fork) (path : String) :
  (∀ json x, ofJson kind fork json path = .ok x →
    Json.encode x.toJson = Utf8.encode ((kind.schema x.fork).canonicalChars json)) ∧
  (∀ json json',
    (∀ light, fork.light? = some light → (kind.schema light).Respells json json') →
    (ofJson kind fork json path).toOption = (ofJson kind fork json' path).toOption)
  := by
  constructor
  · intro json x h
    apply encode_of_ofJson h
  · intro json json' h
    apply toOption_ofJson_of_respells path h

/-- The optimistic update of capella whose bytes are all zero. -/
def zeroCapella : Versioned .optimisticUpdate :=
  let beacon : BeaconBlockHeader := ⟨0, 0, zeros 32, zeros 32, zeros 32⟩
  let payload : CapellaPayload :=
    ⟨zeros 32, zeros 20, zeros 32, zeros 32, zeros 256, zeros 32, 0, 0, 0, 0, ⟨[], Nat.zero_le _⟩,
      0, zeros 32, zeros 32, zeros 32⟩
  ⟨.capella, ⟨beacon, payload, ⟨List.replicate 4 (zeros 32), List.length_replicate⟩⟩,
    ⟨zeros 64, zeros 96⟩, 0⟩

/-- The place of its fee recipient. -/
def feeRecipient : zeroCapella.Place :=
  .inside .here (.inside (.there .here) (.field (.there .here)))

/-- A fee recipient in lower case is read, and is written with the case of its checksum. -/
example :
  let address : List UInt8 :=
    [0x58, 0xe8, 0x09, 0xc7, 0x1e, 0x48, 0x85, 0xcb, 0x7b, 0x3f, 0x1d, 0x5c, 0x79, 0x3a, 0xb0,
      0x4e, 0xd2, 0x39, 0xd7, 0x79]
  let recipient : feeRecipient.Component := (⟨address, rfl⟩ : Bytes 20)
  let put (text : String) : Json := feeRecipient.put (some (.string text)) zeroCapella.toJson
  ofJson .optimisticUpdate .capella (put "0x58e809c71e4885cb7b3f1d5c793ab04ed239d779") ""
    = .ok (zeroCapella.setAt feeRecipient recipient) ∧
  (zeroCapella.setAt feeRecipient recipient).toJson
    = put "0x58E809C71e4885cB7B3f1D5c793AB04eD239d779"
  := by
  intro address recipient put
  constructor
  · have hread : feeRecipient.read
        (some (.string "0x58e809c71e4885cb7b3f1d5c793ab04ed239d779")) "" = .ok recipient := rfl
    apply (ofJson_put (ofJson_toJson zeroCapella "") feeRecipient (.inl rfl)).trans
    rw [hread]
    rfl
  · have hchecksum : Address.checksummed address
        = "0x58E809C71e4885cB7B3f1D5c793AB04eD239d779" := by decide +kernel
    have htext : feeRecipient.toJson recipient
        = .string "0x58E809C71e4885cB7B3f1D5c793AB04eD239d779" := congrArg Json.string hchecksum
    apply (toJson_setAt zeroCapella feeRecipient recipient).trans
    rw [htext]

end Versioned

end BeaconLight
