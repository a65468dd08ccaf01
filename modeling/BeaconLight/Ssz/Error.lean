import BeaconLight.Text.Digits

/-!
# Errors of the SSZ layout

An `Ssz.Error` says how bytes fail to have the layout of a record.
-/

namespace BeaconLight.Ssz

/-- How bytes fail to have the layout of a record. -/
inductive Error
  /-- The input has `actual` bytes where `expected` are needed. -/
  | wrongLength (actual expected : Nat)
  /-- The input has `left` bytes where an offset of four bytes should be. -/
  | shortOffset (left : Nat)
  /-- The offset points past the input. -/
  | offsetBeyondInput (offset : Nat)
  /-- The offset is below the one in front of it. -/
  | offsetBelowPrevious (offset : Nat)
  /-- The first offset points in front of the end of the fixed part. -/
  | offsetInFixedPart (offset : Nat)
  /-- The first offset points behind the end of the fixed part. -/
  | offsetAfterFixedPart (offset : Nat)
  /-- A list has `actual` bytes where at most `limit` are allowed. -/
  | tooManyBytes (actual limit : Nat)
  deriving DecidableEq, Repr

/-- The wording of a layout error. -/
def Error.message : Error → String
  | .wrongLength actual expected =>
    "InvalidByteLength \x7b len: " ++ Text.decimal actual ++ ", expected: "
      ++ Text.decimal expected ++ " \x7d"
  | .shortOffset left =>
    "InvalidLengthPrefix \x7b len: " ++ Text.decimal left ++ ", expected: 4 \x7d"
  | .offsetBeyondInput offset => "OffsetOutOfBounds(" ++ Text.decimal offset ++ ")"
  | .offsetBelowPrevious offset => "OffsetsAreDecreasing(" ++ Text.decimal offset ++ ")"
  | .offsetInFixedPart offset => "OffsetIntoFixedPortion(" ++ Text.decimal offset ++ ")"
  | .offsetAfterFixedPart offset => "OffsetSkipsVariableBytes(" ++ Text.decimal offset ++ ")"
  | .tooManyBytes actual limit =>
    "BytesInvalid(\"VariableList of " ++ Text.decimal actual
      ++ " items exceeds maximum of " ++ Text.decimal limit ++ "\")"

end BeaconLight.Ssz
