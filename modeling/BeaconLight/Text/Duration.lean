import BeaconLight.Text.Digits

/-!
# Durations

A duration in milliseconds shows in seconds from one second on, with as many decimal places
as it needs, and in milliseconds below that. No time at all shows in nanoseconds.
-/

namespace BeaconLight.Text

/-- The thousandths of a second as decimal places, without zeros at the end. -/
def thousandths (n : Nat) : List Char :=
  let places := [n / 100 % 10, n / 10 % 10, n % 10].map fun d => Char.ofNat ('0'.toNat + d)
  (places.reverse.dropWhile (· == '0')).reverse

/-- The text of a duration in milliseconds. -/
def duration (ms : Nat) : String :=
  if ms = 0 then "0ns"
  else if ms < 1000 then decimal ms ++ "ms"
  else
    match thousandths (ms % 1000) with
    | [] => decimal (ms / 1000) ++ "s"
    | places => decimal (ms / 1000) ++ "." ++ String.ofList places ++ "s"

end BeaconLight.Text
