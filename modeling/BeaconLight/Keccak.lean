/-!
# Keccak-256

The sponge with a rate of 136 bytes over the permutation of 25 lanes of 64 bits, with the
padding that ends a message in `0x01` and the block in `0x80`. Lanes are listed row by row:
the lane in column `x` and row `y` has index `x + 5 * y`.
-/

namespace BeaconLight.Keccak

/-- The lanes of the sponge, 25 of them. -/
abbrev State : Type := Array UInt64

/-- A lane; one outside the state is zero. -/
def State.lane (s : State) (i : Nat) : UInt64 :=
  s.getD i 0

/-- A word turned left by `n` bits. -/
def rotate (word : UInt64) (n : Nat) : UInt64 :=
  if n = 0 then word
  else (word <<< UInt64.ofNat n) ||| (word >>> UInt64.ofNat (64 - n))

/-- How far each lane is turned. -/
def offsets : Array Nat :=
  #[0, 1, 62, 28, 27, 36, 44, 6, 55, 20, 3, 10, 43, 25, 39, 41, 45, 15, 21, 8, 18, 2, 61, 56, 14]

/-- The constant of each of the 24 rounds. -/
def roundConstants : List UInt64 :=
  [0x0000000000000001, 0x0000000000008082, 0x800000000000808a, 0x8000000080008000,
   0x000000000000808b, 0x0000000080000001, 0x8000000080008081, 0x8000000000008009,
   0x000000000000008a, 0x0000000000000088, 0x0000000080008009, 0x000000008000000a,
   0x000000008000808b, 0x800000000000008b, 0x8000000000008089, 0x8000000000008003,
   0x8000000000008002, 0x8000000000000080, 0x000000000000800a, 0x800000008000000a,
   0x8000000080008081, 0x8000000000008080, 0x0000000080000001, 0x8000000080008008]

/-- Adds to each lane the parity of the two columns beside it. -/
def theta (s : State) : State :=
  let parity (x : Nat) : UInt64 :=
    s.lane x ^^^ s.lane (x + 5) ^^^ s.lane (x + 10) ^^^ s.lane (x + 15) ^^^ s.lane (x + 20)
  let columns := Array.ofFn fun x : Fin 5 => parity x
  Array.ofFn fun i : Fin 25 =>
    s.lane i ^^^ columns.getD ((i + 4) % 5) 0 ^^^ rotate (columns.getD ((i + 1) % 5) 0) 1

/-- Turns each lane and moves it: the lane that ends in column `x` and row `y` comes from
column `x + 3 * y` and row `x`. -/
def rhoPi (s : State) : State :=
  Array.ofFn fun i : Fin 25 =>
    let x := i.val % 5
    let y := i.val / 5
    let source := (x + 3 * y) % 5 + 5 * x
    rotate (s.lane source) (offsets.getD source 0)

/-- Combines each lane with the two to its right in the same row. -/
def chi (s : State) : State :=
  Array.ofFn fun i : Fin 25 =>
    let row := 5 * (i.val / 5)
    s.lane i ^^^ ((s.lane (row + (i + 1) % 5)).complement &&& s.lane (row + (i + 2) % 5))

/-- One round of the permutation. -/
def round (s : State) (constant : UInt64) : State :=
  let t := chi (rhoPi (theta s))
  t.modify 0 (· ^^^ constant)

/-- The permutation of the state. -/
def permute (s : State) : State :=
  roundConstants.foldl round s

/-- The number of bytes that a block takes up. -/
def rate : Nat := 136

/-- The eight bytes from a position as a word, least significant first. -/
def word (bytes : List UInt8) : UInt64 :=
  (bytes.take 8).foldr (fun byte w => (w <<< 8) ||| byte.toUInt64) 0

/-- The words that bytes spell, `count` of them. -/
def words : Nat → List UInt8 → List UInt64
  | 0, _ => []
  | count + 1, bytes => word bytes :: words count (bytes.drop 8)

/-- A message with its padding, a whole number of blocks long. -/
def pad (message : List UInt8) : List UInt8 :=
  let free := rate - message.length % rate
  if free = 1 then message ++ [0x81]
  else message ++ [0x01] ++ List.replicate (free - 2) 0 ++ [0x80]

/-- Adds one block to the state and permutes it. -/
def absorb (s : State) (block : List UInt8) : State :=
  let input := (words (rate / 8) block).toArray
  permute (Array.ofFn fun i : Fin 25 => s.lane i ^^^ input.getD i 0)

/-- Adds `count` blocks to the state, one after another. -/
def absorbAll : Nat → State → List UInt8 → State
  | 0, s, _ => s
  | count + 1, s, bytes => absorbAll count (absorb s (bytes.take rate)) (bytes.drop rate)

/-- The eight bytes of a word, least significant first. -/
def wordBytes (w : UInt64) : List UInt8 :=
  (List.range 8).map fun i => (w >>> UInt64.ofNat (8 * i)).toUInt8

/-- The Keccak-256 digest of a message, 32 bytes. -/
def digest (message : List UInt8) : List UInt8 :=
  let padded := pad message
  let s := absorbAll (padded.length / rate) (Array.replicate 25 0) padded
  (List.range 4).flatMap fun i => wordBytes (s.lane i)

end BeaconLight.Keccak
