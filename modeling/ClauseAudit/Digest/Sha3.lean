import ClauseAudit.Digest.Bytes

/-!
# SHA-3

A sponge over a permutation of twenty-five 64-bit lanes. Lane `(x, y)` is kept at index
`x + 5 * y`.
-/

namespace ClauseAudit.Digest.Sha3

def rotate (x : UInt64) (n : Nat) : UInt64 :=
  if n = 0 then x else (x <<< UInt64.ofNat n) ||| (x >>> UInt64.ofNat (64 - n))

/-- Bits of a shift register with taps 8, 6, 5 and 4, which the round constants are made of. -/
def registerBit : Nat → Nat → Bool
  | 0, state => state % 2 == 1
  | n + 1, state =>
    let shifted := state * 2
    registerBit n (if 256 ≤ shifted then (shifted - 256) ^^^ 0x71 else shifted)

/-- The constant of a round: seven register bits at positions below powers of two. -/
def roundConstant (round : Nat) : UInt64 :=
  (List.range 7).foldl (fun c j =>
    if registerBit ((7 * round + j) % 255) 1 then c ||| ((1 : UInt64) <<< UInt64.ofNat (Nat.pow 2 j - 1))
    else c) 0

def distances : List Nat :=
  [0, 1, 62, 28, 27, 36, 44, 6, 55, 20, 3, 10, 43, 25, 39, 41, 45, 15, 21, 8, 18, 2, 61, 56, 14]

def roundConstants : List UInt64 := (List.range 24).map roundConstant

/-- Builds lanes from their coordinates. -/
def lanes (f : Nat → Nat → UInt64) : Array UInt64 :=
  ((List.range 25).map fun i => f (i % 5) (i / 5)).toArray

def lane (a : Array UInt64) (x y : Nat) : UInt64 := a.getD (x % 5 + 5 * (y % 5)) 0

/-- One round of the permutation. -/
def round (a : Array UInt64) (constant : UInt64) : Array UInt64 :=
  let columns := ((List.range 5).map fun x =>
    lane a x 0 ^^^ lane a x 1 ^^^ lane a x 2 ^^^ lane a x 3 ^^^ lane a x 4).toArray
  let parity (x : Nat) := columns.getD (x % 5) 0
  let a := lanes fun x y => lane a x y ^^^ parity (x + 4) ^^^ rotate (parity (x + 1)) 1
  let a := lanes fun x y =>
    let from_x := (x + 3 * y) % 5
    rotate (lane a from_x x) (distances.getD (from_x + 5 * x) 0)
  let a := lanes fun x y => lane a x y ^^^ ((~~~(lane a (x + 1) y)) &&& lane a (x + 2) y)
  a.setIfInBounds 0 (lane a 0 0 ^^^ constant)

def permute (a : Array UInt64) : Array UInt64 := roundConstants.foldl round a

def absorb (a : Array UInt64) (block : List UInt8) : Array UInt64 :=
  let words := (littleWords64 block).toArray
  permute (lanes fun x y => lane a x y ^^^ words.getD (x + 5 * y) 0)

/-- The message with its domain bits and the last bit of the last block. -/
def padded (rate : Nat) (message : List UInt8) : List UInt8 :=
  let zeros := rate - 1 - message.length % rate
  if zeros = 0 then message ++ [0x86]
  else message ++ [0x06] ++ List.replicate (zeros - 1) 0 ++ [0x80]

def digest (bytes : Nat) (message : List UInt8) : List UInt8 :=
  let rate := 200 - 2 * bytes
  let a := (chunks rate (padded rate message)).foldl absorb (Array.replicate 25 0)
  (a.toList.flatMap fun w => littleEndian 8 w.toNat).take bytes

end ClauseAudit.Digest.Sha3
