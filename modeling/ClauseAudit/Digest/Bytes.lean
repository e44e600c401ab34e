import ClauseAudit.Text.Letters

/-!
# Bytes and words

How messages are cut into words and blocks, and how words are written as bytes.
-/

namespace ClauseAudit.Digest

/-- The low bytes of a number, the most significant one first. -/
def bigEndian : Nat → Nat → List UInt8
  | 0, _ => []
  | count + 1, n => bigEndian count (n / 256) ++ [UInt8.ofNat (n % 256)]

/-- The low bytes of a number, the least significant one first. -/
def littleEndian (count n : Nat) : List UInt8 := (bigEndian count n).reverse

def bigNumber (bytes : List UInt8) : Nat := bytes.foldl (fun n b => n * 256 + b.toNat) 0

def littleNumber (bytes : List UInt8) : Nat := bigNumber bytes.reverse

/-- Pieces of a length, of which only the last may be shorter. -/
def chunksFrom (size : Nat) : Nat → List α → List (List α)
  | 0, _ => []
  | fuel + 1, xs =>
    if xs.isEmpty then [] else xs.take size :: chunksFrom size fuel (xs.drop size)

def chunks (size : Nat) (xs : List α) : List (List α) := chunksFrom size xs.length xs

def bigWords32 (bytes : List UInt8) : List UInt32 :=
  (chunks 4 bytes).map fun w => UInt32.ofNat (bigNumber w)

def bigWords64 (bytes : List UInt8) : List UInt64 :=
  (chunks 8 bytes).map fun w => UInt64.ofNat (bigNumber w)

def littleWords32 (bytes : List UInt8) : List UInt32 :=
  (chunks 4 bytes).map fun w => UInt32.ofNat (littleNumber w)

def littleWords64 (bytes : List UInt8) : List UInt64 :=
  (chunks 8 bytes).map fun w => UInt64.ofNat (littleNumber w)

/-- A one bit and zeros after a message of the given length, so that `room` bytes fill the last
block. -/
def padding (block room length : Nat) : List UInt8 :=
  0x80 :: List.replicate ((2 * block - (length + 1 + room) % block) % block) 0

/-- Bytes in hexadecimal notation. -/
def hex (bytes : List UInt8) : String :=
  String.ofList (bytes.flatMap fun b => Text.hexDigits 2 b.toNat)

end ClauseAudit.Digest
