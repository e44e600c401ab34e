import ClauseAudit.Digest.Bytes

/-!
# SHA-1

The compression function works on five 32-bit words and blocks of 64 bytes.
-/

namespace ClauseAudit.Digest.Sha1

def start : List UInt32 := [0x67452301, 0xEFCDAB89, 0x98BADCFE, 0x10325476, 0xC3D2E1F0]

def rotate (x : UInt32) (n : UInt32) : UInt32 := (x <<< n) ||| (x >>> (32 - n))

/-- The words of the schedule from the last sixteen on, which are given from the newest. -/
def extend : Nat → List UInt32 → List UInt32
  | 0, ws => ws
  | n + 1, ws =>
    let w (i : Nat) := ws.getD (i - 1) 0
    extend n (rotate (w 3 ^^^ w 8 ^^^ w 14 ^^^ w 16) 1 :: ws)

/-- The mixing function and the constant of a round. -/
def mix (i : Nat) (b c d : UInt32) : UInt32 :=
  match i / 20 with
  | 0 => ((b &&& c) ||| ((~~~b) &&& d)) + 0x5A827999
  | 1 => (b ^^^ c ^^^ d) + 0x6ED9EBA1
  | 2 => ((b &&& c) ||| (b &&& d) ||| (c &&& d)) + 0x8F1BBCDC
  | _ => (b ^^^ c ^^^ d) + 0xCA62C1D6

def round (v : List UInt32) (step : Nat × UInt32) : List UInt32 :=
  match v with
  | [a, b, c, d, e] => [rotate a 5 + mix step.1 b c d + e + step.2, a, rotate b 30, c, d]
  | v => v

def compress (state : List UInt32) (block : List UInt8) : List UInt32 :=
  let schedule := (extend 64 (bigWords32 block).reverse).reverse
  List.zipWith (· + ·) state (((List.range 80).zip schedule).foldl round state)

def sha1 (message : List UInt8) : List UInt8 :=
  let padded := message ++ padding 64 8 message.length ++ bigEndian 8 (8 * message.length)
  ((chunks 64 padded).foldl compress start).flatMap fun w => bigEndian 4 w.toNat

end ClauseAudit.Digest.Sha1
