import ClauseAudit.Digest.Bytes

/-!
# SHA-256 and SHA-224

The compression function works on eight 32-bit words and blocks of 64 bytes. SHA-224 starts from
other words and gives the first seven of the result.
-/

namespace ClauseAudit.Digest.Sha256

/-- Fractional parts of the cube roots of the first 64 primes. -/
def roundConstants : List UInt32 :=
   [0x428A2F98, 0x71374491, 0xB5C0FBCF, 0xE9B5DBA5, 0x3956C25B, 0x59F111F1, 0x923F82A4,
    0xAB1C5ED5, 0xD807AA98, 0x12835B01, 0x243185BE, 0x550C7DC3, 0x72BE5D74, 0x80DEB1FE,
    0x9BDC06A7, 0xC19BF174, 0xE49B69C1, 0xEFBE4786, 0x0FC19DC6, 0x240CA1CC, 0x2DE92C6F,
    0x4A7484AA, 0x5CB0A9DC, 0x76F988DA, 0x983E5152, 0xA831C66D, 0xB00327C8, 0xBF597FC7,
    0xC6E00BF3, 0xD5A79147, 0x06CA6351, 0x14292967, 0x27B70A85, 0x2E1B2138, 0x4D2C6DFC,
    0x53380D13, 0x650A7354, 0x766A0ABB, 0x81C2C92E, 0x92722C85, 0xA2BFE8A1, 0xA81A664B,
    0xC24B8B70, 0xC76C51A3, 0xD192E819, 0xD6990624, 0xF40E3585, 0x106AA070, 0x19A4C116,
    0x1E376C08, 0x2748774C, 0x34B0BCB5, 0x391C0CB3, 0x4ED8AA4A, 0x5B9CCA4F, 0x682E6FF3,
    0x748F82EE, 0x78A5636F, 0x84C87814, 0x8CC70208, 0x90BEFFFA, 0xA4506CEB, 0xBEF9A3F7, 0xC67178F2]

/-- Fractional parts of the square roots of the first eight primes. -/
def start256 : List UInt32 :=
   [0x6A09E667, 0xBB67AE85, 0x3C6EF372, 0xA54FF53A, 0x510E527F, 0x9B05688C, 0x1F83D9AB, 0x5BE0CD19]

/-- The low words of the fractional parts of the square roots of the next eight primes. -/
def start224 : List UInt32 :=
   [0xC1059ED8, 0x367CD507, 0x3070DD17, 0xF70E5939, 0xFFC00B31, 0x68581511, 0x64F98FA7, 0xBEFA4FA4]

def rotate (x : UInt32) (n : UInt32) : UInt32 := (x >>> n) ||| (x <<< (32 - n))

/-- The words of the schedule from the last sixteen on, which are given from the newest. -/
def extend : Nat → List UInt32 → List UInt32
  | 0, ws => ws
  | n + 1, ws =>
    let w (i : Nat) := ws.getD (i - 1) 0
    let s0 := rotate (w 15) 7 ^^^ rotate (w 15) 18 ^^^ (w 15 >>> 3)
    let s1 := rotate (w 2) 17 ^^^ rotate (w 2) 19 ^^^ (w 2 >>> 10)
    extend n ((w 16 + s0 + w 7 + s1) :: ws)

def round (v : List UInt32) (kw : UInt32) : List UInt32 :=
  match v with
  | [a, b, c, d, e, f, g, h] =>
    let s1 := rotate e 6 ^^^ rotate e 11 ^^^ rotate e 25
    let t1 := h + s1 + ((e &&& f) ^^^ ((~~~e) &&& g)) + kw
    let s0 := rotate a 2 ^^^ rotate a 13 ^^^ rotate a 22
    let t2 := s0 + ((a &&& b) ^^^ (a &&& c) ^^^ (b &&& c))
    [t1 + t2, a, b, c, d + t1, e, f, g]
  | v => v

def compress (state : List UInt32) (block : List UInt8) : List UInt32 :=
  let schedule := (extend 48 (bigWords32 block).reverse).reverse
  let v := (List.zipWith (· + ·) roundConstants schedule).foldl round state
  List.zipWith (· + ·) state v

def digest (start : List UInt32) (words : Nat) (message : List UInt8) : List UInt8 :=
  let padded := message ++ padding 64 8 message.length ++ bigEndian 8 (8 * message.length)
  (((chunks 64 padded).foldl compress start).take words).flatMap fun w => bigEndian 4 w.toNat

def sha256 : List UInt8 → List UInt8 := digest start256 8
def sha224 : List UInt8 → List UInt8 := digest start224 7

end ClauseAudit.Digest.Sha256
