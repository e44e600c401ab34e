import ClauseAudit.Digest.Bytes

/-!
# RIPEMD-160

The compression function runs two lines of eighty rounds on five 32-bit words each and adds their
results crosswise to the state. Blocks have 64 bytes; all words are little-endian.
-/

namespace ClauseAudit.Digest.Ripemd160

def start : List UInt32 := [0x67452301, 0xEFCDAB89, 0x98BADCFE, 0x10325476, 0xC3D2E1F0]

/-- What the rounds of a line take: the constants of its five groups, and for every round the
message word and the rotation distance. -/
structure Line where
  constants : List UInt32
  words : List Nat
  rotations : List UInt32

def left : Line where
  constants := [0x00000000, 0x5A827999, 0x6ED9EBA1, 0x8F1BBCDC, 0xA953FD4E]
  words :=
   [0, 1, 2, 3, 4, 5, 6, 7, 8, 9, 10, 11, 12, 13, 14, 15,
    7, 4, 13, 1, 10, 6, 15, 3, 12, 0, 9, 5, 2, 14, 11, 8,
    3, 10, 14, 4, 9, 15, 8, 1, 2, 7, 0, 6, 13, 11, 5, 12,
    1, 9, 11, 10, 0, 8, 12, 4, 13, 3, 7, 15, 14, 5, 6, 2,
    4, 0, 5, 9, 7, 12, 2, 10, 14, 1, 3, 8, 11, 6, 15, 13]
  rotations :=
   [11, 14, 15, 12, 5, 8, 7, 9, 11, 13, 14, 15, 6, 7, 9, 8,
    7, 6, 8, 13, 11, 9, 7, 15, 7, 12, 15, 9, 11, 7, 13, 12,
    11, 13, 6, 7, 14, 9, 13, 15, 14, 8, 13, 6, 5, 12, 7, 5,
    11, 12, 14, 15, 14, 15, 9, 8, 9, 14, 5, 6, 8, 6, 5, 12,
    9, 15, 5, 11, 6, 8, 13, 12, 5, 12, 13, 14, 11, 8, 5, 6]

def right : Line where
  constants := [0x50A28BE6, 0x5C4DD124, 0x6D703EF3, 0x7A6D76E9, 0x00000000]
  words :=
   [5, 14, 7, 0, 9, 2, 11, 4, 13, 6, 15, 8, 1, 10, 3, 12,
    6, 11, 3, 7, 0, 13, 5, 10, 14, 15, 8, 12, 4, 9, 1, 2,
    15, 5, 1, 3, 7, 14, 6, 9, 11, 8, 12, 2, 10, 0, 4, 13,
    8, 6, 4, 1, 3, 11, 15, 0, 5, 12, 2, 13, 9, 7, 10, 14,
    12, 15, 10, 4, 1, 5, 8, 7, 6, 2, 13, 14, 0, 3, 9, 11]
  rotations :=
   [8, 9, 9, 11, 13, 15, 15, 5, 7, 7, 8, 11, 14, 14, 12, 6,
    9, 13, 15, 7, 12, 8, 9, 11, 7, 7, 12, 7, 6, 15, 13, 11,
    9, 7, 15, 11, 8, 6, 6, 14, 12, 13, 5, 14, 13, 13, 7, 5,
    15, 5, 8, 11, 14, 14, 6, 14, 6, 9, 12, 9, 12, 5, 15, 8,
    8, 5, 12, 9, 12, 5, 14, 6, 8, 13, 6, 5, 15, 13, 11, 11]

def rotate (x : UInt32) (n : UInt32) : UInt32 := (x <<< n) ||| (x >>> (32 - n))

/-- The mixing function of a group. -/
def mix (group : Nat) (b c d : UInt32) : UInt32 :=
  match group with
  | 0 => b ^^^ c ^^^ d
  | 1 => (b &&& c) ||| ((~~~b) &&& d)
  | 2 => (b ||| (~~~c)) ^^^ d
  | 3 => (b &&& d) ||| (c &&& (~~~d))
  | _ => b ^^^ (c ||| (~~~d))

/-- One round on the five working words; `group` names its mixing function. -/
def round (line : Line) (group : Nat → Nat) (words : List UInt32) (v : List UInt32) (i : Nat) :
    List UInt32 :=
  match v with
  | [a, b, c, d, e] =>
    let word := words.getD (line.words.getD i 0) 0
    let sum := a + mix (group (i / 16)) b c d + word + line.constants.getD (i / 16) 0
    [e, rotate sum (line.rotations.getD i 0) + e, b, rotate c 10, d]
  | v => v

def compress (state : List UInt32) (block : List UInt8) : List UInt32 :=
  let words := littleWords32 block
  let l := (List.range 80).foldl (round left id words) state
  let r := (List.range 80).foldl (round right (4 - ·) words) state
  let turned := fun (k : Nat) (v : List UInt32) => v.drop k ++ v.take k
  List.zipWith (· + ·) (List.zipWith (· + ·) (turned 1 state) (turned 2 l)) (turned 3 r)

def ripemd160 (message : List UInt8) : List UInt8 :=
  let padded := message ++ padding 64 8 message.length ++ littleEndian 8 (8 * message.length)
  ((chunks 64 padded).foldl compress start).flatMap fun w => littleEndian 4 w.toNat

end ClauseAudit.Digest.Ripemd160
