import ClauseAudit.Digest.Bytes

/-!
# SM3

The compression function works on eight 32-bit words and blocks of 64 bytes, all big-endian. A
round takes a word of the schedule and the difference of two.
-/

namespace ClauseAudit.Digest.Sm3

def start : List UInt32 :=
  [0x7380166F, 0x4914B2B9, 0x172442D7, 0xDA8A0600, 0xA96F30BC, 0x163138AA, 0xE38DEE4D, 0xB0FB0E4E]

def rotate (x : UInt32) (n : UInt32) : UInt32 :=
  if n == 0 then x else (x <<< n) ||| (x >>> (32 - n))

/-- The permutation inside the rounds. -/
def spread (x : UInt32) : UInt32 := x ^^^ rotate x 9 ^^^ rotate x 17

/-- The permutation inside the schedule. -/
def scatter (x : UInt32) : UInt32 := x ^^^ rotate x 15 ^^^ rotate x 23

/-- The words of the schedule from the last sixteen on, which are given from the newest. -/
def extend : Nat → List UInt32 → List UInt32
  | 0, ws => ws
  | n + 1, ws =>
    let w (i : Nat) := ws.getD (i - 1) 0
    extend n ((scatter (w 16 ^^^ w 9 ^^^ rotate (w 3) 15) ^^^ rotate (w 13) 7 ^^^ w 6) :: ws)

/-- The mixing functions on the first and the second half of the working words. -/
def mix (i : Nat) (a b c e f g : UInt32) : UInt32 × UInt32 :=
  if i < 16 then (a ^^^ b ^^^ c, e ^^^ f ^^^ g)
  else ((a &&& b) ||| (a &&& c) ||| (b &&& c), (e &&& f) ||| ((~~~e) &&& g))

/-- The constant of a round before it is rotated. -/
def constant (i : Nat) : UInt32 := if i < 16 then 0x79CC4519 else 0x7A879D8A

def round (schedule : List UInt32) (v : List UInt32) (i : Nat) : List UInt32 :=
  match v with
  | [a, b, c, d, e, f, g, h] =>
    let word := schedule.getD i 0
    let turned := rotate a 12
    let s1 := rotate (turned + e + rotate (constant i) (UInt32.ofNat (i % 32))) 7
    let (m, n) := mix i a b c e f g
    let t1 := m + d + (s1 ^^^ turned) + (word ^^^ schedule.getD (i + 4) 0)
    let t2 := n + h + s1 + word
    [t1, a, rotate b 9, c, spread t2, e, rotate f 19, g]
  | v => v

def compress (state : List UInt32) (block : List UInt8) : List UInt32 :=
  let schedule := (extend 52 (bigWords32 block).reverse).reverse
  List.zipWith (· ^^^ ·) state ((List.range 64).foldl (round schedule) state)

def sm3 (message : List UInt8) : List UInt8 :=
  let padded := message ++ padding 64 8 message.length ++ bigEndian 8 (8 * message.length)
  ((chunks 64 padded).foldl compress start).flatMap fun w => bigEndian 4 w.toNat

end ClauseAudit.Digest.Sm3
