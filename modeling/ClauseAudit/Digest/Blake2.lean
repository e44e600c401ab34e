import ClauseAudit.Digest.Sha256
import ClauseAudit.Digest.Sha512

/-!
# BLAKE2

Digests without a key, on 64-bit words with twelve rounds and on 32-bit words with ten. Both mix
sixteen working words with the message words in permuted order.
-/

namespace ClauseAudit.Digest.Blake2

/-- Orders in which the rounds take the message words. -/
def orders : List (List Nat) :=
  [[0, 1, 2, 3, 4, 5, 6, 7, 8, 9, 10, 11, 12, 13, 14, 15],
   [14, 10, 4, 8, 9, 15, 13, 6, 1, 12, 0, 2, 11, 7, 5, 3],
   [11, 8, 12, 0, 5, 2, 15, 13, 10, 14, 3, 6, 7, 1, 9, 4],
   [7, 9, 3, 1, 13, 12, 11, 14, 2, 6, 5, 10, 4, 0, 15, 8],
   [9, 0, 5, 7, 2, 4, 10, 15, 14, 1, 11, 12, 6, 8, 3, 13],
   [2, 12, 6, 10, 0, 11, 8, 3, 4, 13, 7, 5, 15, 14, 1, 9],
   [12, 5, 1, 15, 14, 13, 4, 10, 0, 7, 6, 3, 9, 2, 8, 11],
   [13, 11, 7, 14, 12, 1, 3, 9, 5, 0, 15, 4, 8, 6, 2, 10],
   [6, 15, 14, 9, 11, 3, 0, 8, 12, 2, 13, 7, 1, 4, 10, 5],
   [10, 2, 8, 4, 7, 6, 1, 5, 15, 11, 9, 14, 3, 12, 13, 0]]

/-- The four working words that each of the eight mixing steps of a round takes. -/
def quarters : List (List Nat) :=
  [[0, 4, 8, 12], [1, 5, 9, 13], [2, 6, 10, 14], [3, 7, 11, 15],
   [0, 5, 10, 15], [1, 6, 11, 12], [2, 7, 8, 13], [3, 4, 9, 14]]

/-- Word arithmetic of one form: sums are reduced, words are rotated to the right. -/
structure Words where
  bits : Nat
  rounds : Nat
  rotations : Nat × Nat × Nat × Nat
  start : List Nat

namespace Words

def add (w : Words) (a b : Nat) : Nat := (a + b) % Nat.pow 2 w.bits

def rotate (w : Words) (x n : Nat) : Nat := (x >>> n) ||| ((x <<< (w.bits - n)) % Nat.pow 2 w.bits)

def mix (w : Words) (v : Array Nat) (at_ : List Nat) (x y : Nat) : Array Nat :=
  match at_ with
  | [a, b, c, d] =>
    let (r1, r2, r3, r4) := w.rotations
    let va := w.add (w.add (v.getD a 0) (v.getD b 0)) x
    let vd := w.rotate (v.getD d 0 ^^^ va) r1
    let vc := w.add (v.getD c 0) vd
    let vb := w.rotate (v.getD b 0 ^^^ vc) r2
    let va := w.add (w.add va vb) y
    let vd := w.rotate (vd ^^^ va) r3
    let vc := w.add vc vd
    let vb := w.rotate (vb ^^^ vc) r4
    (((v.setIfInBounds a va).setIfInBounds b vb).setIfInBounds c vc).setIfInBounds d vd
  | _ => v

def round (w : Words) (message : Array Nat) (v : Array Nat) (i : Nat) : Array Nat :=
  let order := orders.getD (i % 10) []
  ((List.range 8).zip quarters).foldl (fun v step =>
    w.mix v step.2 (message.getD (order.getD (2 * step.1) 0) 0)
      (message.getD (order.getD (2 * step.1 + 1) 0) 0)) v

/-- Takes one block into the state. `count` bytes have been taken, with this block. -/
def compress (w : Words) (state message : List Nat) (count : Nat) (final : Bool) : List Nat :=
  let ones := Nat.pow 2 w.bits - 1
  let v := (state ++ w.start).toArray
  let v := v.modify 12 (· ^^^ (count % Nat.pow 2 w.bits))
  let v := v.modify 13 (· ^^^ (count / Nat.pow 2 w.bits))
  let v := if final then v.modify 14 (· ^^^ ones) else v
  let v := (List.range w.rounds).foldl (w.round message.toArray) v
  (List.range 8).map fun i => state.getD i 0 ^^^ v.getD i 0 ^^^ v.getD (i + 8) 0

/-- The numbers of a block, filled with zeros. -/
def numbers (w : Words) (block : List UInt8) : List Nat :=
  let size := w.bits / 8
  (chunks size (block ++ List.replicate (16 * size - block.length) 0)).map littleNumber

/-- Takes all blocks; the last one is marked. -/
def absorb (w : Words) (state : List Nat) (count : Nat) : List (List UInt8) → List Nat
  | [] => state
  | [block] => w.compress state (w.numbers block) (count + block.length) true
  | block :: rest =>
    w.absorb (w.compress state (w.numbers block) (count + block.length) false)
      (count + block.length) rest

def digest (w : Words) (message : List UInt8) : List UInt8 :=
  let size := w.bits / 8
  let state := w.start.modify 0 (· ^^^ (0x01010000 + 8 * size))
  let blocks := if message.isEmpty then [[]] else chunks (16 * size) message
  (w.absorb state 0 blocks).flatMap (littleEndian size)

end Words

def blake2b : List UInt8 → List UInt8 :=
  Words.digest ⟨64, 12, (32, 24, 16, 63), Sha512.start512.map (·.toNat)⟩

def blake2s : List UInt8 → List UInt8 :=
  Words.digest ⟨32, 10, (16, 12, 8, 7), Sha256.start256.map (·.toNat)⟩

end ClauseAudit.Digest.Blake2
