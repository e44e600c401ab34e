import ClauseAudit.Text.DecompositionTable
import ClauseAudit.Text.Letters
import ClauseAudit.Text.MarkClassTable

/-!
# Decomposition of characters

Takes compatibility characters and letters with marks apart. Hangul syllables are taken apart by
rule, all others by the table. The marks of a letter are put in the order of their classes; marks of
one class keep the order in which they come.
-/

namespace ClauseAudit.Text

/-- The decompositions of the consecutive characters from `first` to `last`. The distance between
characters and their decompositions is the same throughout when `images` has one entry only. -/
structure DecompositionRun where
  first : Nat
  last : Nat
  images : List (List Nat)

namespace DecompositionRun

def code (digits : String) : Nat :=
  digits.toList.foldl (fun n d => n * 16 + (hexValue? d).getD 0) 0

def ofEntry? (entry : String) : Option DecompositionRun :=
  match entry.splitOn "=" with
  | [codes, images] =>
    let images := (images.splitOn "|").map fun image => (image.splitOn " ").map code
    match codes.splitOn "-" with
    | [first] => some ⟨code first, code first + images.length - 1, images⟩
    | [first, last] => some ⟨code first, code last, images⟩
    | _ => none
  | _ => none

/-- The decomposition of a character of the run. -/
def image (run : DecompositionRun) (c : Nat) : List Nat :=
  match run.images with
  | [image] => image.map (· + (c - run.first))
  | images => images.getD (c - run.first) [c]

end DecompositionRun

def decompositionRuns : List DecompositionRun :=
  (decompositionTable.splitOn ";").filterMap DecompositionRun.ofEntry?

/-- The leading consonant, vowel and trailing consonant of the Hangul syllable with an index. -/
def hangulParts (i : Nat) : List Nat :=
  [0x1100 + i / 588, 0x1161 + i / 28 % 21] ++ if i % 28 = 0 then [] else [0x11A7 + i % 28]

/-- The characters that a character is made of. -/
def decomposeChar (c : Char) : List Char :=
  let n := c.toNat
  if n < 0xA0 then [c]
  else if 0xAC00 ≤ n && n ≤ 0xD7A3 then (hangulParts (n - 0xAC00)).map Char.ofNat
  else match decompositionRuns.find? fun run => run.first ≤ n && n ≤ run.last with
    | some run => (run.image n).map Char.ofNat
    | none => [c]

/-- Consecutive marks of one class. -/
structure MarkRun where
  first : Nat
  last : Nat
  markClass : Nat

def MarkRun.ofEntry? (entry : String) : Option MarkRun :=
  match entry.splitOn "=" with
  | [codes, markClass] =>
    match (codes.splitOn "-").map DecompositionRun.code with
    | [only] => some ⟨only, only, DecompositionRun.code markClass⟩
    | [first, last] => some ⟨first, last, DecompositionRun.code markClass⟩
    | _ => none
  | _ => none

def markRuns : List MarkRun := (markClassTable.splitOn ";").filterMap MarkRun.ofEntry?

/-- The class of a mark; other characters have class zero. -/
def markClass (c : Char) : Nat :=
  let n := c.toNat
  if n < 0x300 then 0
  else match markRuns.find? fun run => run.first ≤ n && n ≤ run.last with
    | some run => run.markClass
    | none => 0

/-- Puts a character before a text, and after the marks of lower classes at its front if it is a
mark itself. -/
def insertMark (c : Char) : List Char → List Char
  | [] => [c]
  | d :: rest =>
    if 0 < markClass d && markClass d < markClass c then d :: insertMark c rest else c :: d :: rest

/-- A text with all its characters taken apart. -/
def decompose (cs : List Char) : List Char := (cs.flatMap decomposeChar).foldr insertMark []

end ClauseAudit.Text
