import ClauseAudit.Text.CaseTable

/-!
# Upper and lower case

Case conversion of single characters and of texts. Text conversion uses the full mappings, which
may have several characters, and writes a capital sigma at the end of a word in its final form.
-/

namespace ClauseAudit.Text

/-- The lower case of a character, without regard to its neighbours. -/
def lowerChars (c : Char) : List Char :=
  if c.val < 0x80 then [if 'A' ≤ c && c ≤ 'Z' then Char.ofNat (c.toNat + 32) else c]
  else match lowerExpansions.lookup c.toNat with
    | some image => image.map Char.ofNat
    | none => [((lowerRuns.findSome? (·.imageOf? c.toNat)).map Char.ofNat).getD c]

def upperChars (c : Char) : List Char :=
  if c.val < 0x80 then [if 'a' ≤ c && c ≤ 'z' then Char.ofNat (c.toNat - 32) else c]
  else match upperExpansions.lookup c.toNat with
    | some image => image.map Char.ofNat
    | none => [((upperRuns.findSome? (·.imageOf? c.toNat)).map Char.ofNat).getD c]

def lowerHead (c : Char) : Char := (lowerChars c).headD c

def upperHead (c : Char) : Char := (upperChars c).headD c

def isCased (c : Char) : Bool := casedRanges.contains c.toNat

def isCaseIgnorable (c : Char) : Bool := caseIgnorableRanges.contains c.toNat

/-- The nearest character that case context does not look through is cased. -/
def meetsCased (cs : List Char) : Bool :=
  ((cs.dropWhile isCaseIgnorable).head?.map isCased).getD false

def capitalSigma : Char := Char.ofNat 0x3A3
def smallSigma : Char := Char.ofNat 0x3C3
def finalSigma : Char := Char.ofNat 0x3C2

/-- Lower case of a character between its neighbours, those before it given from the nearest. A
capital sigma that ends a word takes its final form. -/
def lowerBetween (before : List Char) (c : Char) (after : List Char) : List Char :=
  if c = capitalSigma then
    [if meetsCased before && !meetsCased after then finalSigma else smallSigma]
  else lowerChars c

/-- Adds the lower case of a text to what is already there, which is given from its end. -/
def lowerFrom (before done : List Char) : List Char → List Char
  | [] => done.reverse
  | c :: rest => lowerFrom (c :: before) ((lowerBetween before c rest).reverse ++ done) rest

def lower (s : String) : String := String.ofList (lowerFrom [] [] s.toList)

def upper (s : String) : String := String.ofList (s.toList.flatMap upperChars)

/-- Code points that stand for a character. -/
def isScalar (n : Nat) : Bool := n < 0xD800 || (0xDFFF < n && n < 0x110000)

def lowerCode (n : Nat) : Nat := if isScalar n then (lowerHead (Char.ofNat n)).toNat else n

def upperCode (n : Nat) : Nat := if isScalar n then (upperHead (Char.ofNat n)).toNat else n

/-- Code points that case conversion changes. -/
def codeHasCase (n : Nat) : Bool := lowerCode n != n || upperCode n != n

/-- The code point that a run takes to the given one. -/
def CaseRun.preimage? (r : CaseRun) (n : Nat) : Option Nat :=
  if r.image ≤ n ∧ n - r.image ≤ r.last - r.first ∧ (n - r.image) % r.stride = 0 then
    some (r.first + (n - r.image))
  else none

/-- All code points with the given lower case. -/
def lowerPreimages (n : Nat) : List Nat :=
  (if lowerCode n = n then [n] else [])
    ++ lowerRuns.filterMap (·.preimage? n)
    ++ (lowerExpansions.filter fun e => e.2.head? == some n).map (·.1)

/-- A run covers some code point between the bounds. -/
def CaseRun.meets (r : CaseRun) (lo hi : Nat) : Bool :=
  let start := max lo r.first
  let aligned := start + (r.stride - (start - r.first) % r.stride) % r.stride
  aligned ≤ min hi r.last

/-- Some code point between the bounds is changed by case conversion. -/
def someHasCase (lo hi : Nat) : Bool :=
  lowerRuns.any (·.meets lo hi) || upperRuns.any (·.meets lo hi)
    || (lowerExpansions ++ upperExpansions).any fun e => lo ≤ e.1 && e.1 ≤ hi

end ClauseAudit.Text
