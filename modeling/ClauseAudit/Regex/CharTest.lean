import ClauseAudit.Text.Blank
import ClauseAudit.Text.Case
import ClauseAudit.Text.Letters

/-!
# Tests of single characters

What one position of a pattern accepts: a character, a set of characters, or any character. Sets
and characters may be compared without regard to case, either for ASCII letters only or for all
letters. Two characters agree without regard to case when their lower cases do, or when these are
lower-case letters with one upper case.
-/

namespace ClauseAudit.Regex

/-- How letter case takes part in a comparison. -/
inductive Fold where
  | exact
  | ascii
  | full
  deriving DecidableEq, Repr

namespace Fold

/-- The form of a text character that is compared. -/
def lower (f : Fold) (n : Nat) : Nat :=
  match f with
  | .exact => n
  | .ascii => if 0x41 ≤ n && n ≤ 0x5A then n + 32 else n
  | .full => Text.lowerCode n

def hasCase (f : Fold) (n : Nat) : Bool :=
  match f with
  | .exact => false
  | .ascii => (0x41 ≤ n && n ≤ 0x5A) || (0x61 ≤ n && n ≤ 0x7A)
  | .full => Text.codeHasCase n

/-- Some code point between the bounds has case. -/
def someHasCase (f : Fold) (lo hi : Nat) : Bool :=
  match f with
  | .exact => false
  | .ascii => (lo ≤ 0x5A && 0x41 ≤ hi) || (lo ≤ 0x7A && 0x61 ≤ hi)
  | .full => Text.someHasCase lo hi

/-- Other lower-case letters that agree with the given one. -/
def siblings (f : Fold) (n : Nat) : List Nat :=
  match f with
  | .full => (Text.sharedUpper.lookup n).getD []
  | _ => []

/-- Code points whose compared form is the given one. -/
def preimages (f : Fold) (n : Nat) : List Nat :=
  match f with
  | .exact => [n]
  | .ascii =>
    if 0x41 ≤ n && n ≤ 0x5A then [] else if 0x61 ≤ n && n ≤ 0x7A then [n, n - 32] else [n]
  | .full => Text.lowerPreimages n

end Fold

inductive Category where
  | digit
  | space
  | word
  deriving DecidableEq, Repr

def Category.holds (cat : Category) (ascii : Bool) (c : Char) : Bool :=
  match cat with
  | .digit => if ascii then Text.isAsciiDigit c else Text.isDecimal c
  | .space => if ascii then c.toNat < 0x80 && (c == ' ' || (0x09 ≤ c.toNat && c.toNat ≤ 0x0D))
    else Text.isBlank c
  | .word => if ascii then Text.isAsciiWord c else Text.isWord c

/-- An item of a character set. -/
inductive SetItem where
  | char (n : Nat)
  | range (lo hi : Nat)
  | category (cat : Category) (negated : Bool)
  deriving DecidableEq, Repr

namespace SetItem

/-- Sets keep code points below this bound in their compared form. -/
def planeSize : Nat := 0x10000

/-- The item holds the code point as it is. -/
def holds (ascii : Bool) (n : Nat) : SetItem → Bool
  | .char m => n == m
  | .range lo hi => lo ≤ n && n ≤ hi
  | .category cat negated => cat.holds ascii (Char.ofNat n) != negated

/-- The item holds a code point with the given compared form. Beyond the first plane, a range
also holds what it holds in upper case, and a single character stands for its own form only. -/
def holdsFolded (f : Fold) (ascii : Bool) (n : Nat) : SetItem → Bool
  | .char m =>
    if f.lower m < planeSize then n == f.lower m || (f.siblings (f.lower m)).contains n
    else n == m
  | .range lo hi =>
    let within := (n :: f.siblings n).any fun k =>
      (f.preimages k).any fun i => i < planeSize && lo ≤ i && i ≤ hi
    within || (planeSize ≤ hi &&
      ((lo ≤ n && n ≤ hi) || (lo ≤ Text.upperCode n && Text.upperCode n ≤ hi)))
  | .category cat negated => cat.holds ascii (Char.ofNat n) != negated

/-- The item holds code points that have case. -/
def hasCase (f : Fold) : SetItem → Bool
  | .char m => f.hasCase m || (f != .exact && planeSize ≤ f.lower m)
  | .range lo hi => f.someHasCase lo hi || (f != .exact && planeSize ≤ hi)
  | .category _ _ => false

end SetItem

/-- What one character of the text must satisfy. -/
inductive CharTest where
  | any
  | notNewline
  | char (fold : Fold) (negated : Bool) (n : Nat)
  | set (fold : Fold) (ascii negated : Bool) (items : List SetItem)
  deriving DecidableEq, Repr

namespace CharTest

/-- The test of a character, which ignores case only where the character has case. -/
def ofChar (f : Fold) (negated : Bool) (n : Nat) : CharTest :=
  .char (if f.hasCase n then f else .exact) negated n

/-- The test of a set, which ignores case only where some item has case. -/
def ofSet (f : Fold) (ascii negated : Bool) (items : List SetItem) : CharTest :=
  .set (if items.any (·.hasCase f) then f else .exact) ascii negated items

def accepts (t : CharTest) (c : Char) : Bool :=
  match t with
  | .any => true
  | .notNewline => c != '\n'
  | .char .exact negated n => (c.toNat == n) != negated
  | .char f negated n =>
    let m := f.lower c.toNat
    (m == f.lower n || (f.siblings (f.lower n)).contains m) != negated
  | .set .exact ascii negated items => items.any (·.holds ascii c.toNat) != negated
  | .set f ascii negated items =>
    items.any (·.holdsFolded f ascii (f.lower c.toNat)) != negated

end CharTest

end ClauseAudit.Regex
