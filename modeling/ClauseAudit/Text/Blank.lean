import ClauseAudit.Text.Ranges

/-!
# Blank characters

White space is what separates words: the six ASCII controls from tab to carriage return and the
four separators below the space, the next-line control, and the space separators of Unicode.
Stripping removes blank characters from both ends of a text.
-/

namespace ClauseAudit.Text

def blankRanges : Ranges :=
  [(0x09, 0x0D), (0x1C, 0x20), (0x85, 0x85), (0xA0, 0xA0), (0x1680, 0x1680), (0x2000, 0x200A),
   (0x2028, 0x2029), (0x202F, 0x202F), (0x205F, 0x205F), (0x3000, 0x3000)]

def isBlank (c : Char) : Bool := blankRanges.contains c.toNat

def stripLeft (cs : List Char) : List Char := cs.dropWhile isBlank

def stripRight (cs : List Char) : List Char := (stripLeft cs.reverse).reverse

def stripChars (cs : List Char) : List Char := stripRight (stripLeft cs)

def strip (s : String) : String := String.ofList (stripChars s.toList)

end ClauseAudit.Text
