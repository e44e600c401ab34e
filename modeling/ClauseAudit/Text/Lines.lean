/-!
# Lines of a text

A line ends at a line feed, together with a carriage return directly before it. A text always has
at least one line.
-/

namespace ClauseAudit.Text

/-- The lines of the rest of a text, where the current line has begun with the characters given
from the last one. -/
def linesFrom (line : List Char) : List Char → List (List Char)
  | [] => [line.reverse]
  | '\r' :: '\n' :: rest => line.reverse :: linesFrom [] rest
  | '\n' :: rest => line.reverse :: linesFrom [] rest
  | c :: rest => linesFrom (c :: line) rest

def lines (s : String) : List String := (linesFrom [] s.toList).map String.ofList

def hasInfix (needle : List Char) : List Char → Bool
  | [] => needle.isEmpty
  | c :: rest => needle.isPrefixOf (c :: rest) || hasInfix needle rest

def joinLines (ls : List String) : String := String.intercalate "\n" ls

/-- The first characters of a text; a negative count leaves out that many at the end. -/
def takeSigned (cs : List Char) (n : Int) : List Char :=
  match n with
  | .ofNat k => cs.take k
  | .negSucc k => cs.take (cs.length - (k + 1))

end ClauseAudit.Text
