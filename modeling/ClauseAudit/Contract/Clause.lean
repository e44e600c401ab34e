import ClauseAudit.Text.Blank
import ClauseAudit.Text.Case
import ClauseAudit.Text.Lines
import ClauseAudit.Text.Letters

/-!
# Clauses of a contract

A contract is cut into blocks at its blank lines. Every block that is not empty is one clause. The
type of a clause is decided by the first family of keywords that occurs in it.
-/

namespace ClauseAudit

structure Clause where
  id : String
  clauseType : String
  text : String
  deriving DecidableEq, Repr

namespace Clause

/-- Clause types and their keywords, the most specific concern first. -/
def families : List (String × List String) :=
  [("LIABILITY", ["liability", "limitation of liability"]),
   ("PAYMENT", ["payment", "fees", "invoice"]),
   ("TERMINATION", ["termination", "terminate"]),
   ("CONFIDENTIALITY", ["confidential", "non-disclosure"]),
   ("PRIVACY", ["privacy", "data protection", "data processing"]),
   ("GOVERNING_LAW", ["governing law", "jurisdiction", "venue"])]

def unknownType : String := "UNKNOWN"

/-- The type of a text: the first family with a keyword in it, whatever its case. -/
def infer (text : String) : String :=
  let chars := (Text.lower text).toList
  match families.find? fun f => f.2.any fun keyword => Text.hasInfix keyword.toList chars with
  | some family => family.1
  | none => unknownType

/-- What follows the last line feed of the white space at the front. -/
def afterBreak (cs : List Char) : List Char :=
  let space := cs.takeWhile Text.isBlank
  cs.drop (space.length - (space.reverse.takeWhile (· != '\n')).length)

/-- The blocks of the rest of a text, where the current block has begun with the characters given
from the last one. Blocks end at white space with two line feeds or more. -/
def blocksFrom (block : List Char) (cs : List Char) : List (List Char) :=
  match cs with
  | [] => [block.reverse]
  | c :: rest =>
    if c = '\n' && (rest.takeWhile Text.isBlank).contains '\n' then
      block.reverse :: blocksFrom [] (afterBreak rest)
    else blocksFrom (c :: block) rest
termination_by cs.length
decreasing_by
  · simp only [List.length_cons, afterBreak, List.length_drop]
    omega
  · simp

/-- The blocks of a text without white space around them, leaving out the empty ones. -/
def blocks (text : String) : List String :=
  ((blocksFrom [] text.toList).map Text.stripChars).filterMap fun block =>
    if block.isEmpty then none else some (String.ofList block)

/-- Clauses numbered from `k` on. -/
def number (k : Nat) : List String → List Clause
  | [] => []
  | text :: rest =>
    { id := "clause-" ++ Text.decimal k, clauseType := infer text, text } :: number (k + 1) rest

def segment (contract : String) : List Clause := number 1 (blocks contract)

end Clause

end ClauseAudit
