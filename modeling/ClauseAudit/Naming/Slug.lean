import ClauseAudit.Naming.CharacterReference
import ClauseAudit.Naming.Romanization
import ClauseAudit.Text.Case
import ClauseAudit.Text.Decomposition

/-!
# Slugs

The slug of a text names it in paths: words of lower case ASCII letters and digits, joined by
single hyphens. An apostrophe of the text separates words, one that romanization brings does not,
and a comma between digits is left out.
-/

namespace ClauseAudit.Naming

open ClauseAudit

def isSlugChar (c : Char) : Bool := Text.isAsciiLetter c || Text.isAsciiDigit c

/-- The text without the commas between digits, given the character before it. -/
def dropDigitCommas (before : Option Char) : List Char → List Char
  | [] => []
  | c :: cs =>
    let rest := dropDigitCommas (some c) cs
    if c = ',' && before.any Text.isDecimal && cs.head?.any Text.isDecimal then rest else c :: rest

/-- The words of a text, the first of which goes on from the given characters. -/
def slugWords : List Char → List Char → List (List Char)
  | word, [] => [word]
  | word, c :: cs => if isSlugChar c then slugWords (word ++ [c]) cs else word :: slugWords [] cs

/-- A text in lower case ASCII, as far as it can be spelled so. -/
def spelledOut (text : String) : List Char :=
  let separated := text.toList.map fun c => if c = '\'' then '-' else c
  let resolved := resolveReferences (romanize (Text.decompose separated))
  let lowered := (Text.lower (String.ofList (Text.decompose resolved))).toList
  dropDigitCommas none (lowered.filter (· != '\''))

def slug (text : String) : String :=
  "-".intercalate (((slugWords [] (spelledOut text)).filter (!·.isEmpty)).map String.ofList)

/-- Names the reports of policies whose names have an empty slug. -/
def untitledSlug : String := "untitled-policy"

def policySlug (name : String) : String :=
  let s := slug name
  if s.isEmpty then untitledSlug else s

end ClauseAudit.Naming
