import ClauseAudit.Text.CharNameTable
import ClauseAudit.Text.Letters

/-!
# Characters by name

Looks a character up by its name. Unified ideographs and Hangul syllables have systematic names; all
other names stand in the table.
-/

namespace ClauseAudit.Text

def hexValue (ds : List Char) : Nat := ds.foldl (fun n d => n * 16 + (hexValue? d).getD 0) 0

/-- The first words of a name, each with the blank or hyphen that ends it. -/
def nameWords : Nat → List Char → List Char
  | 0, _ => []
  | _, [] => []
  | n + 1, c :: rest => c :: nameWords (if c == ' ' || c == '-' then n else n + 1) rest

/-- The place of a name in a run after the name before it. -/
def indexInRun? (name before : List Char) (i : Nat) : List (List Char) → Option Nat
  | [] => none
  | entry :: entries =>
    let kept := entry.head?.bind decimalValue?
    let full := nameWords (kept.getD 0) before ++ entry.drop 1
    if full == name then some i else indexInRun? name full (i + 1) entries

/-- A name's code point in a run of names. -/
def runLookup? (name run : List Char) : Option Nat :=
  match run.splitOn '=' with
  | [first, names] => (indexInRun? name [] 0 (names.splitOn ',')).map (hexValue first + ·)
  | _ => none

def hangulLeads : List String :=
  ["G", "GG", "N", "D", "DD", "R", "M", "B", "BB", "S", "SS", "", "J", "JJ", "C", "K", "T", "P",
   "H"]

def hangulVowels : List String :=
  ["A", "AE", "YA", "YAE", "EO", "E", "YEO", "YE", "O", "WA", "WAE", "OE", "YO", "U", "WEO", "WE",
   "WI", "YU", "EU", "YI", "I"]

def hangulTails : List String :=
  ["", "G", "GG", "GS", "N", "NJ", "NH", "D", "L", "LG", "LM", "LB", "LS", "LT", "LP", "LH", "M",
   "B", "BS", "S", "SS", "NG", "J", "C", "K", "T", "P", "H"]

def hangulName (i : Nat) : String :=
  "HANGUL SYLLABLE " ++ hangulLeads.getD (i / 588) "" ++ hangulVowels.getD (i / 28 % 21) ""
    ++ hangulTails.getD (i % 28) ""

/-- Code points of unified ideographs. -/
def ideographRanges : Ranges :=
  [(0x3400, 0x4DBF), (0x4E00, 0x9FFF), (0x20000, 0x2A6DF), (0x2A700, 0x2B738), (0x2B740, 0x2B81D),
   (0x2B820, 0x2CEA1), (0x2CEB0, 0x2EBE0), (0x30000, 0x3134A)]

def isHexCapital (c : Char) : Bool := isAsciiDigit c || ('A' ≤ c && c ≤ 'F')

/-- The character with a systematic name. -/
def systematicCode? (name : List Char) : Option Nat :=
  let ideograph := "CJK UNIFIED IDEOGRAPH-".toList
  if ideograph.isPrefixOf name then
    let digits := name.drop ideograph.length
    let n := hexValue digits
    if (digits.length = 4 || digits.length = 5) && digits.all isHexCapital
      && ideographRanges.contains n then some n else none
  else if "HANGUL SYLLABLE ".toList.isPrefixOf name then
    ((List.range 11172).find? fun i => (hangulName i).toList == name).map (0xAC00 + ·)
  else none

/-- The code point of the character with the given name. A systematic name is in capitals, and the
ASCII letters of all others may be in any case. -/
def codeNamed? (name : List Char) : Option Nat :=
  match systematicCode? name with
  | some n => some n
  | none => (charNameTable.toList.splitOn ';').findSome? (runLookup? (name.map Char.toUpper))

end ClauseAudit.Text
