import ClauseAudit.Json.Value

/-!
# JSON text

One printer serves every place that writes JSON. A `Style` says whether characters beyond ASCII
are escaped, which separators stand between items and after field names, and whether the items go
on lines of their own.
-/

namespace ClauseAudit.Json

structure Style where
  /-- Escape every character beyond the tilde. -/
  ascii : Bool
  /-- Escape the solidus too. -/
  escapeSolidus : Bool
  itemSeparator : String
  nameSeparator : String
  /-- The width of one level of indentation; without it everything stands on one line. -/
  indent : Option Nat

/-- No blanks and ASCII only: the form that is hashed and logged. -/
def Style.compact : Style := ⟨true, false, ",", ":", none⟩

/-- Items on lines of their own, text as it is. -/
def Style.indented (width : Nat) : Style := ⟨false, false, ",", ": ", some width⟩

/-- One line with blanks after separators, text as it is. -/
def Style.spaced : Style := ⟨false, false, ", ", ": ", none⟩

/-- One line of a table: no blanks, text as it is, solidus escaped. -/
def Style.record : Style := ⟨false, true, ",", ":", none⟩

/-- The escape of a 16-bit unit. -/
def unitEscape (n : Nat) : List Char := '\\' :: 'u' :: Text.hexDigits 4 n

/-- A character inside a JSON string. -/
def Style.escapedChar (style : Style) (c : Char) : List Char :=
  if c = '"' then ['\\', '"']
  else if c = '\\' then ['\\', '\\']
  else if c = '\n' then ['\\', 'n']
  else if c = '\r' then ['\\', 'r']
  else if c = '\t' then ['\\', 't']
  else if c.toNat = 0x08 then ['\\', 'b']
  else if c.toNat = 0x0C then ['\\', 'f']
  else if c.toNat < 0x20 then unitEscape c.toNat
  else if c = '/' && style.escapeSolidus then ['\\', '/']
  else if style.ascii && 0x7F ≤ c.toNat then
    if c.toNat < 0x10000 then unitEscape c.toNat
    else
      let n := c.toNat - 0x10000
      unitEscape (0xD800 + n / 0x400) ++ unitEscape (0xDC00 + n % 0x400)
  else [c]

def Style.string (style : Style) (s : String) : String :=
  String.ofList ('"' :: s.toList.flatMap style.escapedChar ++ ['"'])

/-- How values that are not finite read in JSON text. -/
def numberSpelling : Binary64.Spelling := ⟨"Infinity", "NaN"⟩

/-- A line break and the indentation of a level, or nothing on a single line. -/
def Style.newline (style : Style) (level : Nat) : String :=
  match style.indent with
  | some width => String.ofList ('\n' :: List.replicate (width * level) ' ')
  | none => ""

mutual

/-- The text of a value at a level of indentation. -/
def Style.print (style : Style) (level : Nat) : Value → String
  | .null => "null"
  | .bool true => "true"
  | .bool false => "false"
  | .int i => Text.signedDecimal i
  | .real x => x.text numberSpelling
  | .str s => style.string s
  | .arr [] => "[]"
  | .arr (v :: rest) =>
    "[" ++ style.newline (level + 1) ++ style.print (level + 1) v
      ++ style.printItems (level + 1) rest ++ style.newline level ++ "]"
  | .obj [] => "\x7b\x7d"
  | .obj ((name, v) :: rest) =>
    "\x7b" ++ style.newline (level + 1) ++ style.string name ++ style.nameSeparator
      ++ style.print (level + 1) v ++ style.printFields (level + 1) rest
      ++ style.newline level ++ "\x7d"

/-- The items of an array after the first. -/
def Style.printItems (style : Style) (level : Nat) : List Value → String
  | [] => ""
  | v :: rest =>
    style.itemSeparator ++ style.newline level ++ style.print level v
      ++ style.printItems level rest

/-- The fields of an object after the first. -/
def Style.printFields (style : Style) (level : Nat) : List (String × Value) → String
  | [] => ""
  | (name, v) :: rest =>
    style.itemSeparator ++ style.newline level ++ style.string name ++ style.nameSeparator
      ++ style.print level v ++ style.printFields level rest

end

def Value.text (v : Value) (style : Style) : String := style.print 0 v

end ClauseAudit.Json
