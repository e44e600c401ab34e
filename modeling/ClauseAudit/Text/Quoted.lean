import ClauseAudit.Text.Letters
import ClauseAudit.Text.Printable

/-!
# Quoted text

The form in which messages show a text: between single quotes, or between double quotes when the
text holds a single quote and no double quote. The enclosing quote and the backslash are escaped,
and so is every character that is not printable.
-/

namespace ClauseAudit.Text

/-- A character between quotes of the given kind. -/
def quotedChar (quote c : Char) : List Char :=
  if c = quote || c = '\\' then ['\\', c]
  else if c = '\n' then ['\\', 'n']
  else if c = '\r' then ['\\', 'r']
  else if c = '\t' then ['\\', 't']
  else if isPrintable c then [c]
  else if c.toNat < 0x100 then '\\' :: 'x' :: hexDigits 2 c.toNat
  else if c.toNat < 0x10000 then '\\' :: 'u' :: hexDigits 4 c.toNat
  else '\\' :: 'U' :: hexDigits 8 c.toNat

/-- The quote that encloses a text. -/
def enclosingQuote (cs : List Char) : Char :=
  if cs.contains '\'' && !cs.contains '"' then '"' else '\''

def quotedChars (cs : List Char) : List Char :=
  let quote := enclosingQuote cs
  quote :: cs.flatMap (quotedChar quote) ++ [quote]

def quoted (s : String) : String := String.ofList (quotedChars s.toList)

end ClauseAudit.Text
