import ClauseAudit.Json.Value
import ClauseAudit.Text.Quoted

/-!
# Values as plain text

The text that stands for a value where a text is expected: a string is its own text, other values
are shown with quoted strings, brackets, and capitalised names for truth values and null.
-/

namespace ClauseAudit.Json

mutual

/-- A value as it is shown inside other values. -/
def Value.shown : Value → String
  | .null => "None"
  | .bool true => "True"
  | .bool false => "False"
  | .int i => Text.signedDecimal i
  | .real x => x.text Binary64.plainSpelling
  | .str s => Text.quoted s
  | .arr [] => "[]"
  | .arr (v :: rest) => "[" ++ v.shown ++ shownItems rest ++ "]"
  | .obj [] => "\x7b\x7d"
  | .obj ((name, v) :: rest) =>
    "\x7b" ++ Text.quoted name ++ ": " ++ v.shown ++ shownFields rest ++ "\x7d"

def shownItems : List Value → String
  | [] => ""
  | v :: rest => ", " ++ v.shown ++ shownItems rest

def shownFields : List (String × Value) → String
  | [] => ""
  | (name, v) :: rest => ", " ++ Text.quoted name ++ ": " ++ v.shown ++ shownFields rest

end

/-- A value as a text of its own. -/
def Value.plainText : Value → String
  | .str s => s
  | v => v.shown

end ClauseAudit.Json
