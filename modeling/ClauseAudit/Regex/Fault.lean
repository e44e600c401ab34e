import ClauseAudit.Regex.Pattern
import ClauseAudit.Text.Integer
import ClauseAudit.Text.Quoted

/-!
# Faults of patterns

Why a pattern cannot be used. Most reasons are reported at a character of the pattern, and at its
line and column too when the pattern has several lines.
-/

namespace ClauseAudit.Regex

inductive Reason where
  | escapeAtEnd
  | badEscape (escape : String)
  | incompleteEscape (escape : String)
  | octalTooLarge (escape : String)
  | missingBrace
  | missingCharacterName
  | missingGroupName
  | unterminatedName (terminator : Char)
  | unknownCharacterName (name : String)
  | badNameCharacter (name : String)
  | unknownGroupName (name : String)
  | repeatedGroupName (name : String) (group earlier : Nat)
  | openGroupReference
  | lookbehindGroupReference
  | invalidGroupReference (group : Nat)
  | badGroupNumber
  | unterminatedSet
  | badRange (first last : String)
  | nothingToRepeat
  | multipleRepeat
  | reversedRepeat
  | unexpectedEnd
  | unknownExtension (text : String)
  | unterminatedComment
  | unterminatedGroup
  | unbalancedParenthesis
  | extraBranch
  | lateGlobalFlags
  | localeFlag
  | incompatibleTypeFlags
  | unknownFlag
  | missingFlagEnd
  | missingFlag
  | missingColon
  | typeFlagTurnedOff
  | globalFlagTurnedOn
  | globalFlagTurnedOff
  | contradictoryFlags
  deriving DecidableEq, Repr

namespace Reason

def message : Reason → String
  | escapeAtEnd => "bad escape (end of pattern)"
  | badEscape escape => "bad escape " ++ escape
  | incompleteEscape escape => "incomplete escape " ++ escape
  | octalTooLarge escape => "octal escape value " ++ escape ++ " outside of range 0-0o377"
  | missingBrace => "missing \x7b"
  | missingCharacterName => "missing character name"
  | missingGroupName => "missing group name"
  | unterminatedName terminator => "missing " ++ terminator.toString ++ ", unterminated name"
  | unknownCharacterName name => "undefined character name " ++ Text.quoted name
  | badNameCharacter name => "bad character in group name " ++ Text.quoted name
  | unknownGroupName name => "unknown group name " ++ Text.quoted name
  | repeatedGroupName name group earlier =>
    "redefinition of group name " ++ Text.quoted name ++ " as group " ++ Text.decimal group
      ++ "; was group " ++ Text.decimal earlier
  | openGroupReference => "cannot refer to an open group"
  | lookbehindGroupReference => "cannot refer to group defined in the same lookbehind subpattern"
  | invalidGroupReference group => "invalid group reference " ++ Text.decimal group
  | badGroupNumber => "bad group number"
  | unterminatedSet => "unterminated character set"
  | badRange first last => "bad character range " ++ first ++ "-" ++ last
  | nothingToRepeat => "nothing to repeat"
  | multipleRepeat => "multiple repeat"
  | reversedRepeat => "min repeat greater than max repeat"
  | unexpectedEnd => "unexpected end of pattern"
  | unknownExtension text => "unknown extension ?" ++ text
  | unterminatedComment => "missing ), unterminated comment"
  | unterminatedGroup => "missing ), unterminated subpattern"
  | unbalancedParenthesis => "unbalanced parenthesis"
  | extraBranch => "conditional backref with more than two branches"
  | lateGlobalFlags => "global flags not at the start of the expression"
  | localeFlag => "bad inline flags: cannot use 'L' flag with a str pattern"
  | incompatibleTypeFlags => "bad inline flags: flags 'a', 'u' and 'L' are incompatible"
  | unknownFlag => "unknown flag"
  | missingFlagEnd => "missing -, : or )"
  | missingFlag => "missing flag"
  | missingColon => "missing :"
  | typeFlagTurnedOff => "bad inline flags: cannot turn off flags 'a', 'u' and 'L'"
  | globalFlagTurnedOn => "bad inline flags: cannot turn on global flag"
  | globalFlagTurnedOff => "bad inline flags: cannot turn off global flag"
  | contradictoryFlags => "bad inline flags: flag turned on and off"

end Reason

inductive Fault where
  /-- The text cannot be read; the reason holds at a character. -/
  | unreadable (reason : Reason) (position : Nat)
  /-- A look-behind whose body has no single width. -/
  | variableLookbehind
  /-- A look-behind whose body is wider than any text. -/
  | lookbehindTooWide
  /-- The template flag excludes repetition. -/
  | templateRepetition (kind : Repetition)
  /-- The flags ask for ASCII and for all characters. -/
  | asciiAndUnicode
  /-- A repetition count that is not below the greatest one. -/
  | repetitionTooLarge
  /-- A repetition count with more digits than are read. -/
  | repetitionTooLong (digits : Nat)
  /-- A character code that does not fit into 31 bits. -/
  | codeTooLarge
  deriving DecidableEq, Repr

namespace Fault

/-- The line of a position and its distance from the line break before. -/
def lineColumn (pattern : List Char) (position : Nat) : Nat × Nat :=
  let before := pattern.take position
  (before.count '\n' + 1, (before.reverse.takeWhile (· != '\n')).length + 1)

/-- Where a reason holds. -/
def place (pattern : List Char) (position : Nat) : String :=
  let (line, column) := lineColumn pattern position
  " at position " ++ Text.decimal position ++
    (if pattern.contains '\n' then
      " (line " ++ Text.decimal line ++ ", column " ++ Text.decimal column ++ ")"
    else "")

def repetitionName : Repetition → String
  | .greedy => "MAX_REPEAT"
  | .lazy => "MIN_REPEAT"
  | .possessive => "POSSESSIVE_REPEAT"

def message (pattern : String) : Fault → String
  | unreadable reason position => reason.message ++ place pattern.toList position
  | variableLookbehind => "look-behind requires fixed-width pattern"
  | lookbehindTooWide => "looks too much behind"
  | templateRepetition kind =>
    "internal: unsupported template operator " ++ repetitionName kind
  | asciiAndUnicode => "ASCII and UNICODE flags are incompatible"
  | repetitionTooLarge => "the repetition number is too large"
  | repetitionTooLong digits => Text.tooManyDigits digits
  | codeTooLarge => "Python int too large to convert to C int"

/-- The pattern itself is at fault, and not its combination with flags or a limit. -/
def isPatternError : Fault → Bool
  | asciiAndUnicode => false
  | repetitionTooLarge => false
  | repetitionTooLong _ => false
  | codeTooLarge => false
  | _ => true

/-- A number of the pattern is over the limit of the pattern language. -/
def isOverflow : Fault → Bool
  | repetitionTooLarge => true
  | codeTooLarge => true
  | _ => false

end Fault

end ClauseAudit.Regex
