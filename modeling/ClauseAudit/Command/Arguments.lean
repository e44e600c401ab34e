import ClauseAudit.Text.Integer

/-!
# Command line arguments

A command takes operands, and options that begin with two hyphens. An option is given by its name
or by a beginning that no other option shares; its value follows in the next argument or after an
equals sign. After two hyphens alone everything is an operand.
-/

namespace ClauseAudit.Command

open ClauseAudit

/-- What follows the name of an option. -/
inductive Takes where
  | nothing
  | text
  | integer
deriving DecidableEq, Repr

structure OptionSpec where
  name : String
  takes : Takes
deriving DecidableEq, Repr

/-- What a command accepts. -/
structure Grammar where
  options : List OptionSpec
  operands : Nat
deriving Repr

/-- Why a command does not start: its help was asked for, or it was called wrongly. -/
inductive Stop where
  | help
  | misuse
deriving DecidableEq, Repr

def Stop.exitCode : Stop → Nat
  | .help => 0
  | .misuse => 2

structure Arguments where
  values : List (String × String) := []
  switches : List String := []
  operands : List String := []
  /-- Arguments that nothing takes. -/
  spare : List String := []
deriving Repr

namespace Arguments

def value? (a : Arguments) (name : String) : Option String := a.values.reverse.lookup name

/-- The value of an option unless it is missing or empty. -/
def nonempty? (a : Arguments) (name : String) : Option String :=
  (a.value? name).filter (!·.isEmpty)

def isOn (a : Arguments) (name : String) : Bool := a.switches.contains name

end Arguments

/-- One argument on its own. -/
inductive Word where
  /-- An option, with what follows an equals sign. -/
  | option (spec : OptionSpec) (attached : Option String)
  /-- The short form of help. -/
  | shortHelp
  /-- The short form of help with a value attached to it. -/
  | wrongHelp
  | unknown (text : String)
  /-- Two hyphens. -/
  | divider
  | plain (text : String)
deriving DecidableEq, Repr

namespace Word

def helpOption : OptionSpec := ⟨"help", .nothing⟩

/-- Nothing, or a line feed. -/
def isLineEnd (cs : List Char) : Bool := cs.isEmpty || cs == ['\n']

/-- Digits, of which there is one at least, up to the end. -/
def endsInDigits (cs : List Char) : Bool :=
  let digits := cs.takeWhile Text.isDecimal
  !digits.isEmpty && isLineEnd (cs.drop digits.length)

/-- A minus sign and a number without exponent. -/
def isNegativeNumber : List Char → Bool
  | '-' :: cs =>
    let whole := cs.takeWhile Text.isDecimal
    match cs.drop whole.length with
    | '.' :: fraction => endsInDigits fraction
    | rest => !whole.isEmpty && isLineEnd rest
  | _ => false

/-- An argument that names no option: a negative number, or one with a space, is plain. -/
def ofOther (text : String) : Word :=
  if isNegativeNumber text.toList || text.toList.contains ' ' then .plain text else .unknown text

/-- What an argument that begins with two hyphens is. -/
def ofLong (options : List OptionSpec) (text : String) (cs : List Char) : Except Stop Word :=
  let name := String.ofList (cs.takeWhile (· != '='))
  let attached := if cs.contains '=' then
    some (String.ofList (cs.drop (name.length + 1))) else none
  match options.find? (·.name == name) with
  | some spec => .ok (.option spec attached)
  | none =>
    match options.filter fun spec => name.toList.isPrefixOf spec.name.toList with
    | [] => .ok (ofOther text)
    | [spec] => .ok (.option spec attached)
    | _ => .error .misuse

/-- What is attached to the short form of help is passed over, unless an equals sign or a hyphen
comes after the letters for help. -/
def isHelpTail (cs : List Char) : Bool :=
  match (cs.dropWhile (· == 'h')).head? with
  | some c => c != '=' && c != '-'
  | none => true

/-- What an argument before the divider is. -/
def read (options : List OptionSpec) (text : String) : Except Stop Word :=
  match text.toList with
  | ['-', '-'] => .ok .divider
  | '-' :: '-' :: cs => ofLong (options ++ [helpOption]) text cs
  | '-' :: 'h' :: cs => .ok (if isHelpTail cs then .shortHelp else .wrongHelp)
  | '-' :: _ :: _ => .ok (ofOther text)
  | _ => .ok (.plain text)

def readAll (options : List OptionSpec) : List String → Except Stop (List Word)
  | [] => .ok []
  | text :: rest => do
    match ← read options text with
    | .divider => return .divider :: rest.map .plain
    | word => return word :: (← readAll options rest)

end Word

/-- Two hyphens may stand only where operands are still missing. -/
def allowsDivider (operands : Nat) (a : Arguments) (sinceOption : Nat) : Bool :=
  a.operands.length - sinceOption < operands

namespace Arguments

def set (a : Arguments) (spec : OptionSpec) (value : String) : Except Stop Arguments :=
  let done : Arguments := { a with values := a.values ++ [(spec.name, value)] }
  match spec.takes with
  | .nothing => .error .misuse
  | .text => .ok done
  | .integer => if (Text.integer? value.toList).isSome then .ok done else .error .misuse

def turnOn (a : Arguments) (name : String) : Except Stop Arguments :=
  if name == Word.helpOption.name then .error .help
  else .ok { a with switches := a.switches ++ [name] }

def leave (a : Arguments) (text : String) : Arguments := { a with spare := a.spare ++ [text] }

/-- Takes words in, given how many operands came since the last option. -/
def take (operands : Nat) (a : Arguments) (sinceOption : Nat) :
    List Word → Except Stop Arguments
  | [] => .ok a
  | .plain text :: rest =>
    if a.operands.length < operands then
      take operands { a with operands := a.operands ++ [text] } (sinceOption + 1) rest
    else take operands (a.leave text) sinceOption rest
  | .divider :: rest =>
    let a := if allowsDivider operands a sinceOption then a else a.leave "--"
    take operands a sinceOption rest
  | .unknown text :: rest => take operands (a.leave text) 0 rest
  | .shortHelp :: _ => .error .help
  | .wrongHelp :: _ => .error .misuse
  | .option ⟨name, .nothing⟩ none :: rest => do take operands (← a.turnOn name) 0 rest
  | .option spec (some value) :: rest => do take operands (← a.set spec value) 0 rest
  | .option spec none :: .plain value :: rest => do take operands (← a.set spec value) 0 rest
  | .option _ none :: _ => .error .misuse

end Arguments

/-- Reads the arguments of a command: every operand has to be there and nothing may be left. -/
def Grammar.read (g : Grammar) (args : List String) : Except Stop Arguments := do
  let words ← Word.readAll g.options args
  let a ← Arguments.take g.operands {} 0 words
  if a.operands.length = g.operands && a.spare.isEmpty then return a else .error .misuse

end ClauseAudit.Command
