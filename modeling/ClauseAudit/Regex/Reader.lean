import ClauseAudit.Regex.Escape

/-!
# Reading patterns

A pattern is read from left to right with a stack of open groups. Every step takes at least one
token, so reading ends. Flags at the front of the pattern hold for all of it, flags in a group hold
inside the group.
-/

namespace ClauseAudit.Regex

/-- Flags that hold at a place of a pattern. -/
structure Mode where
  ignoreCase : Bool := false
  multiline : Bool := false
  dotAll : Bool := false
  verbose : Bool := false
  /-- Classes and case comparison are those of ASCII. -/
  ascii : Bool := false
  /-- Classes and case comparison of all characters are asked for. -/
  unicode : Bool := false
  template : Bool := false
  deriving DecidableEq, Repr

namespace Mode

def fold (m : Mode) : Fold :=
  if !m.ignoreCase then .exact else if m.ascii then .ascii else .full

def union (a b : Mode) : Mode :=
  { ignoreCase := a.ignoreCase || b.ignoreCase
    multiline := a.multiline || b.multiline
    dotAll := a.dotAll || b.dotAll
    verbose := a.verbose || b.verbose
    ascii := a.ascii || b.ascii
    unicode := a.unicode || b.unicode
    template := a.template || b.template }

/-- The flags inside a group that turns some on and others off. A choice of classes replaces the
one outside. -/
def within (m on off : Mode) : Mode :=
  let base := if on.ascii || on.unicode then { m with ascii := false, unicode := false } else m
  let all := base.union on
  { all with
    ignoreCase := all.ignoreCase && !off.ignoreCase
    multiline := all.multiline && !off.multiline
    dotAll := all.dotAll && !off.dotAll
    verbose := all.verbose && !off.verbose }

def overlaps (a b : Mode) : Bool :=
  (a.ignoreCase && b.ignoreCase) || (a.multiline && b.multiline) || (a.dotAll && b.dotAll)
    || (a.verbose && b.verbose)

end Mode

namespace Reader

/-- One pattern of an alternative. A group with flags of its own is never merged with anything. -/
structure Part where
  pattern : Pattern
  ownFlags : Bool := false
  deriving DecidableEq

/-- The pattern of all parts, one after the other. -/
def patternOf (parts : List Part) : Pattern := .ofList (parts.map Part.pattern)

/-- One thing of a sequence, as far as a quantifier after it must know. -/
inductive Element where
  | plain (p : Pattern)
  | anchor (a : Anchor)
  | repeated (p : Pattern)
  /-- A group without capture and flags. -/
  | bare (body : List Part)
  | flagged (p : Pattern)

/-- The parts that an element adds to its sequence. -/
def Element.parts : Element → List Part
  | .plain p => [{ pattern := p }]
  | .anchor a => [{ pattern := .anchor a }]
  | .repeated p => [{ pattern := p }]
  | .bare body => body
  | .flagged p => [{ pattern := p, ownFlags := true }]

/-- What an open parenthesis has started. -/
inductive Opening where
  | whole
  | capture (group : Nat)
  | bare
  | flagged
  | atomic
  /-- A look-behind keeps the mark of the look-behind around it. -/
  | look (behind negated : Bool) (outerMark : Option Nat)
  /-- A choice that depends on a group, with its first branch once that is read. -/
  | choice (group : Nat) (yes : Option Pattern)

/-- A group that is being read. -/
structure Frame where
  opening : Opening
  /-- Where the group starts. -/
  start : Nat
  mode : Mode
  /-- Alternatives that are complete, the last one first. -/
  done : List (List Part) := []
  /-- Elements of the current alternative, the last one first. -/
  items : List Element := []

/-- Everything that is known about the part already read. -/
structure State where
  cursor : Cursor
  frame : Frame
  outer : List Frame := []
  /-- Widths of the groups from the first on; none while a group is open. -/
  groups : List (Option Width) := []
  names : List (String × Nat) := []
  /-- In a look-behind, the number of the first group that starts in it. -/
  lookbehindMark : Option Nat := none
  /-- Groups that choices depend on, and where they do first. -/
  choices : List (Nat × Nat) := []

namespace State

def nextGroup (s : State) : Nat := s.groups.length + 1

/-- The width of a group that is complete. -/
def closedGroup? (s : State) (group : Nat) : Option Width :=
  if group = 0 then none else (s.groups[group - 1]?).join

def push (s : State) (e : Element) : State :=
  { s with frame := { s.frame with items := e :: s.frame.items } }

def pushPattern (s : State) (p : Pattern) : State := s.push (.plain p)

def atCursor (s : State) (cur : Cursor) : State := { s with cursor := cur }

def pushCode (s : State) (n : Nat) : State :=
  s.pushPattern (.one (.ofChar s.frame.mode.fold false n))

def enter (s : State) (opening : Opening) (start : Nat) (mode : Mode) : State :=
  { s with frame := { opening, start, mode }, outer := s.frame :: s.outer }

/-- In a look-behind, a group may be referred to only when it is complete and started outside. -/
def checkLookbehind (s : State) (group : Nat) (cur : Cursor) : Except Fault Unit :=
  match s.lookbehindMark with
  | none => .ok ()
  | some mark =>
    if (s.closedGroup? group).isNone then cur.fail .openGroupReference 0
    else if mark ≤ group then cur.fail .lookbehindGroupReference 0
    else .ok ()

/-- A reference to a group; a group still open is reported `back` characters before the cursor. -/
def pushReference (s : State) (group back : Nat) (cur : Cursor) : Except Fault State := do
  match s.closedGroup? group with
  | none => cur.fail .openGroupReference back
  | some width =>
    s.checkLookbehind group cur
    return (s.atCursor cur).pushPattern (.backref group s.frame.mode.fold width)

end State

/-- The set that a part stands for, when a choice of it and others may be merged. -/
def mergeable? (part : Part) : Option (List SetItem) :=
  match part.ownFlags, part.pattern with
  | false, .one (.char _ false n) => some [.char n]
  | false, .one (.set _ _ false items) => some items
  | _, _ => none

/-- The same patterns without repetition, in order of first occurrence. -/
def distinct (items : List SetItem) : List SetItem :=
  items.foldl (fun acc i => if acc.contains i then acc else acc ++ [i]) []

/-- A part that may be moved in front of a choice when all alternatives start with it. -/
def Part.isLeaf (part : Part) : Bool :=
  match part.ownFlags, part.pattern with
  | false, .one _ => true
  | false, .anchor _ => true
  | false, .backref _ _ _ => true
  | _, _ => false

/-- The first parts that all alternatives share, and what follows them. -/
def factor : Nat → List (List Part) → List Part × List (List Part)
  | 0, alts => ([], alts)
  | fuel + 1, alts =>
    match alts with
    | (p :: _) :: _ =>
      if p.isLeaf && alts.all (·.head? == some p) then
        let (shared, rest) := factor fuel (alts.map (·.drop 1))
        (p :: shared, rest)
      else ([], alts)
    | _ => ([], alts)

/-- The single set that a list of alternatives amounts to. -/
def mergeAll? : List (List Part) → Option (List SetItem)
  | [] => some []
  | [p] :: rest => do
    let items ← mergeable? p
    let others ← mergeAll? rest
    return items ++ others
  | _ => none

/-- The parts of a group with the given alternatives. -/
def alternatives (mode : Mode) (alts : List (List Part)) : List Part :=
  match alts with
  | [] => []
  | [only] => only
  | first :: _ =>
    let (shared, rest) := factor first.length alts
    let branch : Pattern := match mergeAll? rest with
      | some items => .one (.ofSet mode.fold mode.ascii false (distinct items))
      | none => Pattern.oneOf (rest.map patternOf)
    shared ++ [{ pattern := branch }]

namespace Frame

def current (f : Frame) : List Part := f.items.reverse.flatMap Element.parts

def body (f : Frame) : List Part := alternatives f.mode (f.current :: f.done).reverse

end Frame

def isVerboseSpace (c : Char) : Bool := c == ' ' || (0x09 ≤ c.toNat && c.toNat ≤ 0x0D)

def skipLine : Nat → Cursor → Except Fault Cursor
  | 0, cur => .ok cur
  | fuel + 1, cur => do
    let (token, after) ← cur.take
    match token with
    | none => return after
    | some (.char '\n') => return after
    | some _ => skipLine fuel after

/-- Past a comment in parentheses that starts at `start`. -/
def skipComment (start : Nat) : Nat → Cursor → Except Fault Cursor
  | 0, _ => .error (.unreadable .unterminatedComment start)
  | fuel + 1, cur => do
    match cur.next? with
    | none => .error (.unreadable .unterminatedComment start)
    | some token =>
      let after ← cur.skip
      if token = .char ')' then return after else skipComment start fuel after

/-- One end of a range or a single item of a set. -/
def readSetItem (token : Token) (start : Nat) (cur : Cursor) :
    Except Fault (SetItem × Cursor) :=
  match token with
  | .escaped c => Escape.readInSet start c cur
  | .char c => .ok (.char c.toNat, cur)

/-- The range between two items of a set. -/
def range? : SetItem → SetItem → Option SetItem
  | .char lo, .char hi => if hi < lo then none else some (.range lo hi)
  | _, _ => none

/-- The items of a set up to its closing bracket, after those already read. The set starts at
`start`. -/
def readSetItems (start : Nat) : Nat → List SetItem → Cursor →
    Except Fault (List SetItem × Cursor)
  | 0, _, _ => .error (.unreadable .unterminatedSet start)
  | fuel + 1, items, cur => do
    let (token, after) ← cur.take
    match token with
    | none => .error (.unreadable .unterminatedSet start)
    | some token =>
      if token = .char ']' && !items.isEmpty then return (items, after)
      let (first, after) ← readSetItem token cur.position after
      match ← after.skipChar? '-' with
      | none => readSetItems start fuel (items ++ [first]) after
      | some dash =>
        let (token', after) ← dash.take
        match token' with
        | none => .error (.unreadable .unterminatedSet start)
        | some token' =>
          if token' = .char ']' then return (items ++ [first, .char '-'.toNat], after)
          let (last, after) ← readSetItem token' dash.position after
          match range? first last with
          | some r => readSetItems start fuel (items ++ [r]) after
          | none =>
            after.fail (.badRange token.text token'.text)
              (token.chars.length + 1 + token'.chars.length)

/-- The test of a set. A set of one character is a test of that character. -/
def setTest (mode : Mode) (negated : Bool) (items : List SetItem) : CharTest :=
  match distinct items with
  | [.char n] => .ofChar mode.fold negated n
  | items => .ofSet mode.fold mode.ascii negated items

/-- Reads a set whose opening bracket stands at `start`. -/
def readSet (s : State) (start : Nat) (cur : Cursor) : Except Fault State := do
  let (negated, cur) ← match ← cur.skipChar? '^' with
    | some after => pure (true, after)
    | none => pure (false, cur)
  let (items, after) ← readSetItems start (cur.rest.length + 1) [] cur
  return (s.atCursor after).pushPattern (.one (setTest s.frame.mode negated items))

/-- The value of a repetition count. Counts have a greatest value, and are not read at all when they
are too long. -/
def readCount (ds : List Char) : Except Fault Nat :=
  if Text.maxIntegerDigits < ds.length then .error (.repetitionTooLong ds.length)
  else
    let n := ds.foldl (fun n d => n * 10 + (d.toNat - '0'.toNat)) 0
    if 4294967295 ≤ n then .error .repetitionTooLarge else .ok n

/-- The bounds between braces and the place after them; none when the brace stands for itself. -/
def readBounds? (cur : Cursor) : Except Fault (Option ((Nat × Option Nat) × Cursor)) := do
  if cur.nextIs '\x7d' then return none
  let (lo, after) ← cur.takeWhile Text.isAsciiDigit
  let (hi, after) ← match ← after.skipChar? ',' with
    | some after => after.takeWhile Text.isAsciiDigit
    | none => pure (lo, after)
  match ← after.skipChar? '\x7d' with
  | none => return none
  | some after =>
    let least ← if lo.isEmpty then pure 0 else readCount lo
    if hi.isEmpty then return some ((least, none), after)
    let most ← readCount hi
    if most < least then .error (.unreadable .reversedRepeat cur.position)
    return some ((least, some most), after)

/-- The kind of repetition that the sign after a quantifier chooses. -/
def readKind (cur : Cursor) : Except Fault (Repetition × Cursor) := do
  match ← cur.skipChar? '?' with
  | some after => return (.lazy, after)
  | none =>
    match ← cur.skipChar? '+' with
    | some after => return (.possessive, after)
    | none => return (.greedy, cur)

/-- Repeats the last element. The quantifier stands at `start`, the cursor is past its bounds. -/
def repeatLast (s : State) (start least : Nat) (most : Option Nat) (cur : Cursor) :
    Except Fault State := do
  let body ← match s.frame.items with
    | [] => .error (.unreadable .nothingToRepeat start)
    | .anchor _ :: _ => .error (.unreadable .nothingToRepeat start)
    | .repeated _ :: _ => .error (.unreadable .multipleRepeat start)
    | .plain p :: _ => pure p
    | .flagged p :: _ => pure p
    | .bare body :: _ => pure (patternOf body)
  let (kind, after) ← readKind cur
  let frame := { s.frame with
    items := .repeated (.loop kind least most body) :: s.frame.items.drop 1 }
  return { s with cursor := after, frame }

def flag? : Char → Option Mode
  | 'i' => some { ignoreCase := true }
  | 'm' => some { multiline := true }
  | 's' => some { dotAll := true }
  | 'x' => some { verbose := true }
  | 'a' => some { ascii := true }
  | 'u' => some { unicode := true }
  | 't' => some { template := true }
  | 'L' => some {}
  | _ => none

/-- The reason for a character that is no flag. -/
def unknownFlagOr (token : Token) (other : Reason) : Reason :=
  match token with
  | .char c => if Text.isLetter c then .unknownFlag else other
  | .escaped _ => other

/-- Flags that are turned on, from the letter given, and the character that ends them. -/
def readFlagsOn : Nat → Char → Mode → Cursor → Except Fault (Mode × Char × Cursor)
  | 0, _, _, cur => cur.fail .missingFlagEnd 0
  | fuel + 1, letter, on, cur => do
    if letter = 'L' then cur.fail .localeFlag 0
    let on := on.union ((flag? letter).getD {})
    if on.ascii && on.unicode then cur.fail .incompatibleTypeFlags 0
    let (token, after) ← cur.take
    match token with
    | none => after.fail .missingFlagEnd 0
    | some token =>
      match token with
      | .char c =>
        if c = ')' || c = '-' || c = ':' then return (on, c, after)
        else if (flag? c).isSome then readFlagsOn fuel c on after
        else after.fail (unknownFlagOr token .missingFlagEnd) token.chars.length
      | .escaped _ => after.fail .missingFlagEnd token.chars.length

/-- Flags that are turned off, from the letter given, up to the colon. -/
def readFlagsOff : Nat → Char → Mode → Cursor → Except Fault (Mode × Cursor)
  | 0, _, _, cur => cur.fail .missingColon 0
  | fuel + 1, letter, off, cur => do
    if letter = 'L' || letter = 'a' || letter = 'u' then cur.fail .typeFlagTurnedOff 0
    let off := off.union ((flag? letter).getD {})
    let (token, after) ← cur.take
    match token with
    | none => after.fail .missingColon 0
    | some token =>
      match token with
      | .char c =>
        if c = ':' then return (off, after)
        else if (flag? c).isSome then readFlagsOff fuel c off after
        else after.fail (unknownFlagOr token .missingColon) token.chars.length
      | .escaped _ => after.fail .missingColon token.chars.length

/-- The flags that a minus sign turns off. -/
def readFlagsAfterMinus (cur : Cursor) : Except Fault (Mode × Cursor) := do
  let (token, after) ← cur.take
  match token with
  | none => after.fail .missingFlag 0
  | some token =>
    match token with
    | .char c =>
      if (flag? c).isSome then readFlagsOff (after.rest.length + 1) c {} after
      else after.fail (unknownFlagOr token .missingFlag) token.chars.length
    | .escaped _ => after.fail .missingFlag token.chars.length

/-- The flags of a group that starts at `start`: they hold for the whole pattern or for a group of
their own. -/
def readFlags (s : State) (start : Nat) (letter : Char) (cur : Cursor) : Except Fault State := do
  let (on, stop, cur) ←
    if letter = '-' then pure (({} : Mode), '-', cur)
    else readFlagsOn (cur.rest.length + 1) letter {} cur
  if stop = ')' then
    if !s.outer.isEmpty || !s.frame.done.isEmpty || !s.frame.items.isEmpty then
      .error (.unreadable .lateGlobalFlags start)
    return { s with cursor := cur, frame := { s.frame with mode := s.frame.mode.union on } }
  if on.template then cur.fail .globalFlagTurnedOn 1
  let (off, cur) ← if stop = '-' then readFlagsAfterMinus cur else pure (({} : Mode), cur)
  if off.template then cur.fail .globalFlagTurnedOff 1
  if on.overlaps off then cur.fail .contradictoryFlags 1
  return (s.atCursor cur).enter .flagged start (s.frame.mode.within on off)

/-- A name of a group and the place after it. -/
def readGroupName (terminator : Char) (cur : Cursor) : Except Fault (String × Nat × Cursor) := do
  let (name, after) ← cur.takeName terminator .missingGroupName
  if Text.isIdentifier name then return (String.ofList name, name.length, after)
  else after.fail (.badNameCharacter (String.ofList name)) (name.length + 1)

def enterCapture (s : State) (start : Nat) (name : Option (String × Nat)) (cur : Cursor) :
    Except Fault State := do
  let group := s.nextGroup
  let names ← match name with
    | none => pure s.names
    | some (name, length) =>
      match s.names.lookup name with
      | some earlier => cur.fail (.repeatedGroupName name group earlier) (length + 1)
      | none => pure ((name, group) :: s.names)
  let s := { s with cursor := cur, groups := s.groups ++ [none], names }
  return s.enter (.capture group) start s.frame.mode

/-- Named groups and references to them, which start with a capital P. -/
def readNamedGroup (s : State) (start : Nat) (cur : Cursor) : Except Fault State := do
  match ← cur.skipChar? '<' with
  | some after =>
    let (name, length, after) ← readGroupName '>' after
    enterCapture s start (some (name, length)) after
  | none =>
    match ← cur.skipChar? '=' with
    | some after =>
      let (name, length, after) ← readGroupName ')' after
      match s.names.lookup name with
      | none => after.fail (.unknownGroupName name) (length + 1)
      | some group => s.pushReference group (length + 1) after
    | none =>
      let (token, after) ← cur.take
      match token with
      | none => after.fail .unexpectedEnd 0
      | some token => after.fail (.unknownExtension ("P" ++ token.text)) (token.chars.length + 2)

def enterLook (s : State) (start : Nat) (behind negated : Bool) (cur : Cursor) : State :=
  let mark := s.lookbehindMark
  let s := if behind && mark.isNone then { s with lookbehindMark := some s.nextGroup } else s
  (s.atCursor cur).enter (.look behind negated mark) start s.frame.mode

def maxGroups : Nat := 1073741823

/-- The group that a choice depends on, given by name or number. -/
def readChoiceGroup (s : State) (cur : Cursor) : Except Fault (Nat × State) := do
  let (name, after) ← cur.takeName ')' .missingGroupName
  let back := name.length + 1
  if Text.isIdentifier name then
    match s.names.lookup (String.ofList name) with
    | none => after.fail (.unknownGroupName (String.ofList name)) back
    | some group => return (group, s.atCursor after)
  else
    match Text.integer? name with
    | none => after.fail (.badNameCharacter (String.ofList name)) back
    | some n =>
      if n < 0 then after.fail (.badNameCharacter (String.ofList name)) back
      let group := n.toNat
      if group = 0 then after.fail .badGroupNumber back
      if maxGroups ≤ group then after.fail (.invalidGroupReference group) back
      let choices :=
        if s.choices.any (·.1 == group) then s.choices
        else s.choices ++ [(group, after.position - back)]
      return (group, { s with cursor := after, choices })

/-- Starts a choice that depends on a group. -/
def enterChoice (s : State) (start : Nat) (cur : Cursor) : Except Fault State := do
  let (group, s) ← readChoiceGroup s cur
  s.checkLookbehind group s.cursor
  return s.enter (.choice group none) start s.frame.mode

/-- Starts what a parenthesis and question mark at `start` introduce. -/
def readExtension (s : State) (start : Nat) (cur : Cursor) : Except Fault State := do
  let (token, after) ← cur.take
  match token with
  | none => after.fail .unexpectedEnd 0
  | some (.escaped c) => after.fail (.unknownExtension (String.ofList ['\\', c])) 3
  | some (.char c) =>
    match c with
    | 'P' => readNamedGroup s start after
    | ':' => return (s.atCursor after).enter .bare start s.frame.mode
    | '#' => return s.atCursor (← skipComment start (after.rest.length + 1) after)
    | '=' => return enterLook s start false false after
    | '!' => return enterLook s start false true after
    | '<' =>
      let (token, after) ← after.take
      match token with
      | none => after.fail .unexpectedEnd 0
      | some (.char '=') => return enterLook s start true false after
      | some (.char '!') => return enterLook s start true true after
      | some token => after.fail (.unknownExtension ("<" ++ token.text)) (token.chars.length + 2)
    | '(' => enterChoice s start after
    | '>' => return (s.atCursor after).enter .atomic start s.frame.mode
    | _ =>
      if (flag? c).isSome || c = '-' then readFlags s start c after
      else after.fail (.unknownExtension c.toString) 2

/-- Adds what an escape stands for. The backslash stands at `start`. -/
def pushEscape (s : State) (start : Nat) (letter : Char) (cur : Cursor) : Except Fault State := do
  let (value, after) ← Escape.read start letter cur
  let mode := s.frame.mode
  match value with
  | .code n => return (s.atCursor after).pushCode n
  | .category cat negated =>
    return (s.atCursor after).pushPattern
      (.one (.ofSet mode.fold mode.ascii false [.category cat negated]))
  | .textStart => return (s.atCursor after).push (.anchor .textStart)
  | .textEnd => return (s.atCursor after).push (.anchor .textEnd)
  | .wordBoundary negated =>
    return (s.atCursor after).push (.anchor (.wordBoundary negated mode.ascii))
  | .group n =>
    if n ≤ s.groups.length then s.pushReference n (after.position - start) after
    else .error (.unreadable (.invalidGroupReference n) (start + 1))

/-- Adds the group that ends at the cursor, which is past its parenthesis, to the frame around. -/
def leave (s : State) (frame : Frame) (outer : List Frame) (cur : Cursor) : State :=
  let body := s.frame.body
  let p := patternOf body
  let s' : State := { s with cursor := cur, frame, outer }
  match s.frame.opening with
  | .whole => s'
  | .capture group =>
    let s' := { s' with groups := s'.groups.set (group - 1) (some p.width) }
    s'.pushPattern (.capture group p)
  | .bare => s'.push (.bare body)
  | .flagged => s'.push (.flagged p)
  | .atomic => s'.pushPattern (.atomic p)
  | .look behind negated mark =>
    let s' := if behind then { s' with lookbehindMark := mark } else s'
    s'.pushPattern (.look behind negated p)
  | .choice group yes =>
    match yes with
    | none => s'.pushPattern (.choice group (patternOf s.frame.current) .empty)
    | some yes =>
      s'.pushPattern (.choice group yes (patternOf s.frame.current))

/-- Ends the current alternative at the bar under the cursor. -/
def nextAlternative (s : State) (cur : Cursor) : Except Fault State := do
  match s.frame.opening with
  | .choice group none =>
    let yes := patternOf s.frame.current
    let frame := { s.frame with opening := .choice group (some yes), items := [] }
    return { s with cursor := ← cur.skip, frame }
  | .choice _ (some _) => cur.fail .extraBranch 0
  | _ =>
    let frame := { s.frame with done := s.frame.current :: s.frame.done, items := [] }
    return { s with cursor := ← cur.skip, frame }

/-- Reads what starts with an ordinary character. The cursor is past it. -/
def readChar (s : State) (start : Nat) (c : Char) (cur : Cursor) : Except Fault State := do
  let mode := s.frame.mode
  match c with
  | '[' => readSet s start cur
  | '.' =>
    return (s.atCursor cur).pushPattern (.one (if mode.dotAll then .any else .notNewline))
  | '^' =>
    return (s.atCursor cur).push (.anchor (if mode.multiline then .lineStart else .textStart))
  | '$' =>
    return (s.atCursor cur).push (.anchor (if mode.multiline then .lineEnd else .lastLineEnd))
  | '?' => repeatLast s start 0 (some 1) cur
  | '*' => repeatLast s start 0 none cur
  | '+' => repeatLast s start 1 none cur
  | '\x7b' =>
    match ← readBounds? cur with
    | none => return (s.atCursor cur).pushCode c.toNat
    | some ((least, most), after) => repeatLast s start least most after
  | '(' =>
    match ← cur.skipChar? '?' with
    | some after => readExtension s start after
    | none => enterCapture s start none cur
  | _ => return (s.atCursor cur).pushCode c.toNat

/-- Reads the next token and what belongs to it; none at the end of the whole pattern. -/
def step (s : State) : Except Fault (Option State) := do
  let cur := s.cursor
  match cur.next? with
  | none =>
    match s.outer with
    | [] => return none
    | _ => .error (.unreadable .unterminatedGroup s.frame.start)
  | some (.char ')') =>
    match s.outer with
    | [] => return none
    | frame :: outer => return some (leave s frame outer (← cur.skip))
  | some (.char '|') => return some (← nextAlternative s cur)
  | some (.escaped c) => return some (← pushEscape s cur.position c (← cur.skip))
  | some (.char c) =>
    let after ← cur.skip
    if s.frame.mode.verbose && isVerboseSpace c then return some (s.atCursor after)
    else if s.frame.mode.verbose && c = '#' then
      return some (s.atCursor (← skipLine (after.rest.length + 1) after))
    else return some (← readChar s cur.position c after)

/-- Steps until the whole pattern ends. -/
def run : Nat → State → Except Fault State
  | 0, s => .ok s
  | fuel + 1, s => do
    match ← step s with
    | none => return s
    | some s => run fuel s

end Reader

namespace Pattern

/-- The first repetition or look-behind that cannot be used, in the order of the text. -/
def firstFault? (template : Bool) : Pattern → Option Fault
  | .seq p q => (p.firstFault? template).or (q.firstFault? template)
  | .alt p q => (p.firstFault? template).or (q.firstFault? template)
  | .capture _ p => p.firstFault? template
  | .choice _ p q => (p.firstFault? template).or (q.firstFault? template)
  | .look behind _ p =>
    if behind && 4294967295 < p.width.least then some .lookbehindTooWide
    else if behind && !p.width.isFixed then some .variableLookbehind
    else p.firstFault? template
  | .atomic p => p.firstFault? template
  | .loop kind _ _ p =>
    if template then some (.templateRepetition kind) else p.firstFault? template
  | _ => none

/-- The set that every match begins with, when it is at the front and no item of it has case. -/
def leadingSet? : Pattern → Option (Bool × Bool × List SetItem)
  | .seq p _ => p.leadingSet?
  | .capture _ p => p.leadingSet?
  | .one (.set f ascii negated items) =>
    let hasCase : SetItem → Bool
      | .char n => f.hasCase n
      | item => item.hasCase f
    if items.any hasCase then none else some (ascii, negated, items)
  | _ => none

/-- A search takes up only characters of the leading set, and judges the classes in this set by the
flags of the whole pattern, even where a group has flags of its own. -/
def screened (ascii : Bool) (p : Pattern) : Pattern :=
  match p.leadingSet? with
  | some (own, negated, items) =>
    if own = ascii then p
    else .seq (.look false false (.one (.set .exact ascii negated items))) p
  | none => p

/-- The pattern that a text stands for under the given flags. -/
def parse (text : String) (mode : Mode) : Except Fault Pattern := do
  let cs := text.toList
  let cursor ← (Cursor.mk 0 cs).checked
  let s ← Reader.run (cs.length + 1)
    { cursor, frame := { opening := .whole, start := 0, mode } }
  if s.frame.mode.ascii && s.frame.mode.unicode then .error .asciiAndUnicode
  if s.cursor.next?.isSome then s.cursor.fail .unbalancedParenthesis 0
  match s.choices.find? fun c => s.groups.length < c.1 with
  | some (group, position) => .error (.unreadable (.invalidGroupReference group) position)
  | none => pure ()
  let p := Reader.patternOf s.frame.body
  match p.firstFault? s.frame.mode.template with
  | some fault => .error fault
  | none => return p.screened s.frame.mode.ascii

end Pattern

end ClauseAudit.Regex
