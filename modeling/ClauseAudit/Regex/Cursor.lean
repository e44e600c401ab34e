import ClauseAudit.Regex.Fault

/-!
# Tokens of a pattern

A pattern is read one token at a time: a character, or a backslash with the character after it. A
backslash that ends the pattern is a fault as soon as it becomes the next token.
-/

namespace ClauseAudit.Regex

inductive Token where
  | char (c : Char)
  | escaped (c : Char)
  deriving DecidableEq, Repr

/-- The characters of a token. -/
def Token.chars : Token → List Char
  | .char c => [c]
  | .escaped c => ['\\', c]

def Token.text (t : Token) : String := String.ofList t.chars

/-- The unread part of a pattern and the index of its first character. -/
structure Cursor where
  position : Nat
  rest : List Char

namespace Cursor

def next? (cur : Cursor) : Option Token :=
  match cur.rest with
  | [] => none
  | '\\' :: c :: _ => some (.escaped c)
  | c :: _ => some (.char c)

/-- A fault reported `back` characters before the next token. -/
def fail (cur : Cursor) (reason : Reason) (back : Nat) : Except Fault α :=
  .error (.unreadable reason (cur.position - back))

/-- A cursor whose next token is whole. -/
def checked (cur : Cursor) : Except Fault Cursor :=
  match cur.rest with
  | ['\\'] => cur.fail .escapeAtEnd 0
  | _ => .ok cur

def skip (cur : Cursor) : Except Fault Cursor :=
  match cur.rest with
  | [] => .ok cur
  | '\\' :: _ :: rest => checked ⟨cur.position + 2, rest⟩
  | _ :: rest => checked ⟨cur.position + 1, rest⟩

def take (cur : Cursor) : Except Fault (Option Token × Cursor) := do
  return (cur.next?, ← cur.skip)

def nextIs (cur : Cursor) (c : Char) : Bool := cur.next? == some (.char c)

def skipChar? (cur : Cursor) (c : Char) : Except Fault (Option Cursor) := do
  if cur.nextIs c then return some (← cur.skip) else return none

def takeUpTo (cur : Cursor) (cls : Char → Bool) : Nat → Except Fault (List Char × Cursor)
  | 0 => .ok ([], cur)
  | limit + 1 =>
    match cur.next? with
    | some (.char c) =>
      if cls c then do
        let (cs, after) ← (← cur.skip).takeUpTo cls limit
        return (c :: cs, after)
      else .ok ([], cur)
    | _ => .ok ([], cur)

def takeWhile (cur : Cursor) (cls : Char → Bool) : Except Fault (List Char × Cursor) :=
  cur.takeUpTo cls cur.rest.length

/-- The characters up to a terminator, and the place after it. -/
def takeNameFrom (terminator : Char) (missing : Reason) (acc : List Char) :
    Nat → Cursor → Except Fault (List Char × Cursor)
  | 0, cur => cur.fail missing 0
  | fuel + 1, cur => do
    let (token, after) ← cur.take
    match token with
    | none =>
      if acc.isEmpty then after.fail missing 0
      else after.fail (.unterminatedName terminator) acc.length
    | some token =>
      if token = .char terminator then
        if acc.isEmpty then after.fail missing 1 else return (acc, after)
      else takeNameFrom terminator missing (acc ++ token.chars) fuel after

def takeName (cur : Cursor) (terminator : Char) (missing : Reason) :
    Except Fault (List Char × Cursor) :=
  takeNameFrom terminator missing [] (cur.rest.length + 1) cur

end Cursor

end ClauseAudit.Regex
