import ClauseAudit.Json.Reader
import ClauseAudit.Settings.Issue

/-!
# Request bodies

A body is JSON when its content type says so, and otherwise a plain text, which no route takes.
Every route asks for an object with certain fields; all issues with them are reported together
with the values at fault.
-/

namespace ClauseAudit.Api

structure Body where
  text : String
  contentType : String
  deriving DecidableEq, Repr

/-- An issue with a body and the value at fault. -/
structure Detail where
  issue : Issue
  input : Json.Value

namespace Detail

def toJson (d : Detail) : Json.Value :=
  let context := d.issue.problem.context
  .obj ([("type", .str d.issue.problem.kind),
      ("loc", .arr ((Step.field "body" :: d.issue.place).map Step.toJson)),
      ("msg", .str d.issue.problem.message), ("input", d.input)]
    ++ (if context.isEmpty then [] else [("ctx", .obj context)]))

def atBody (p : Problem) (input : Json.Value) : Detail := ⟨⟨[], p⟩, input⟩

def atField (name : String) (p : Problem) (input : Json.Value) : Detail :=
  ⟨⟨[.field name], p⟩, input⟩

end Detail

/-- Why a body is not taken. -/
inductive Refusal where
  /-- A number in it is too long to be read. -/
  | unparsable
  | issues (details : List Detail)

/-- A value from a body. -/
abbrev Taken (α : Type) := Except Refusal α

def Taken.issue (d : Detail) : Taken α := .error (.issues [d])

/-- Two values; issues on both sides are kept. -/
def Taken.both (x : Taken α) (y : Taken β) : Taken (α × β) :=
  match x, y with
  | .ok x, .ok y => .ok (x, y)
  | .error (.issues a), .error (.issues b) => .error (.issues (a ++ b))
  | .error r, _ => .error r
  | _, .error r => .error r

def isJsonType (contentType : String) : Bool :=
  let essence := (contentType.toList.takeWhile (· != ';')).filter (· != ' ')
  let essence := essence.map fun c => if 'A' ≤ c && c ≤ 'Z' then Char.ofNat (c.toNat + 32) else c
  match essence.splitOn '/' with
  | [main, sub] =>
    main == "application".toList && (sub == "json".toList || "+json".toList.isSuffixOf sub)
  | _ => false

def byteOrderMark : Char := Char.ofNat 0xFEFF

def dropMark (text : String) : String :=
  match text.toList with
  | c :: rest => if c = byteOrderMark then String.ofList rest else text
  | [] => text

def Body.value (b : Body) : Taken Json.Value :=
  if !isJsonType b.contentType then .ok (.str b.text)
  else
    match Json.readWithin (some Text.maxIntegerDigits) (dropMark b.text) with
    | .ok v => .ok v
    | .error ⟨.longInteger _, _⟩ => .error .unparsable
    | .error f => .issue ⟨⟨[.index f.position], .malformed f.cause.message⟩, .obj []⟩

def fieldsOf (body : Option Body) : Taken Json.Fields :=
  match body with
  | none => .issue (.atBody .missing .null)
  | some b =>
    if b.text.isEmpty then .issue (.atBody .missing .null)
    else do
      match ← b.value with
      | .obj fields => return fields
      | v => .issue (.atBody .notBody v)

/-- A text of at least one character and at most so many. -/
def textField (fields : Json.Fields) (name : String) (most : Int) : Taken String :=
  match fields.lookup name with
  | none => .issue (.atField name .missing (.obj fields))
  | some (.str s) =>
    if s.isEmpty then .issue (.atField name (.tooShort 1) (.str s))
    else if most < s.length then .issue (.atField name (.tooLong most) (.str s))
    else .ok s
  | some v => .issue (.atField name .notString v)

def objectField (fields : Json.Fields) (name : String) : Taken Json.Value :=
  match fields.lookup name with
  | none => .issue (.atField name .missing (.obj fields))
  | some (.obj inner) => .ok (.obj inner)
  | some v => .issue (.atField name .notObject v)

mutual

/-- The value can be written as standard JSON: no number in it is infinite or not a number. -/
def isFinite : Json.Value → Bool
  | .real (.infinite _) => false
  | .real .nan => false
  | .arr items => areFinite items
  | .obj fields => haveFinite fields
  | _ => true

def areFinite : List Json.Value → Bool
  | [] => true
  | v :: rest => isFinite v && areFinite rest

def haveFinite : List (String × Json.Value) → Bool
  | [] => true
  | (_, v) :: rest => isFinite v && haveFinite rest

end

end ClauseAudit.Api
