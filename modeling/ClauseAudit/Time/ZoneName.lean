import ClauseAudit.Text.Case
import ClauseAudit.Text.Quoted
import ClauseAudit.Time.ZoneTable

/-!
# Zones by name

Names are compared without regard to case. Signs in names may be spelled out between underscores.
-/

namespace ClauseAudit.Time

/-- Replaces every occurrence of a sequence that is not empty, from the left. -/
def replaceAll (old new : List Char) : Nat → List Char → List Char
  | 0, cs => cs
  | _ + 1, [] => []
  | fuel + 1, c :: rest =>
    if old.isPrefixOf (c :: rest) then new ++ replaceAll old new fuel ((c :: rest).drop old.length)
    else c :: replaceAll old new fuel rest

/-- A name with its signs as characters. -/
def withSigns (name : String) : String :=
  let cs := name.toList
  let cs := replaceAll "_plus_".toList ['+'] cs.length cs
  String.ofList (replaceAll "_minus_".toList ['-'] cs.length cs)

structure UnknownZone where
  name : String
  deriving DecidableEq, Repr

def UnknownZone.message (u : UnknownZone) : String := Text.quoted u.name

def Zone.ofName (name : String) : Except UnknownZone Zone :=
  if Text.upper name = "UTC" then .ok .universal
  else if name.toList.any fun c => 0x80 ≤ c.val then .error ⟨name⟩
  else
    let name := withSigns name
    let lowered := Text.lower name
    match zoneEntries.find? fun e => e.names.any fun n => Text.lower n == lowered with
    | some e => .ok e.zone
    | none => .error ⟨name⟩

end ClauseAudit.Time
