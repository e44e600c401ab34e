import ClauseAudit.Api.Service
import ClauseAudit.Command.Arguments
import ClauseAudit.Command.Outcome

/-!
# Serving

Where the service listens: its arguments go before the settings.
-/

namespace ClauseAudit.Command.Serve

open ClauseAudit

def grammar : Grammar :=
  { options := [⟨"config", .text⟩, ⟨"host", .text⟩, ⟨"port", .integer⟩], operands := 0 }

def title : String := "policylab"

structure Address where
  host : String
  port : Int
deriving DecidableEq, Repr

/-- The port that the arguments name, unless it is zero. -/
def port? (a : Arguments) : Option Int :=
  ((a.value? "port").bind fun text => Text.integer? text.toList).filter (· ≠ 0)

def service (w : World) (a : Arguments) : Except Fault (Api.Service × Address) := do
  let settings ← w.settings (a.value? "config")
  let service ← (Api.Service.start settings w.now).mapError .level
  return (service, { host := (a.nonempty? "host").getD settings.api.host
                     port := (port? a).getD settings.api.port })

end ClauseAudit.Command.Serve
