import PickupGame.Api.Failure
import PickupGame.Settings.File

/-!
# Failures of a command

What can end a command early: a missing API key, a failed exchange, a setting that cannot be used or
a file that cannot be read or written. Each failure has a severity and perhaps a hint at the remedy.
-/

namespace PickupGame

inductive Failure
  | keyRequired (hint : String)
  | api (failure : Api.Failure)
  | config (fault : Settings.Fault)
  | storage (fault : Settings.StorageFault)
  deriving DecidableEq, Repr

inductive Severity
  | critical
  | high
  | medium
  | low
  deriving DecidableEq, Repr

def Severity.label : Severity → String
  | .critical => "critical"
  | .high => "high"
  | .medium => "medium"
  | .low => "low"

namespace Failure

def layer : Failure → String
  | keyRequired _ => "Cli"
  | api _ => "Api"
  | config _ => "Config"
  | storage _ => "Storage"

/-- What went wrong, without the layer. -/
def detail : Failure → String
  | keyRequired _ => "API key required"
  | api f => f.message
  | config f => f.message
  | storage f => f.message

def message (f : Failure) : String :=
  s!"{f.layer}Error: {f.detail}"

def severity : Failure → Severity
  | keyRequired _ => .low
  | api (.transport ..) => .high
  | api (.timeout ..) => .medium
  | api (.http _ status _) => if 500 ≤ status then .high else .medium
  | api (.decode ..) => .high
  | api (.unknownCode ..) => .high
  | api (.payload ..) => .medium
  | config _ => .high
  | storage .noDirectory => .critical
  | storage _ => .medium

def hint? : Failure → Option String
  | keyRequired hint => some hint
  | api (.transport ..) | api (.timeout ..) =>
    some "Check that the pug API server is running and that api_url is correct"
  | api (.http _ status _) =>
    if status = 403 then some "The server rejected the API key; check PUG_API_KEY" else none
  | config (.profileNotFound _) => some "'pug-cli config set api_url <url>' creates the profile"
  | config (.unknownKey _) => some "Supported keys: api_url, timeout_seconds"
  | _ => none

def report (f : Failure) : List String :=
  s!"Error [{f.severity.label}]: {f.message}" :: (f.hint?.map fun h => s!"Hint: {h}").toList

end Failure

end PickupGame
