import PickupGame.Api.Client
import PickupGame.Api.Key
import PickupGame.CommandLine.Trace
import PickupGame.Display.Result
import PickupGame.Failure
import PickupGame.Platform
import PickupGame.Settings.Listing

/-!
# Session

Settings in memory with the choices made for a run, and what becomes of the commands given to it. A
call looks up its profile first and then the API key, and sends one request. A change of the settings
is kept in memory also when the file cannot be written.
-/

namespace PickupGame

open Storage (Disk)
open Settings (Config Profile)
open CommandLine (Command)

/-- The file of settings is absent where there is no place for it. -/
structure Session where
  config : Config
  file : Option String
  profile : String
  apiKey : Option String
  url : Option String
  json : Bool

namespace Session

/-- What a command leaves behind: the session and the disk, the text it printed, what it reported,
and how it ended. -/
structure Report where
  session : Session
  disk : Disk
  output : String
  log : List Log.Entry
  result : Except Failure Unit

def access (s : Session) : Except Failure (Profile × String) :=
  match s.config.profile s.profile with
  | .error e => .error (.config e)
  | .ok p =>
    match Api.usableKey? s.apiKey with
    | some key => .ok (p, key)
    | none => .error (.keyRequired Api.keyHint)

/-- The address of the service: the one given for the run before that of the profile. -/
def address (s : Session) (p : Profile) : String :=
  s.url.getD p.apiUrl

def seconds (p : Profile) : UInt64 :=
  p.timeout.getD Api.Client.defaultSeconds

def client (s : Session) (p : Profile) (key : String) : Api.Client :=
  .new (s.address p) key (seconds p)

def render [Display.Screen] (s : Session) (e : Api.Envelope) : String × List Log.Entry :=
  if s.json then (e.raw.pretty, []) else Display.result e

def refusal (e : Api.Envelope) : List Log.Entry :=
  if e.code.isRefusal then [Log.warn .dispatcher s!"server refused the request: {e.code.display}"]
  else []

/-- The report on the outcome of a call; `log` is what was reported before it. -/
def conclude [Display.Screen] (s : Session) (d : Disk) (log : List Log.Entry)
    (o : Api.Client.Outcome) : Report :=
  match o.result with
  | .ok e =>
    let shown := s.render e
    ⟨s, d, shown.1 ++ "\n", log ++ o.log ++ refusal e ++ shown.2, .ok ()⟩
  | .error f => ⟨s, d, "", log ++ o.log, .error (.api f)⟩

def placeEntry (s : Session) (p : Profile) : Log.Entry :=
  Log.debug .dispatcher
    s!"Using profile '{s.profile}' at {s.address p} (timeout {(seconds p).toNat}s)"

def call [Platform] (s : Session) (d : Disk) (c : Api.Call) : Http.Plan Report :=
  let traced := Log.debug .dispatcher (Command.trace c)
  match s.access with
  | .error f => .done ⟨s, d, "", [traced], .error f⟩
  | .ok (p, key) => ((s.client p key).exchange c).map (s.conclude d [traced, s.placeEntry p])

def save (s : Session) (d : Disk) : Disk × Except Settings.StorageFault Unit :=
  match s.file with
  | some path => s.config.save d path
  | none => (d, .error .noDirectory)

def listing (s : Session) : String :=
  Text.unlinesOf (s.config.listing s.profile (Api.usableKey? s.apiKey).isSome) ++ "\n"

def set (s : Session) (d : Disk) (key value : String) : Report :=
  let log := [Log.debug .dispatcher s!"config set {key} = {value} on '{s.profile}'"]
  match s.config.setValue s.profile key value with
  | .error e => ⟨s, d, "", log, .error (.config e)⟩
  | .ok config =>
    let s := { s with config }
    match s.save d with
    | (d, .ok ()) => ⟨s, d, s!"✅ Set {key} for profile '{s.profile}'\n", log, .ok ()⟩
    | (d, .error e) => ⟨s, d, "", log, .error (.storage e)⟩

def perform [Platform] (s : Session) (d : Disk) : Command → Http.Plan Report
  | .call c => s.call d c
  | .showConfig => .done ⟨s, d, s.listing, [], .ok ()⟩
  | .setConfig key value => .done (s.set d key value)

end Session

end PickupGame
