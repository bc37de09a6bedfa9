import PickupGame.Api.Envelope
import PickupGame.Api.Pug

/-!
# Payloads

The typed view of an envelope's data. Its response code decides which entry carries the payload and
of what type that is; codes without a payload need no data.
-/

namespace PickupGame.Api

open Json (Value Members Decoder)

inductive Payload
  | none
  | pugListing (pugs : List Pug)
  | pugStatus (pug : Pug)
  | invalidPug
  | pugCreated (pug : Pug)
  | pugEnded (id : UInt64)
  | pugFull
  | emptyPugEnded
  | playerList (players : List Player)
  | playerInPug
  | playerNotInPug
  | playerAdded (pug : Pug)
  | playerRemoved (pug : Pug)
  | mapVoteAdded (pug : Pug)
  | mapForced (pug : Pug)
  | mapNotForced
  | mapVoteNotInProgress
  | invalidMap
  | noAvailableServers
  | serverConnectionError

namespace Payload

def code : Payload → ResponseCode
  | none => .none
  | pugListing _ => .pugListing
  | pugStatus _ => .pugStatus
  | invalidPug => .invalidPug
  | pugCreated _ => .pugCreated
  | pugEnded _ => .pugEnded
  | pugFull => .pugFull
  | emptyPugEnded => .emptyPugEnded
  | playerList _ => .playerList
  | playerInPug => .playerInPug
  | playerNotInPug => .playerNotInPug
  | playerAdded _ => .playerAdded
  | playerRemoved _ => .playerRemoved
  | mapVoteAdded _ => .mapVoteAdded
  | mapForced _ => .mapForced
  | mapNotForced => .mapNotForced
  | mapVoteNotInProgress => .mapVoteNotInProgress
  | invalidMap => .invalidMap
  | noAvailableServers => .noAvailableServers
  | serverConnectionError => .serverConnectionError

def pug? : Payload → Option Pug
  | pugStatus p | pugCreated p | playerAdded p | playerRemoved p | mapVoteAdded p | mapForced p =>
    some p
  | _ => Option.none

end Payload

namespace Envelope

def entry {α : Type} (e : Envelope) (name : String) (item : Decoder α) : Except Failure α :=
  match e.data.get? name with
  | none => .error (.payload e.code.name s!"missing '{name}'")
  | some v =>
    match item v with
    | .ok a => .ok a
    | .error m => .error (.payload e.code.name s!"invalid '{name}': {m.message}")

/-- The payload that the code of an envelope calls for. -/
def payload (e : Envelope) : Except Failure Payload :=
  match e.code with
  | .none => .ok .none
  | .pugListing => (e.entry "pugs" (Json.Decode.list Pug.decode)).map .pugListing
  | .pugStatus => (e.entry "pug" Pug.decode).map .pugStatus
  | .invalidPug => .ok .invalidPug
  | .pugCreated => (e.entry "pug" Pug.decode).map .pugCreated
  | .pugEnded => (e.entry "id" Json.Decode.uint64).map .pugEnded
  | .pugFull => .ok .pugFull
  | .emptyPugEnded => .ok .emptyPugEnded
  | .playerList => (e.entry "players" (Json.Decode.list Player.decode)).map .playerList
  | .playerInPug => .ok .playerInPug
  | .playerNotInPug => .ok .playerNotInPug
  | .playerAdded => (e.entry "pug" Pug.decode).map .playerAdded
  | .playerRemoved => (e.entry "pug" Pug.decode).map .playerRemoved
  | .mapVoteAdded => (e.entry "pug" Pug.decode).map .mapVoteAdded
  | .mapForced => (e.entry "pug" Pug.decode).map .mapForced
  | .mapNotForced => .ok .mapNotForced
  | .mapVoteNotInProgress => .ok .mapVoteNotInProgress
  | .invalidMap => .ok .invalidMap
  | .noAvailableServers => .ok .noAvailableServers
  | .serverConnectionError => .ok .serverConnectionError

end Envelope

end PickupGame.Api
