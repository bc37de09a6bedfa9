/-!
# Response codes

The codes a server sends in the `response` entry of its answers. Several answers carry the same data
under different codes, so the code tells which action happened.
-/

namespace PickupGame.Api

/-- `none` stands for an answer without a code. -/
inductive ResponseCode
  | none
  | pugListing
  | pugStatus
  | invalidPug
  | pugCreated
  | pugEnded
  | pugFull
  | emptyPugEnded
  | playerList
  | playerInPug
  | playerNotInPug
  | playerAdded
  | playerRemoved
  | mapVoteAdded
  | mapForced
  | mapNotForced
  | mapVoteNotInProgress
  | invalidMap
  | noAvailableServers
  | serverConnectionError
  deriving DecidableEq, Repr

namespace ResponseCode

def all : List ResponseCode :=
  [none, pugListing, pugStatus, invalidPug, pugCreated, pugEnded, pugFull, emptyPugEnded,
    playerList, playerInPug, playerNotInPug, playerAdded, playerRemoved, mapVoteAdded, mapForced,
    mapNotForced, mapVoteNotInProgress, invalidMap, noAvailableServers, serverConnectionError]

theorem mem_all (c : ResponseCode) : c ∈ all := by
  cases c <;> decide

def number : ResponseCode → Nat
  | none => 0
  | pugListing => 1000
  | pugStatus => 1001
  | invalidPug => 1002
  | pugCreated => 1003
  | pugEnded => 1004
  | pugFull => 1005
  | emptyPugEnded => 1006
  | playerList => 1100
  | playerInPug => 1101
  | playerNotInPug => 1102
  | playerAdded => 1103
  | playerRemoved => 1104
  | mapVoteAdded => 1200
  | mapForced => 1201
  | mapNotForced => 1202
  | mapVoteNotInProgress => 1203
  | invalidMap => 1204
  | noAvailableServers => 1300
  | serverConnectionError => 1301

def ofNumber? : Int → Option ResponseCode
  | 0 => some none
  | 1000 => some pugListing
  | 1001 => some pugStatus
  | 1002 => some invalidPug
  | 1003 => some pugCreated
  | 1004 => some pugEnded
  | 1005 => some pugFull
  | 1006 => some emptyPugEnded
  | 1100 => some playerList
  | 1101 => some playerInPug
  | 1102 => some playerNotInPug
  | 1103 => some playerAdded
  | 1104 => some playerRemoved
  | 1200 => some mapVoteAdded
  | 1201 => some mapForced
  | 1202 => some mapNotForced
  | 1203 => some mapVoteNotInProgress
  | 1204 => some invalidMap
  | 1300 => some noAvailableServers
  | 1301 => some serverConnectionError
  | _ => Option.none

@[simp] theorem ofNumber?_number (c : ResponseCode) : ofNumber? c.number = some c := by
  cases c <;> rfl

def name : ResponseCode → String
  | none => "None"
  | pugListing => "PugListing"
  | pugStatus => "PugStatus"
  | invalidPug => "InvalidPug"
  | pugCreated => "PugCreated"
  | pugEnded => "PugEnded"
  | pugFull => "PugFull"
  | emptyPugEnded => "EmptyPugEnded"
  | playerList => "PlayerList"
  | playerInPug => "PlayerInPug"
  | playerNotInPug => "PlayerNotInPug"
  | playerAdded => "PlayerAdded"
  | playerRemoved => "PlayerRemoved"
  | mapVoteAdded => "MapVoteAdded"
  | mapForced => "MapForced"
  | mapNotForced => "MapNotForced"
  | mapVoteNotInProgress => "MapVoteNotInProgress"
  | invalidMap => "InvalidMap"
  | noAvailableServers => "NoAvailableServers"
  | serverConnectionError => "ServerConnectionError"

/-- The codes with which a server refuses the requested action. -/
def isRefusal : ResponseCode → Bool
  | none | invalidPug | pugFull | playerInPug | playerNotInPug | mapNotForced
  | mapVoteNotInProgress | invalidMap | noAvailableServers | serverConnectionError => true
  | _ => false

def display (c : ResponseCode) : String :=
  s!"{c.name} ({c.number})"

end ResponseCode

end PickupGame.Api
