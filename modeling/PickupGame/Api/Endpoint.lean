import PickupGame.Http.Method

/-!
# Endpoints

The nine operations of the service, each with a method and a path below the base address. Every path
ends in a slash.
-/

namespace PickupGame.Api

inductive Endpoint
  | addPlayer
  | removePlayer
  | createPug
  | endPug
  | listPugs
  | pugStatus
  | listPugPlayers
  | addMapVote
  | forceMap
  deriving DecidableEq, Repr

namespace Endpoint

def all : List Endpoint :=
  [addPlayer, removePlayer, createPug, endPug, listPugs, pugStatus, listPugPlayers, addMapVote,
    forceMap]

theorem mem_all (e : Endpoint) : e ∈ all := by
  cases e <;> decide

def name : Endpoint → String
  | addPlayer => "AddPlayer"
  | removePlayer => "RemovePlayer"
  | createPug => "CreatePug"
  | endPug => "EndPug"
  | listPugs => "ListPugs"
  | pugStatus => "PugStatus"
  | listPugPlayers => "ListPugPlayers"
  | addMapVote => "AddMapVote"
  | forceMap => "ForceMap"

def path : Endpoint → String
  | addPlayer => "ITF2Pug/Player/Add/"
  | removePlayer => "ITF2Pug/Player/Remove/"
  | createPug => "ITF2Pug/Create/"
  | endPug => "ITF2Pug/End/"
  | listPugs => "ITF2Pug/List/"
  | pugStatus => "ITF2Pug/Status/"
  | listPugPlayers => "ITF2Pug/Player/List/"
  | addMapVote => "ITF2Pug/Map/Vote/"
  | forceMap => "ITF2Pug/Map/Force/"

def method : Endpoint → Http.Method
  | listPugs | pugStatus | listPugPlayers => .get
  | _ => .post

def display (e : Endpoint) : String :=
  s!"{e.method.name} {e.path}"

end Endpoint

end PickupGame.Api
