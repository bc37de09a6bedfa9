import PickupGame.Api.Endpoint
import PickupGame.Numeral.Decimal

/-!
# Calls and their parameters

A call is one operation with its arguments. The request for it names the endpoint and lists the
parameters in a fixed order, the API key first. A pug id that was not given and a map that was not
given or is empty are left out.
-/

namespace PickupGame.Api

inductive Call
  | addPlayer (steamId : UInt64) (name : String) (size : UInt32) (pugId : Option UInt64)
  | removePlayer (steamId : UInt64)
  | createPug (steamId : UInt64) (name : String) (size : UInt32) (map : Option String)
  | endPug (pugId : UInt64)
  | listPugs
  | pugStatus (pugId : UInt64)
  | listPugPlayers (pugId : UInt64)
  | addMapVote (steamId : UInt64) (map : String)
  | forceMap (pugId : UInt64) (map : String)
  deriving DecidableEq, Repr

/-- The size of a pug when none is asked for. -/
def defaultPugSize : UInt32 := 12

/-- An endpoint with the parameters to send to it. -/
structure Request where
  endpoint : Endpoint
  params : List (String × String)
  deriving DecidableEq, Repr

namespace Request

def get? (r : Request) (name : String) : Option String :=
  r.params.lookup name

def contains (r : Request) (name : String) : Bool :=
  (r.get? name).isSome

/-- The names of the parameters, in order. -/
def keys (r : Request) : List String :=
  r.params.map Prod.fst

end Request

def decimal (n : Nat) : String :=
  String.ofList (Numeral.digits n)

/-- A parameter that is left out when there is no value for it. -/
def optionalParam (name : String) : Option String → List (String × String)
  | some value => [(name, value)]
  | none => []

/-- A map parameter; an empty map counts as none. -/
def mapParam (map : Option String) : List (String × String) :=
  optionalParam "map" (map.filter (· ≠ ""))

namespace Call

def endpoint : Call → Endpoint
  | addPlayer .. => .addPlayer
  | removePlayer .. => .removePlayer
  | createPug .. => .createPug
  | endPug .. => .endPug
  | listPugs => .listPugs
  | pugStatus .. => .pugStatus
  | listPugPlayers .. => .listPugPlayers
  | addMapVote .. => .addMapVote
  | forceMap .. => .forceMap

def arguments : Call → List (String × String)
  | addPlayer steamId name size pugId =>
    [("steamid", decimal steamId.toNat), ("name", name), ("size", decimal size.toNat)]
      ++ optionalParam "pugid" (pugId.map fun id => decimal id.toNat)
  | removePlayer steamId => [("steamid", decimal steamId.toNat)]
  | createPug steamId name size map =>
    [("steamid", decimal steamId.toNat), ("name", name), ("size", decimal size.toNat)]
      ++ mapParam map
  | endPug pugId => [("pugid", decimal pugId.toNat)]
  | listPugs => []
  | pugStatus pugId => [("pugid", decimal pugId.toNat)]
  | listPugPlayers pugId => [("pugid", decimal pugId.toNat)]
  | addMapVote steamId map => [("steamid", decimal steamId.toNat), ("map", map)]
  | forceMap pugId map => ("pugid", decimal pugId.toNat) :: mapParam (some map)

def request (key : String) (c : Call) : Request where
  endpoint := c.endpoint
  params := ("key", key) :: c.arguments

@[simp] theorem endpoint_request (key : String) (c : Call) :
    (c.request key).endpoint = c.endpoint := rfl

@[simp] theorem params_request (key : String) (c : Call) :
    (c.request key).params = ("key", key) :: c.arguments := rfl

end Call

end PickupGame.Api
