import PickupGame.Api.Call
import PickupGame.CommandLine.Vocabulary

/-!
# Commands

What a command line asks for: a call to the service, or a look at or a change of the settings; and
the general options that go with it.
-/

namespace PickupGame.CommandLine

inductive Command
  | call (c : Api.Call)
  | showConfig
  | setConfig (key value : String)
  deriving DecidableEq, Repr

structure Options where
  verbose : Bool
  profile : Option String
  configDir : Option String
  apiKey : Option String
  url : Option String
  json : Bool
  deriving DecidableEq, Repr

structure Invocation where
  options : Options
  command : Command
  deriving DecidableEq, Repr

namespace Command

def verb : Command → Verb
  | call (.addPlayer ..) => .playerAdd
  | call (.removePlayer _) => .playerRemove
  | call (.listPugPlayers _) => .playerList
  | call (.createPug ..) => .pugCreate
  | call (.endPug _) => .pugEnd
  | call .listPugs => .pugList
  | call (.pugStatus _) => .pugStatus
  | call (.addMapVote ..) => .mapVote
  | call (.forceMap ..) => .mapForce
  | showConfig => .configShow
  | setConfig .. => .configSet

def id (n : Nat) : UInt64 := UInt64.ofNat n

def size : Option Datum → UInt32
  | some (.number n) => UInt32.ofNat n
  | _ => Api.defaultPugSize

def number? : Option Datum → Option UInt64
  | some (.number n) => some (id n)
  | _ => none

def text? : Option Datum → Option String
  | some (.text s) => some s
  | _ => none

/-- The command of a verb with operands and options; there is none while operands are missing. -/
def ofParts? (option : Opt → Option Datum) : Verb → List Datum → Option Command
  | .playerAdd, [.number n, .text name] =>
    some (call (.addPlayer (id n) name (size (option .size)) (number? (option .pug))))
  | .playerRemove, [.number n] => some (call (.removePlayer (id n)))
  | .playerList, [.number n] => some (call (.listPugPlayers (id n)))
  | .pugCreate, [.number n, .text name] =>
    some (call (.createPug (id n) name (size (option .size)) (text? (option .map))))
  | .pugEnd, [.number n] => some (call (.endPug (id n)))
  | .pugList, [] => some (call .listPugs)
  | .pugStatus, [.number n] => some (call (.pugStatus (id n)))
  | .mapVote, [.number n, .text map] => some (call (.addMapVote (id n) map))
  | .mapForce, [.number n, .text map] => some (call (.forceMap (id n) map))
  | .configShow, [] => some showConfig
  | .configSet, [.text key, .text value] => some (setConfig key value)
  | _, _ => none

end Command

end PickupGame.CommandLine
