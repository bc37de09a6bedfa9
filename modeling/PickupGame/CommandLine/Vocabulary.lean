import PickupGame.Numeral.Decimal

/-!
# Vocabulary of the command line

The words, options and operands that a command line is made of. A command is a topic with a verb; the
six general options may stand behind the program's name, the topic or the verb.
-/

namespace PickupGame.CommandLine

def programName : String := "pug-cli"

def version : String := "0.1.0"

inductive Topic
  | player
  | pug
  | map
  | config
  deriving DecidableEq, Repr

namespace Topic

def all : List Topic := [player, pug, map, config]

def word : Topic → String
  | player => "player"
  | pug => "pug"
  | map => "map"
  | config => "config"

def about : Topic → String
  | player => "Add, remove and list players"
  | pug => "Create, end and inspect pugs"
  | map => "Map voting"
  | config => "Configuration management"

end Topic

inductive Verb
  | playerAdd
  | playerRemove
  | playerList
  | pugCreate
  | pugEnd
  | pugList
  | pugStatus
  | mapVote
  | mapForce
  | configShow
  | configSet
  deriving DecidableEq, Repr

namespace Verb

def word : Verb → String
  | playerAdd => "add"
  | playerRemove => "remove"
  | playerList => "list"
  | pugCreate => "create"
  | pugEnd => "end"
  | pugList => "list"
  | pugStatus => "status"
  | mapVote => "vote"
  | mapForce => "force"
  | configShow => "show"
  | configSet => "set"

def topic : Verb → Topic
  | playerAdd | playerRemove | playerList => .player
  | pugCreate | pugEnd | pugList | pugStatus => .pug
  | mapVote | mapForce => .map
  | configShow | configSet => .config

end Verb

def Topic.verbs : Topic → List Verb
  | player => [.playerAdd, .playerRemove, .playerList]
  | pug => [.pugCreate, .pugEnd, .pugList, .pugStatus]
  | map => [.mapVote, .mapForce]
  | config => [.configShow, .configSet]

/-! ## Values -/

/-- The values that an option or an operand takes. -/
inductive Kind
  | text
  | number32
  | number64
  deriving DecidableEq, Repr

inductive Datum
  | text (s : String)
  | number (n : Nat)
  deriving DecidableEq, Repr

/-- Reads a value or says why it is none. Numbers of 32 bits are read as 64-bit integers first. -/
def Kind.read (k : Kind) (s : String) : Except String Datum :=
  match k with
  | text => .ok (.text s)
  | number64 =>
    match Numeral.readNat Numeral.maxU64 s.toList with
    | .ok n => .ok (.number n)
    | .error e => .error e.message
  | number32 =>
    match Numeral.readInt Numeral.sizeMinI64 Numeral.maxI64 s.toList with
    | .ok n =>
      if 0 ≤ n ∧ n ≤ Numeral.maxU32 then .ok (.number n.toNat)
      else .error s!"{n} is not in 0..={Numeral.maxU32}"
    | .error e => .error e.message

/-! ## Options -/

/-- The options; those behind `apiKey` in this list belong to one verb or to asking for help. -/
inductive Opt
  | verbose
  | json
  | profile
  | configDir
  | url
  | apiKey
  | size
  | pug
  | map
  | help
  | version
  deriving DecidableEq, Repr

namespace Opt

def long : Opt → String
  | verbose => "verbose"
  | json => "json"
  | profile => "profile"
  | configDir => "config-dir"
  | url => "url"
  | apiKey => "api-key"
  | size => "size"
  | pug => "pug"
  | map => "map"
  | help => "help"
  | version => "version"

def short? : Opt → Option Char
  | verbose => some 'v'
  | profile => some 'p'
  | help => some 'h'
  | version => some 'V'
  | _ => none

/-- The kind of the value of an option that takes one, and what the value is called. -/
def value? : Opt → Option (Kind × String)
  | profile => some (.text, "PROFILE")
  | configDir => some (.text, "CONFIG_DIR")
  | url => some (.text, "URL")
  | apiKey => some (.text, "API_KEY")
  | size => some (.number32, "SIZE")
  | pug => some (.number64, "PUG")
  | map => some (.text, "MAP")
  | _ => none

/-- The variable of the environment that stands in for an option. -/
def environmentName? : Opt → Option String
  | apiKey => some "PUG_API_KEY"
  | url => some "PUG_API_URL"
  | _ => none

def display (o : Opt) : String :=
  match o.value? with
  | some (_, name) => s!"--{o.long} <{name}>"
  | none => s!"--{o.long}"

/-- The options that may stand at every level. -/
def general : List Opt := [verbose, profile, configDir, apiKey, url, json, help]

end Opt

def Verb.options : Verb → List Opt
  | playerAdd => [.size, .pug]
  | pugCreate => [.size, .map]
  | _ => []

/-! ## Operands -/

inductive Operand
  | steamId
  | name
  | pugId
  | map
  | key
  | value
  deriving DecidableEq, Repr

namespace Operand

def kind : Operand → Kind
  | steamId | pugId => .number64
  | _ => .text

def display : Operand → String
  | steamId => "<STEAM_ID>"
  | name => "<NAME>"
  | pugId => "<PUG_ID>"
  | map => "<MAP>"
  | key => "<KEY>"
  | value => "<VALUE>"

end Operand

/-- The operands of a verb, all of them required. -/
def Verb.operands : Verb → List Operand
  | playerAdd | pugCreate => [.steamId, .name]
  | playerRemove => [.steamId]
  | playerList | pugEnd | pugStatus => [.pugId]
  | mapVote => [.steamId, .map]
  | mapForce => [.pugId, .map]
  | configSet => [.key, .value]
  | pugList | configShow => []

end PickupGame.CommandLine
