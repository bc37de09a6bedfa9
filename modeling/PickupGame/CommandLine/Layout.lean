import PickupGame.CommandLine.Parse

/-!
# Writing command lines

An invocation as arguments. The options that it gives stand behind the program's name, the topic or
the verb, each with its value attached; the operands stand at the end, behind two dashes.
-/

namespace PickupGame.CommandLine

def Datum.written : Datum → String
  | text s => s
  | number n => Api.decimal n

/-- An option in an argument of its own, with its value if it takes one. -/
def Opt.argument (o : Opt) (d : Datum) : String :=
  match o.value? with
  | some _ => "--" ++ o.long ++ "=" ++ d.written
  | none => "--" ++ o.long

namespace Command

def operands : Command → List Datum
  | call (.addPlayer steamId name _ _) => [.number steamId.toNat, .text name]
  | call (.removePlayer steamId) => [.number steamId.toNat]
  | call (.createPug steamId name _ _) => [.number steamId.toNat, .text name]
  | call (.endPug pugId) => [.number pugId.toNat]
  | call .listPugs => []
  | call (.pugStatus pugId) => [.number pugId.toNat]
  | call (.listPugPlayers pugId) => [.number pugId.toNat]
  | call (.addMapVote steamId map) => [.number steamId.toNat, .text map]
  | call (.forceMap pugId map) => [.number pugId.toNat, .text map]
  | showConfig => []
  | setConfig key value => [.text key, .text value]

/-- The value of an option that belongs to the verb. -/
def option? : Command → Opt → Option Datum
  | call (.addPlayer _ _ size _), .size => some (.number size.toNat)
  | call (.addPlayer _ _ _ pugId), .pug => pugId.map fun n => .number n.toNat
  | call (.createPug _ _ size _), .size => some (.number size.toNat)
  | call (.createPug _ _ _ map), .map => map.map .text
  | _, _ => none

end Command

/-- The value of a general option; a flag that is set has an empty text. -/
def Options.value? (os : Options) : Opt → Option Datum
  | .verbose => if os.verbose then some (.text "") else none
  | .json => if os.json then some (.text "") else none
  | .profile => os.profile.map .text
  | .configDir => os.configDir.map .text
  | .apiKey => os.apiKey.map .text
  | .url => os.url.map .text
  | _ => none

namespace Invocation

def value? (i : Invocation) (o : Opt) : Option Datum :=
  (i.options.value? o).or (i.command.option? o)

/-- Those of some options that the invocation gives, with their values. -/
def settings (i : Invocation) (os : List Opt) : List (Opt × Datum) :=
  os.filterMap fun o => (i.value? o).map fun d => (o, d)

end Invocation

/-- Where options stand: behind the program's name, behind the topic and behind the verb. -/
structure Layout where
  outer : List Opt
  middle : List Opt
  inner : List Opt

namespace Layout

/-- There is a place for each option that the invocation gives, but for the usual size, and at each
level for each option once. Behind the program's name and the topic only general options stand. -/
structure Fits (l : Layout) (i : Invocation) : Prop where
  nodup : l.outer.Nodup ∧ l.middle.Nodup ∧ l.inner.Nodup
  general : ∀ o ∈ l.outer ++ l.middle, o ∈ Opt.general
  complete : ∀ o, i.value? o ≠ none → o ∈ l.outer ++ l.middle ++ l.inner ∨
    o = .size ∧ i.value? o = some (.number Api.defaultPugSize.toNat)

def optionArguments (i : Invocation) (os : List Opt) : List String :=
  (i.settings os).map fun e => e.1.argument e.2

def arguments (l : Layout) (i : Invocation) : List String :=
  optionArguments i l.outer ++ i.command.verb.topic.word ::
    (optionArguments i l.middle ++ i.command.verb.word ::
      (optionArguments i l.inner ++ "--" :: i.command.operands.map Datum.written))

end Layout

/-! ## Environment -/

/-- The options with those values that the environment has for options that are not given. -/
def Options.within (env : Environment) (os : Options) : Options :=
  { os with apiKey := os.apiKey.or (env.value? .apiKey), url := os.url.or (env.value? .url) }

def Invocation.within (env : Environment) (i : Invocation) : Invocation :=
  { i with options := i.options.within env }

end PickupGame.CommandLine
