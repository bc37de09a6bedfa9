import PickupGame.CommandLine.Command
import PickupGame.CommandLine.Level

/-!
# Reading a command line

A command line is read level by level. Faults at an inner level are reported before those that show
only at the end of an outer one. A general option may be given once at each level: the innermost
value counts, and before all else that of the environment if none is given.
-/

namespace PickupGame.CommandLine

structure Environment where
  bindings : List (String × String)
  deriving DecidableEq, Repr

def Environment.value? (env : Environment) (o : Opt) : Option String :=
  match o.environmentName? with
  | some name => env.bindings.lookup name
  | none => none

/-! ## Levels -/

def helpOnVerb (t : Topic) : List String → Fault
  | [] => .helpRequested
  | word :: words =>
    if word = "help" || t.verbs.any (·.word = word) then
      match words with
      | [] => .helpRequested
      | next :: _ => .unknownCommand next
    else .unknownCommand word

def helpOnTopic : List String → Fault
  | [] => .helpRequested
  | word :: words =>
    match Topic.all.find? (·.word = word) with
    | some t => helpOnVerb t words
    | none =>
      if word = "help" then
        match words with
        | [] => .helpRequested
        | next :: _ => .unknownCommand next
      else .unknownCommand word

def programLevel : Level Topic where
  words := Topic.all.map fun t => (t.word, t)
  help := helpOnTopic
  options := Opt.general ++ [.version]
  operands := []

def topicLevel (t : Topic) : Level Verb where
  words := t.verbs.map fun v => (v.word, v)
  help := helpOnVerb t
  options := Opt.general
  operands := []

def verbLevel (v : Verb) : Level Empty where
  words := []
  help := fun _ => .helpRequested
  options := Opt.general ++ v.options
  operands := v.operands

/-! ## Reading -/

def Environment.given (env : Environment) : Bool :=
  Opt.general.any fun o => (env.value? o).isSome

/-- The fault of a level at which no word opens the next one. -/
def noWord (env : Environment) (f : Found) (about words : String) : Fault :=
  if f.options.isEmpty && !env.given then .nothingGiven about else .missingCommand words

/-- The command of the arguments behind a verb, and what was found there. -/
def parseVerb (v : Verb) (args : List String) : Except Fault (Command × Found) := do
  let (f, _) ← (verbLevel v).scan .empty args
  let f ← f.flush
  match Command.ofParts? f.get? v f.operands with
  | some c => return (c, f)
  | none => throw .missingOperands

/-- The command of the arguments behind a topic, and what was found at each level, innermost
first. -/
def parseTopic (env : Environment) (t : Topic) (args : List String) :
    Except Fault (Command × List Found) := do
  let (f, next) ← (topicLevel t).scan .empty args
  match next with
  | some (v, rest) =>
    let (c, inner) ← parseVerb v rest
    let f ← f.flush
    return (c, [inner, f])
  | none =>
    let f ← f.flush
    throw (noWord env f t.about s!"{programName} {t.word}")

def programAbout : String := "Command line client for the TF2 pick-up-game API"

/-- The command of all arguments, and what was found at each level, innermost first. -/
def parseProgram (env : Environment) (args : List String) :
    Except Fault (Command × List Found) := do
  let (f, next) ← programLevel.scan .empty args
  match next with
  | some (t, rest) =>
    let (c, inner) ← parseTopic env t rest
    let f ← f.flush
    return (c, inner ++ [f])
  | none =>
    let f ← f.flush
    throw (noWord env f programAbout programName)

/-- The value of an option: the innermost one that is given, else that of the environment. -/
def optionText (env : Environment) (found : List Found) (o : Opt) : Option String :=
  (found.findSome? fun f => Command.text? (f.get? o)).or (env.value? o)

def Options.ofFound (env : Environment) (found : List Found) : Options where
  verbose := found.any (·.has .verbose)
  profile := optionText env found .profile
  configDir := optionText env found .configDir
  apiKey := optionText env found .apiKey
  url := optionText env found .url
  json := found.any (·.has .json)

def parse (env : Environment) (args : List String) : Except Fault Invocation :=
  match parseProgram env args with
  | .ok (command, found) => .ok ⟨.ofFound env found, command⟩
  | .error e => .error e

end PickupGame.CommandLine
