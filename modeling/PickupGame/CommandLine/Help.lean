import PickupGame.CommandLine.Parse

/-!
# Help

The page that explains the program: its commands with their operands and own options, and the
general options.
-/

namespace PickupGame.CommandLine

def verbUsage (v : Verb) : String :=
  let options := v.options.map fun o => "[" ++ o.display ++ "]"
  " ".intercalate ([v.topic.word, v.word] ++ v.operands.map Operand.display ++ options)

def topicHelp (t : Topic) : List String :=
  (t.about ++ ":") :: t.verbs.map fun v => "  " ++ verbUsage v

/-- An option under all its names. -/
def optionHelp (o : Opt) : String :=
  match o.short? with
  | some c => "  -" ++ String.ofList [c] ++ ", " ++ o.display
  | none => "      " ++ o.display

def helpLines : List String :=
  [programAbout, "", "Usage: " ++ programName ++ " [OPTIONS] <COMMAND>", ""]
    ++ (Topic.all.map topicHelp).flatten
    ++ ["", "Options:"]
    ++ programLevel.options.map optionHelp

def versionLine : String := programName ++ " " ++ version

end PickupGame.CommandLine
