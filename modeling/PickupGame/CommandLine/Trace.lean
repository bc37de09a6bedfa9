import PickupGame.CommandLine.Command
import PickupGame.Text.Quoted

/-!
# Traces of commands

The text by which a command shows up in the log: the topic, and the verb with its arguments under
their names.
-/

namespace PickupGame.CommandLine

def field (name value : String) : String :=
  name ++ ": " ++ value

def optionalText (write : String → String) : Option String → String
  | some value => "Some(" ++ write value ++ ")"
  | none => "None"

/-- A verb with its arguments between braces, or alone. -/
def record (verb : String) : List String → String
  | [] => verb
  | fields => verb ++ " \x7b " ++ ", ".intercalate fields ++ " \x7d"

def steamIdField (n : UInt64) : String := field "steam_id" (Api.decimal n.toNat)

def pugIdField (n : UInt64) : String := field "pug_id" (Api.decimal n.toNat)

def sizeField (n : UInt32) : String := field "size" (Api.decimal n.toNat)

def nameField (name : String) : String := field "name" (Text.quoted name)

def mapField (map : String) : String := field "map" (Text.quoted map)

def callTrace : Api.Call → String
  | .addPlayer steamId name size pugId =>
    record "Add" [steamIdField steamId, nameField name, sizeField size,
      field "pug" (optionalText (fun n => n) (pugId.map fun n => Api.decimal n.toNat))]
  | .removePlayer steamId => record "Remove" [steamIdField steamId]
  | .listPugPlayers pugId => record "List" [pugIdField pugId]
  | .createPug steamId name size map =>
    record "Create" [steamIdField steamId, nameField name, sizeField size,
      field "map" (optionalText Text.quoted map)]
  | .endPug pugId => record "End" [pugIdField pugId]
  | .listPugs => record "List" []
  | .pugStatus pugId => record "Status" [pugIdField pugId]
  | .addMapVote steamId map => record "Vote" [steamIdField steamId, mapField map]
  | .forceMap pugId map => record "Force" [pugIdField pugId, mapField map]

def Command.trace (c : Api.Call) : String :=
  (Command.call c).verb.topic.word ++ " command: " ++ callTrace c

end PickupGame.CommandLine
