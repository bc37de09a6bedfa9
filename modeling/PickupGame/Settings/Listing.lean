import PickupGame.Numeral.Decimal
import PickupGame.Settings.Config

/-!
# Listing of settings

All settings in a form for people to read. The profiles come in ascending order of their names,
whatever order they are stored in.
-/

namespace PickupGame.Settings

def Profiles.sorted (ps : Profiles) : List (String × Profile) :=
  ps.entries.mergeSort fun a b => !decide (b.1 < a.1)

def profileLines (name : String) (p : Profile) : List String :=
  [s!"  [{name}]", s!"    API URL: {p.apiUrl}"]
    ++ (match p.timeout with
        | some n => [s!"    Timeout: {n.toNat} seconds"]
        | none => [])

def Profiles.listing (ps : Profiles) : List String :=
  if ps.isEmpty then ["  No profiles configured"]
  else ps.sorted.flatMap fun e => profileLines e.1 e.2

/-- The lines of all settings, with the profile in use and whether there is an API key. -/
def Config.listing (c : Config) (active : String) (hasKey : Bool) : List String :=
  ["Current Configuration:", "=====================",
    "Default Profile: " ++ c.defaultProfile.getD "(not set)", "Active Profile: " ++ active,
    "", "Profiles:"]
    ++ c.profiles.listing
    ++ ["", if hasKey then "API Key: (set)" else "API Key: (not set)"]

end PickupGame.Settings
