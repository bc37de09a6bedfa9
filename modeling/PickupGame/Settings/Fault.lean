/-!
# Faults of settings

Why a setting is refused or a profile cannot be used.
-/

namespace PickupGame.Settings

inductive Fault
  | profileNotFound (name : String)
  | unknownKey (key : String)
  | invalidValue (field value reason : String)
  deriving DecidableEq, Repr

def Fault.message : Fault → String
  | .profileNotFound name => s!"Profile '{name}' not found"
  | .unknownKey key => s!"Unknown configuration key '{key}'"
  | .invalidValue field value _ => s!"Invalid configuration value for '{field}': {value}"

end PickupGame.Settings
