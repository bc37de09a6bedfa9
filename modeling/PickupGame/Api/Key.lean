/-!
# API key

Every request carries a key that the service knows. A key is never stored; it comes with a command
line or from the environment, and an empty one counts as none.
-/

namespace PickupGame.Api

def usableKey? (key : Option String) : Option String :=
  key.filter (· ≠ "")

def keyHint : String := "Pass --api-key or set PUG_API_KEY"

end PickupGame.Api
