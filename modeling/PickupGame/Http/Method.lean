/-!
# Request methods

The two methods in use: `get` asks for something, `post` changes something.
-/

namespace PickupGame.Http

inductive Method
  | get
  | post
  deriving DecidableEq, Repr

def Method.name : Method → String
  | .get => "GET"
  | .post => "POST"

end PickupGame.Http
