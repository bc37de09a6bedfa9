/-!
# Failures of an exchange

What can go wrong between a request and its typed answer. A server that answers with a valid envelope
is never a failure, also when its code refuses the action.
-/

namespace PickupGame.Api

inductive Failure
  | transport (endpoint reason : String)
  | timeout (endpoint : String) (seconds : UInt64)
  | http (endpoint : String) (status : UInt16) (body : String)
  | decode (endpoint reason : String)
  | unknownCode (endpoint : String) (code : Int)
  | payload (code reason : String)
  deriving DecidableEq, Repr

namespace Failure

def message : Failure → String
  | transport endpoint reason => s!"Could not reach {endpoint}: {reason}"
  | timeout _ seconds => s!"Request timed out after {seconds.toNat}s"
  | http _ status body => s!"HTTP error: {status.toNat} {body}"
  | decode endpoint reason => s!"Failed to decode response from {endpoint}: {reason}"
  | unknownCode endpoint code => s!"Unknown response code {code} from {endpoint}"
  | payload code reason => s!"Unexpected payload for {code}: {reason}"

/-- The server was not reached or did not answer. -/
def isTransport : Failure → Bool
  | transport .. | timeout .. => true
  | _ => false

/-- The server answered something that was not understood. -/
def isDecode : Failure → Bool
  | decode .. | unknownCode .. | payload .. => true
  | _ => false

/-- The path of the endpoint that the exchange was with. A payload that does not fit its code is no
fault of an exchange. -/
def endpoint? : Failure → Option String
  | transport endpoint _ | timeout endpoint _ | http endpoint .. | decode endpoint _
  | unknownCode endpoint _ => some endpoint
  | payload .. => none

end Failure

end PickupGame.Api
