import PickupGame.Api.Failure
import PickupGame.Api.ResponseCode
import PickupGame.Json.Reader
import PickupGame.Json.Writer
import PickupGame.Log

/-!
# Envelopes

A decoded answer: its data, an open-ended JSON object, with the response code found in it. An object
without a `response` entry has the code `none`; an entry that is no known code is a failure.
-/

namespace PickupGame.Api

open Json (Value Members)

structure Envelope where
  code : ResponseCode
  data : Members

namespace Envelope

/-- The envelope that stands for an answer that could not be used. -/
def empty : Envelope := ⟨.none, []⟩

/-- A value as an integer of 64 bits with sign. -/
def int64? : Value → Option Int
  | .number (.integer n _ _) => if n ≤ Numeral.maxI64 then some n else none
  | _ => none

def ofMembers (data : Members) (endpoint : String) : Except Failure Envelope :=
  match data.get? "response" with
  | none => .ok ⟨.none, data⟩
  | some v =>
    match int64? v with
    | none => .error (.decode endpoint s!"'response' is not an integer: {v.text}")
    | some n =>
      match ResponseCode.ofNumber? n with
      | some code => .ok ⟨code, data⟩
      | none => .error (.unknownCode endpoint n)

/-- What kind of value came in place of an object. -/
def kind : Value → String
  | .null => "null"
  | .bool _ => "a boolean"
  | .number _ => "a number"
  | .string _ => "a string"
  | .array _ => "an array"
  | .object _ => "an object"

def ofBody (body endpoint : String) : Except Failure Envelope :=
  match Json.parse body with
  | .error e => .error (.decode endpoint e.message)
  | .ok (.object data) => ofMembers data endpoint
  | .ok v => .error (.decode endpoint s!"expected a JSON object, got {kind v}")

/-- The envelope of an outcome, the empty one for a failure, which is logged. -/
def orEmpty : Except Failure Envelope → Envelope × List Log.Entry
  | .ok e => (e, [])
  | .error f =>
    (empty, [Log.warn .envelope s!"pug API call failed, using empty result: {f.message}"])

def raw (e : Envelope) : Value :=
  .object e.data

end Envelope

end PickupGame.Api
