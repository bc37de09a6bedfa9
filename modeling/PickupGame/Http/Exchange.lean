import PickupGame.Http.Method
import PickupGame.Http.Status
import PickupGame.Url.Parse

/-!
# Requests and replies

What is sent to a server and what can come of it. A plan is a computation that sends at most one
request: it has ended, or it waits for the reply.
-/

namespace PickupGame.Http

/-- A request; user name and password are sent apart from the address. -/
structure Request where
  method : Method
  url : Url
  credentials : Option (String × Option String)
  contentType : Option String
  body : Option String
  deriving DecidableEq, Repr

structure Response where
  status : UInt16
  contentType : Option String
  bytes : List UInt8
  deriving DecidableEq, Repr

/-- The text of an answer by its content type and its bytes. The charset is the one that the content
type names, else UTF-8, unless the bytes begin with the mark of another one. What stands for no
character is replaced, so every answer has a text. -/
class Decoding where
  decode : Option String → List UInt8 → String

def Response.text [Decoding] (r : Response) : String :=
  Decoding.decode r.contentType r.bytes

/-- How an answer is lost: it is not there in time, or the connection could not be made or broke. -/
inductive Loss
  | late
  | broken (reason : String)
  deriving DecidableEq, Repr

/-- What makes an exchange fail: the answer is lost, or it is asked for its status and that blames
someone. -/
inductive Fault
  | lost (loss : Loss)
  | blamed (status : UInt16) (message : String)
  deriving DecidableEq, Repr

/-- The fault of an answer from an address whose status blames someone. -/
def Fault.ofStatus? (status : UInt16) (address : String) : Option Fault :=
  (statusFault? status.toNat address).map (.blamed status)

/-- What comes of a request: a whole answer, one that is `cut` behind its head, with what has come of
its body, or none. -/
inductive Reply
  | answered (response : Response)
  | cut (begun : Response) (loss : Loss)
  | late
  | broken (reason : String)
  deriving DecidableEq, Repr

namespace Reply

/-- The status, which comes with the head of an answer. -/
def status : Reply → Except Loss UInt16
  | answered response => .ok response.status
  | cut begun _ => .ok begun.status
  | late => .error .late
  | broken reason => .error (.broken reason)

/-- The text, which is there when the whole body is. -/
def text [Decoding] : Reply → Except Loss String
  | answered response => .ok response.text
  | cut _ loss => .error loss
  | late => .error .late
  | broken reason => .error (.broken reason)

end Reply

/-- A computation that sends at most one request, with a number of seconds to wait for its reply. -/
inductive Plan (α : Type)
  | done (result : α)
  | send (request : Request) (seconds : UInt64) (next : Reply → α)

namespace Plan

variable {α β : Type}

def map (f : α → β) : Plan α → Plan β
  | done a => done (f a)
  | send request seconds next => send request seconds (f ∘ next)

/-- The request that a plan waits for. -/
def request? : Plan α → Option Request
  | done _ => none
  | send request _ _ => some request

/-- The number of seconds that a plan waits for a reply. -/
def seconds? : Plan α → Option UInt64
  | done _ => none
  | send _ seconds _ => some seconds

/-- The end of a plan with a server that gives this reply. -/
def result (reply : Reply) : Plan α → α
  | done a => a
  | send _ _ next => next reply

@[simp] theorem map_done (f : α → β) (a : α) : (done a).map f = done (f a) := rfl

@[simp] theorem request?_map (f : α → β) (p : Plan α) : (p.map f).request? = p.request? := by
  cases p <;> rfl

@[simp] theorem seconds?_map (f : α → β) (p : Plan α) : (p.map f).seconds? = p.seconds? := by
  cases p <;> rfl

@[simp] theorem result_map (f : α → β) (reply : Reply) (p : Plan α) :
    (p.map f).result reply = f (p.result reply) := by
  cases p <;> rfl

end Plan

end PickupGame.Http
