import PickupGame.Api.Call
import PickupGame.Api.Envelope
import PickupGame.Http.Exchange
import PickupGame.Url.Base

/-!
# Client

Calls as requests to the service at a base address, and the outcome of sending one. A call that asks
carries its parameters in the query of the address, one that changes something in the body, both
form-encoded. Of an answer the status counts first, and then its text.
-/

namespace PickupGame.Api

structure Client where
  baseUrl : String
  key : String
  seconds : UInt64
  deriving DecidableEq, Repr

/-- Why there is no request for a call. -/
inductive BuildFault
  | malformed (fault : Url.Fault)
  | scheme (url : Url)
  deriving DecidableEq, Repr

def BuildFault.message : BuildFault → String
  | .malformed fault => s!"builder error: {fault.message}"
  | .scheme url => s!"builder error for url ({url.display}): URL scheme is not allowed"

/-- Schemes that a request can be sent by. -/
def isWebScheme (scheme : List Char) : Bool :=
  scheme = "http".toList || scheme = "https".toList

/-- The failure of an exchange with an endpoint that was to take so many seconds at most. -/
def Failure.ofFault (endpoint : String) (seconds : UInt64) : Http.Fault → Failure
  | .lost .late => .timeout endpoint seconds
  | .blamed status message => .http endpoint status message
  | .lost (.broken reason) => .transport endpoint reason

namespace Client

/-- The number of seconds to wait when none is given. -/
def defaultSeconds : UInt64 := 30

/-- A client of the service at an address, whose slashes at the end do not count. -/
def new (baseUrl key : String) (seconds : UInt64) : Client where
  baseUrl := Url.trimSlashes baseUrl
  key := key
  seconds := seconds

/-- The address of an endpoint, as it is before it has been read. -/
def urlFor (c : Client) (e : Endpoint) : String :=
  Url.below c.baseUrl e.path

def address [Url.Idna] (text : String) : Except BuildFault Url :=
  match Url.parse text with
  | .error e => .error (.malformed e)
  | .ok url => if url.host.isSome then .ok url else .error (.scheme url)

/-- The request to an address with parameters. Credentials that are well formed leave the address. -/
def assemble (method : Http.Method) (url : Url) (params : List (String × String)) : Http.Request :=
  let bare := if url.credentials?.isSome then url.withoutCredentials else url
  match method with
  | .get => ⟨.get, bare.addForm params, url.credentials?, none, none⟩
  | .post =>
    ⟨.post, bare, url.credentials?, some Url.Form.contentType,
      some (String.ofList (Url.Form.write params))⟩

/-- The request to send for an endpoint and its parameters. -/
def buildRequest [Url.Idna] (c : Client) (request : Request) : Except BuildFault Http.Request :=
  match address (c.urlFor request.endpoint) with
  | .ok url => .ok (assemble request.endpoint.method url request.params)
  | .error e => .error e

def build [Url.Idna] (c : Client) (call : Call) : Except BuildFault Http.Request :=
  c.buildRequest (call.request c.key)

def buildFailure (e : Endpoint) (fault : BuildFault) : Failure :=
  .transport e.path fault.message

/-- The head of an answer is awaited first and its body second; only then does the status count. -/
def readReply [Http.Decoding] (c : Client) (e : Endpoint) (reply : Http.Reply) :
    Except Failure Envelope := do
  let status ← reply.status.mapError fun loss => .ofFault e.path c.seconds (.lost loss)
  let text ← reply.text.mapError fun loss => .ofFault e.path c.seconds (.lost loss)
  if Http.isSuccess status then Envelope.ofBody text e.path else .error (.http e.path status text)

/-- The outcome of a call, with what was reported on the way. -/
structure Outcome where
  result : Except Failure Envelope
  log : List Log.Entry

def announcement (c : Client) (e : Endpoint) : Log.Entry :=
  Log.debug .client s!"{e.method.name} {c.urlFor e}"

/-- The outcome of a reply, which is reported if it is good. -/
def conclude [Http.Decoding] (c : Client) (e : Endpoint) (reply : Http.Reply) : Outcome :=
  match c.readReply e reply with
  | .ok envelope =>
    ⟨.ok envelope, [c.announcement e, Log.debug .client s!"{e.path} answered {envelope.code.display}"]⟩
  | .error f => ⟨.error f, [c.announcement e]⟩

/-- Sends a request, which need not carry the key of the client. Addresses of more than 65534 bytes,
which no request can be sent to, are left aside. -/
def send [Url.Idna] [Http.Decoding] (c : Client) (request : Request) : Http.Plan Outcome :=
  match c.buildRequest request with
  | .error fault =>
    .done ⟨.error (buildFailure request.endpoint fault), [c.announcement request.endpoint]⟩
  | .ok r =>
    if isWebScheme r.url.scheme then .send r c.seconds (c.conclude request.endpoint)
    else
      .done ⟨.error (buildFailure request.endpoint (.scheme r.url)),
        [c.announcement request.endpoint]⟩

def exchange [Url.Idna] [Http.Decoding] (c : Client) (call : Call) : Http.Plan Outcome :=
  c.send (call.request c.key)

end Client

/-- The failure of an answer from an address whose status blames someone. -/
def Failure.ofStatus? (endpoint : String) (status : UInt16) (address : String) : Option Failure :=
  (Http.Fault.ofStatus? status address).map (.ofFault endpoint Client.defaultSeconds)

end PickupGame.Api
