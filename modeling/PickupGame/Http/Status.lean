/-!
# Statuses

Answers are good with a status of 200 to 299. Those of 400 to 499 blame the client and those of 500
to 599 the server; each of them has a reason phrase unless it is not a standard one.
-/

namespace PickupGame.Http

def isSuccess (status : UInt16) : Bool :=
  200 ≤ status && status ≤ 299

/-- The phrase that goes with a status that blames someone. -/
def reason? : Nat → Option String
  | 400 => some "Bad Request"
  | 401 => some "Unauthorized"
  | 402 => some "Payment Required"
  | 403 => some "Forbidden"
  | 404 => some "Not Found"
  | 405 => some "Method Not Allowed"
  | 406 => some "Not Acceptable"
  | 407 => some "Proxy Authentication Required"
  | 408 => some "Request Timeout"
  | 409 => some "Conflict"
  | 410 => some "Gone"
  | 411 => some "Length Required"
  | 412 => some "Precondition Failed"
  | 413 => some "Payload Too Large"
  | 414 => some "URI Too Long"
  | 415 => some "Unsupported Media Type"
  | 416 => some "Range Not Satisfiable"
  | 417 => some "Expectation Failed"
  | 418 => some "I'm a teapot"
  | 421 => some "Misdirected Request"
  | 422 => some "Unprocessable Entity"
  | 423 => some "Locked"
  | 424 => some "Failed Dependency"
  | 426 => some "Upgrade Required"
  | 428 => some "Precondition Required"
  | 429 => some "Too Many Requests"
  | 431 => some "Request Header Fields Too Large"
  | 451 => some "Unavailable For Legal Reasons"
  | 500 => some "Internal Server Error"
  | 501 => some "Not Implemented"
  | 502 => some "Bad Gateway"
  | 503 => some "Service Unavailable"
  | 504 => some "Gateway Timeout"
  | 505 => some "HTTP Version Not Supported"
  | 506 => some "Variant Also Negotiates"
  | 507 => some "Insufficient Storage"
  | 508 => some "Loop Detected"
  | 510 => some "Not Extended"
  | 511 => some "Network Authentication Required"
  | _ => none

def statusText (status : Nat) : String :=
  match reason? status with
  | some phrase => s!"{status} {phrase}"
  | none => s!"{status} <unknown status code>"

def culprit? (status : Nat) : Option String :=
  if 400 ≤ status ∧ status ≤ 499 then some "client"
  else if 500 ≤ status ∧ status ≤ 599 then some "server"
  else none

/-- What is said of an answer from an address whose status blames someone. -/
def statusFault? (status : Nat) (address : String) : Option String :=
  (culprit? status).map fun who =>
    s!"HTTP status {who} error ({statusText status}) for url ({address})"

end PickupGame.Http
