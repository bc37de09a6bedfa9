import PickupGame.Machine
import PickupGame.Text.Base64
import PickupGame.Text.Lines

/-!
# Messages on the wire

The bytes of a request, and the answer that the bytes sent back are. A connection serves one request,
so an answer ends where its length says, with its last chunk, or with the connection. One that ends
earlier is cut. What is sent and received is that of this machine.
-/

namespace PickupGame

instance : Platform := machine

namespace Http

def userAgent : String := "pug-client/0.1.0"

/-! ## Requests -/

namespace Request

/-- What is asked of the server: path and query. -/
def target (r : Request) : List Char :=
  let query := match r.url.query with
    | some q => '?' :: q
    | none => []
  r.url.pathText ++ query

def hostText (r : Request) : List Char :=
  let host := match r.url.host with
    | some h => h.text
    | none => []
  let port := match r.url.port with
    | some n => ':' :: Numeral.digits n
    | none => []
  host ++ port

def basic (credentials : String × Option String) : String :=
  let text := credentials.1 ++ ":" ++ credentials.2.getD ""
  "Basic " ++ String.ofList (Text.base64 (Text.utf8 text.toList))

def headers (r : Request) : List (String × String) :=
  (r.contentType.map fun t => ("content-type", t)).toList
    ++ (r.credentials.map fun c => ("authorization", basic c)).toList
    ++ [("user-agent", userAgent), ("accept", "*/*"), ("host", String.ofList r.hostText)]
    ++ (r.body.map fun b =>
          ("content-length", String.ofList (Numeral.digits (Text.byteLength b.toList)))).toList
    ++ [("connection", "close")]

def text (r : Request) : String :=
  let first := r.method.name ++ " " ++ String.ofList r.target ++ " HTTP/1.1\r\n"
  let lines := r.headers.map fun h => h.1 ++ ": " ++ h.2 ++ "\r\n"
  first ++ String.join lines ++ "\r\n" ++ r.body.getD ""

end Request

/-! ## Answers -/

/-- The first line and the headers of an answer, the names of the latter in lower case. -/
structure Head where
  status : UInt16
  headers : List (String × String)
  deriving DecidableEq, Repr

namespace Head

/-- The bytes up to the empty line that ends a head, and those behind it. -/
def split? : List UInt8 → Option (List UInt8 × List UInt8)
  | [] => none
  | 13 :: 10 :: 13 :: 10 :: bs => some ([], bs)
  | b :: bs => (split? bs).map fun r => (b :: r.1, r.2)

def status? (line : List Char) : Option UInt16 :=
  let code := ((line.dropWhile (· ≠ ' ')).drop 1).takeWhile (· ≠ ' ')
  match Numeral.readNat 999 code with
  | .ok n => if 100 ≤ n then some (UInt16.ofNat n) else none
  | .error _ => none

def header (line : List Char) : String × String :=
  (String.ofList ((line.takeWhile (· ≠ ':')).map Char.toLower),
    String.ofList (Text.trim (line.dropWhile (· ≠ ':')).tail))

/-- A head from its bytes, each standing for one character. -/
def ofBytes? (bs : List UInt8) : Option Head :=
  match Text.lines (bs.map fun b => Char.ofNat b.toNat) with
  | first :: rest => (status? (Text.trim first)).map fun status => ⟨status, rest.map header⟩
  | [] => none

def get? (h : Head) (name : String) : Option String :=
  h.headers.lookup name

end Head

/-- The size of a chunk from the line in front of it. -/
def chunkSize? (line : List Char) : Option Nat :=
  let ds := line.takeWhile fun c => (Numeral.hexDigit? c).isSome
  if ds.isEmpty then none
  else some (ds.foldl (fun n c => 16 * n + (Numeral.hexDigit? c).getD 0) 0)

/-- The bytes of a body that came in chunks, up to the chunk of size zero. Every chunk takes up some
of the bytes that are left, of which there are at most `fuel`. -/
def joinChunks : Nat → List UInt8 → Option (List UInt8)
  | 0, _ => none
  | fuel + 1, bs =>
    match chunkSize? ((bs.takeWhile (· ≠ 10)).map fun b => Char.ofNat b.toNat) with
    | none => none
    | some 0 => some []
    | some (n + 1) =>
      let rest := (bs.dropWhile (· ≠ 10)).drop 1
      if rest.length ≤ n then none
      else (joinChunks fuel ((rest.drop (n + 1)).drop 2)).map (rest.take (n + 1) ++ ·)

/-- The body of an answer out of all bytes behind its head. -/
def body? (h : Head) (bs : List UInt8) : Option (List UInt8) :=
  if h.get? "transfer-encoding" = some "chunked" then joinChunks bs.length bs
  else match (h.get? "content-length").map fun t => Numeral.readNat Numeral.maxU64 t.toList with
    | none => some bs
    | some (.ok n) => if n ≤ bs.length then some (bs.take n) else none
    | some (.error _) => none

def closedEarly : String := "connection closed before message completed"

/-- What the bytes of a connection are up to its end. -/
def Reply.ofBytes (bs : List UInt8) : Reply :=
  match Head.split? bs with
  | none => .broken closedEarly
  | some (head, rest) =>
    match Head.ofBytes? head with
    | none => .broken closedEarly
    | some head =>
      let begun : Response := ⟨head.status, head.get? "content-type", rest⟩
      match body? head rest with
      | some body => .answered { begun with bytes := body }
      | none => .cut begun (.broken closedEarly)

end Http

end PickupGame
