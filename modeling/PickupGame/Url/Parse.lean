import PickupGame.Url.Form
import PickupGame.Url.Host

/-!
# Addresses

Reading and writing absolute URLs. Reading normalises: schemes and domains become lower case, default
ports are dropped, dot segments are resolved, and characters that may not stand for themselves are
percent-encoded. The schemes `http`, `https`, `ws`, `wss` and `ftp` always have a host, and in them
a backslash is as good as a slash.
-/

namespace PickupGame

inductive Url.Path
  | segments (names : List (List Char))
  | plain (text : List Char)
  deriving DecidableEq, Repr

/-- User name and password are percent-encoded, the latter possibly absent. -/
structure Url where
  scheme : List Char
  username : List Char
  password : Option (List Char)
  host : Option Url.Host
  port : Option Nat
  path : Url.Path
  query : Option (List Char)
  fragment : Option (List Char)
  deriving DecidableEq, Repr

namespace Url

/-! ## Schemes -/

/-- The default ports of the schemes that always have a host. -/
def defaultPort? (scheme : List Char) : Option Nat :=
  if scheme = ['h', 't', 't', 'p'] ∨ scheme = ['w', 's'] then some 80
  else if scheme = ['h', 't', 't', 'p', 's'] ∨ scheme = ['w', 's', 's'] then some 443
  else if scheme = ['f', 't', 'p'] then some 21
  else none

def isFileScheme (scheme : List Char) : Bool :=
  scheme = ['f', 'i', 'l', 'e']

/-- Whether a backslash is as good as a slash. -/
def isSpecial (scheme : List Char) : Bool :=
  (defaultPort? scheme).isSome || isFileScheme scheme

def isSchemeChar (c : Char) : Bool :=
  c.isAlphanum || c = '+' || c = '-' || c = '.'

/-- The scheme in lower case, and what follows its colon. -/
def scheme? (cs : List Char) : Option (List Char × List Char) :=
  let name := cs.takeWhile isSchemeChar
  match cs.dropWhile isSchemeChar with
  | ':' :: rest =>
    if name.head?.any (·.isAlpha) then some (name.map Char.toLower, rest) else none
  | _ => none

/-! ## Authority -/

def isSlash (special : Bool) (c : Char) : Bool :=
  c = '/' || (special && c = '\\')

def endsAuthority (special : Bool) (c : Char) : Bool :=
  isSlash special c || c = '?' || c = '#'

/-- The text in front of the last `@` and the text behind it. -/
def splitUserinfo (cs : List Char) : Option (List Char) × List Char :=
  if cs.contains '@' then
    (some (cs.reverse.dropWhile (· ≠ '@')).tail.reverse, (cs.reverse.takeWhile (· ≠ '@')).reverse)
  else (none, cs)

/-- User name and password, which is absent when nothing is behind the colon. -/
def readUserinfo (cs : List Char) : List Char × Option (List Char) :=
  let name := cs.takeWhile (· ≠ ':')
  let password := (cs.dropWhile (· ≠ ':')).tail
  (percentEncode inUserinfoSet name,
    if password.isEmpty then none else some (percentEncode inUserinfoSet password))

/-- The host and what follows it; a colon between brackets belongs to the host. -/
def splitHost : Bool → List Char → List Char × List Char
  | _, [] => ([], [])
  | inBrackets, c :: cs =>
    if c = ':' && !inBrackets then ([], c :: cs)
    else
      let r := splitHost (if c = '[' then true else if c = ']' then false else inBrackets) cs
      (c :: r.1, r.2)

/-- The digits of a port onto `n`. -/
def readPort : Nat → List Char → Except Fault Nat
  | n, [] => .ok n
  | n, c :: cs =>
    match Numeral.digit? c with
    | some d => if 10 * n + d ≤ 65535 then readPort (10 * n + d) cs else .error .invalidPort
    | none => .error .invalidPort

/-- The port behind a host, none if it is the default one. -/
def port? (scheme : List Char) : List Char → Except Fault (Option Nat)
  | [] => .ok none
  | [_] => .ok none
  | _ :: cs =>
    match readPort 0 cs with
    | .ok n => .ok (if defaultPort? scheme = some n then none else some n)
    | .error e => .error e

/-- An authority without the slashes around it. -/
structure Authority where
  username : List Char
  password : Option (List Char)
  host : Host
  port : Option Nat

def Authority.parse [Idna] (scheme : List Char) (cs : List Char) : Except Fault Authority := do
  let special := isSpecial scheme
  let (userinfo, rest) := splitUserinfo cs
  if userinfo.isSome && rest.isEmpty then throw .emptyHost
  let (username, password) := readUserinfo (userinfo.getD [])
  let (name, rest) := splitHost false rest
  if name.isEmpty && (special || !rest.isEmpty) then throw .emptyHost
  let host ← if special then Host.parse name else Host.parseNamed name
  let port ← port? scheme rest
  return ⟨username, password, host, port⟩

/-! ## Paths -/

/-- A segment that stands for the directory it is in. -/
def isDot (cs : List Char) : Bool :=
  let cs := cs.map Char.toLower
  cs = ['.'] || cs = ['%', '2', 'e']

/-- A segment that stands for the directory above. -/
def isDoubleDot (cs : List Char) : Bool :=
  let cs := cs.map Char.toLower
  cs = ['.', '.'] || cs = ['.', '%', '2', 'e'] || cs = ['%', '2', 'e', '.']
    || cs = ['%', '2', 'e', '%', '2', 'e']

/-- The pieces of a path between slashes. -/
def splitPath (special : Bool) : List Char → List (List Char)
  | [] => [[]]
  | c :: cs =>
    if isSlash special c then [] :: splitPath special cs
    else match splitPath special cs with
      | [] => [[c]]
      | p :: ps => (c :: p) :: ps

/-- Pieces as segments; `acc` holds those in front. A dot segment at the end leaves an empty one. -/
def resolve : List (List Char) → List (List Char) → List (List Char)
  | acc, [] => acc
  | acc, [p] =>
    if isDoubleDot p then acc.dropLast ++ [[]]
    else if isDot p then acc ++ [[]]
    else acc ++ [percentEncode inPathSet p]
  | acc, p :: ps =>
    if isDoubleDot p then resolve acc.dropLast ps
    else if isDot p then resolve acc ps
    else resolve (acc ++ [percentEncode inPathSet p]) ps

/-- The segments of a path behind its first slash. -/
def segments (special : Bool) (cs : List Char) : List (List Char) :=
  resolve [] (splitPath special cs)

/-- A path behind an authority. Without a special scheme it may be empty. -/
def pathBehindHost (special : Bool) (cs : List Char) : Path :=
  match cs with
  | [] => .segments (if special then [[]] else [])
  | c :: rest => .segments (segments special (if isSlash special c then rest else c :: rest))

/-! ## Reading -/

/-- The text in front of a query or a fragment. -/
def beforeQuery (cs : List Char) : List Char :=
  cs.takeWhile fun c => c ≠ '?' && c ≠ '#'

/-- The query of what follows a path. -/
def query? (special : Bool) (cs : List Char) : Option (List Char) :=
  match cs.dropWhile fun c => c ≠ '?' && c ≠ '#' with
  | '?' :: rest =>
    some (percentEncode (if special then inSpecialQuerySet else inQuerySet)
      (rest.takeWhile (· ≠ '#')))
  | _ => none

def fragment? (cs : List Char) : Option (List Char) :=
  match cs.dropWhile (· ≠ '#') with
  | '#' :: rest => some (percentEncode inFragmentSet rest)
  | _ => none

/-- Controls and blanks at the ends, and tabs and line breaks anywhere, do not count. -/
def clean (cs : List Char) : List Char :=
  let blank (c : Char) : Bool := c.toNat ≤ 0x20
  let trimmed := ((cs.dropWhile blank).reverse.dropWhile blank).reverse
  trimmed.filter fun c => c ≠ '\t' && c ≠ '\n' && c ≠ '\r'

/-- An address with an authority, behind the slashes in front of it. -/
def parseAuthority [Idna] (scheme : List Char) (cs : List Char) : Except Fault Url := do
  let special := isSpecial scheme
  let body := beforeQuery cs
  let path := pathBehindHost special (body.dropWhile (!endsAuthority special ·))
  let text := body.takeWhile (!endsAuthority special ·)
  let query := query? special cs
  let fragment := fragment? cs
  if text.isEmpty && !special then
    return ⟨scheme, [], none, some (.named ""), none, path, query, fragment⟩
  let a ← Authority.parse scheme text
  return ⟨scheme, a.username, a.password, some a.host, a.port, path, query, fragment⟩

/-- An address of the scheme `file`, behind its colon. The host of this machine is left out. -/
def parseFile [Idna] (scheme : List Char) (cs : List Char) : Except Fault Url := do
  let body := beforeQuery cs
  let query := query? true cs
  let fragment := fragment? cs
  match body with
  | a :: b :: rest =>
    if isSlash true a && isSlash true b then
      let name := rest.takeWhile (!isSlash true ·)
      let path := pathBehindHost true (rest.dropWhile (!isSlash true ·))
      if name.isEmpty then return ⟨scheme, [], none, none, none, path, query, fragment⟩
      let host ← Host.parse name
      let host := if host = .domain "localhost" then none else some host
      return ⟨scheme, [], none, host, none, path, query, fragment⟩
    return ⟨scheme, [], none, none, none, pathBehindHost true body, query, fragment⟩
  | _ => return ⟨scheme, [], none, none, none, pathBehindHost true body, query, fragment⟩

def parse [Idna] (text : String) : Except Fault Url :=
  match scheme? (clean text.toList) with
  | none => .error .relative
  | some (scheme, rest) =>
    if isFileScheme scheme then parseFile scheme rest
    else if isSpecial scheme then parseAuthority scheme (rest.dropWhile (isSlash true))
    else match rest with
      | '/' :: '/' :: rest => parseAuthority scheme rest
      | '/' :: cs =>
        .ok ⟨scheme, [], none, none, none, .segments (segments false (beforeQuery cs)),
          query? false cs, fragment? cs⟩
      | cs =>
        .ok ⟨scheme, [], none, none, none, .plain (percentEncode isControl (beforeQuery cs)),
          query? false cs, fragment? cs⟩

/-! ## Writing -/

def pathText (u : Url) : List Char :=
  match u.path with
  | .plain text => text
  | .segments names =>
    let text := names.flatMap ('/' :: ·)
    if u.host.isNone && !isFileScheme u.scheme && names.length > 1 && names.head? = some [] then
      '/' :: '.' :: text
    else text

/-- The host with the slashes in front of it, credentials and port. -/
def authorityText (u : Url) : List Char :=
  match u.host with
  | none => if isFileScheme u.scheme then ['/', '/'] else []
  | some host =>
    let password := match u.password with
      | some p => ':' :: p
      | none => []
    let credentials :=
      if u.username.isEmpty && u.password.isNone then [] else u.username ++ password ++ ['@']
    let port := match u.port with
      | some n => ':' :: Numeral.digits n
      | none => []
    '/' :: '/' :: credentials ++ host.text ++ port

def text (u : Url) : List Char :=
  let query := match u.query with
    | some q => '?' :: q
    | none => []
  let fragment := match u.fragment with
    | some f => '#' :: f
    | none => []
  u.scheme ++ ':' :: u.authorityText ++ u.pathText ++ query ++ fragment

def display (u : Url) : String :=
  String.ofList u.text

/-- The address with form data at the end of its query; an empty query is dropped. -/
def addForm (u : Url) (pairs : List (String × String)) : Url :=
  let old := u.query.getD []
  let new := Form.write pairs
  let query := if old.isEmpty then new else if pairs.isEmpty then old else old ++ '&' :: new
  { u with query := if query.isEmpty then none else some query }

def withoutCredentials (u : Url) : Url :=
  { u with username := [], password := none }

/-- User name and password as text, if there are any and they are well formed. -/
def credentials? (u : Url) : Option (String × Option String) :=
  match Text.ofUtf8? (percentDecode u.username) with
  | none => none
  | some name =>
    let password := u.password.bind fun p => Text.ofUtf8? (percentDecode p)
    if name.isEmpty && password.isNone then none
    else some (String.ofList name, password.map String.ofList)

end Url

end PickupGame
