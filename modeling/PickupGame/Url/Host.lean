import PickupGame.Url.Percent

/-!
# Hosts

A host is a domain, an address of version 4 or 6, or a plain name where the scheme does not say
what hosts are. A domain is taken in its form for machines, which is no part of this library; one
that ends in a number has to be an address of version 4, whose numbers may be decimal, octal or
hexadecimal.
-/

namespace PickupGame.Url

inductive Fault
  | relative
  | emptyHost
  | invalidDomain
  | invalidPort
  | invalidIpv4
  | invalidIpv6
  | invalidHostCharacter
  deriving DecidableEq, Repr

def Fault.message : Fault → String
  | .relative => "relative URL without a base"
  | .emptyHost => "empty host"
  | .invalidDomain => "invalid international domain name"
  | .invalidPort => "invalid port number"
  | .invalidIpv4 => "invalid IPv4 address"
  | .invalidIpv6 => "invalid IPv6 address"
  | .invalidHostCharacter => "invalid domain character"

inductive Host
  | domain (name : String)
  | ipv4 (address : Nat)
  | ipv6 (pieces : List Nat)
  | named (name : String)
  deriving DecidableEq, Repr

/-- The form of a domain for machines, in ASCII and in lower case, from its bytes. There is none for
what may not stand in a domain. Letters beyond ASCII are mapped to others, composed and written in
Punycode, by tables that are revised from year to year. -/
class Idna where
  toAscii? : List UInt8 → Option (List Char)

/-! ## Version 4 -/

namespace Ipv4

/-- A number in a base, all its digits being of that base. -/
def inBase (base : Nat) (cs : List Char) : Option Nat :=
  cs.foldlM (fun n c =>
    match Numeral.hexDigit? c with
    | some d => if d < base then some (base * n + d) else none
    | none => none) 0

/-- A number, hexadecimal behind `0x`, octal behind `0`, else decimal. -/
def number? : List Char → Option Nat
  | [] => none
  | '0' :: 'x' :: cs => inBase 16 cs
  | '0' :: 'X' :: cs => inBase 16 cs
  | '0' :: c :: cs => inBase 8 (c :: cs)
  | cs => inBase 10 cs

/-- The last label of a domain; an empty one behind a final dot does not count. -/
def lastLabel (labels : List (List Char)) : List Char :=
  match labels.reverse with
  | [] :: l :: _ => l
  | l :: _ => l
  | [] => []

def endsInNumber (labels : List (List Char)) : Bool :=
  let l := lastLabel labels
  !l.isEmpty && (l.all (·.isDigit) || (number? l).isSome)

/-- The address of at most four numbers, the last of which fills what the others leave. -/
def ofNumbers : List Nat → Nat → Option Nat
  | [], _ => none
  | [n], bytes => if n < Nat.pow 256 bytes then some n else none
  | n :: ns, bytes =>
    if 255 < n then none
    else (ofNumbers ns (bytes - 1)).map (n * Nat.pow 256 (bytes - 1) + ·)

def parse? (labels : List (List Char)) : Option Nat :=
  let labels := if labels.getLast? = some [] then labels.dropLast else labels
  if 4 < labels.length then none
  else (labels.mapM number?).bind (ofNumbers · 4)

/-- The four bytes in decimal with dots between them. -/
def text (address : Nat) : List Char :=
  let byte (i : Nat) := Numeral.digits (address / Nat.pow 256 i % 256)
  byte 3 ++ '.' :: byte 2 ++ '.' :: byte 1 ++ '.' :: byte 0

end Ipv4

/-! ## Version 6 -/

namespace Ipv6

/-- A piece of one to four hexadecimal digits. -/
def piece? (cs : List Char) : Option Nat :=
  if cs.isEmpty || 4 < cs.length then none else Ipv4.inBase 16 cs

/-- A decimal byte without zeros in front. -/
def byte? (cs : List Char) : Option Nat :=
  match cs with
  | '0' :: _ :: _ => none
  | [] => none
  | cs => if 3 < cs.length then none else (Ipv4.inBase 10 cs).filter (· ≤ 255)

/-- The two pieces of an address of version 4 at the end. -/
def embedded? (cs : List Char) : Option (List Nat) :=
  match (cs.splitOn '.').mapM byte? with
  | some [a, b, c, d] => some [256 * a + b, 256 * c + d]
  | _ => none

/-- The pieces of a part without a gap; only the last part may end in an address of version 4. -/
def pieces? (last : Bool) : List (List Char) → Option (List Nat)
  | [] => some []
  | [p] =>
    if last && p.contains '.' then embedded? p else (piece? p).map ([·])
  | p :: ps =>
    match piece? p, pieces? last ps with
    | some n, some ns => some (n :: ns)
    | _, _ => none

def splitGap? : List Char → Option (List Char × List Char)
  | [] => none
  | ':' :: ':' :: cs => some ([], cs)
  | c :: cs => (splitGap? cs).map fun p => (c :: p.1, p.2)

/-- The pieces of a part between single colons. -/
def side? (last : Bool) (cs : List Char) : Option (List Nat) :=
  if cs.isEmpty then some [] else pieces? last (cs.splitOn ':')

/-- The eight pieces of an address; a double colon stands for at least one piece of zero. -/
def parse? (cs : List Char) : Option (List Nat) :=
  match splitGap? cs with
  | some (front, back) =>
    match side? false front, side? true back with
    | some ms, some ns =>
      if ms.length + ns.length ≤ 7 then
        some (ms ++ List.replicate (8 - ms.length - ns.length) 0 ++ ns)
      else none
    | _, _ => none
  | none => (side? true cs).filter (·.length = 8)

/-- The start and the length of the first longest run of zeros. -/
def longestZeros : List Nat → Nat → Nat × Nat
  | [], at' => (at', 0)
  | n :: ns, at' =>
    let run := ((n :: ns).takeWhile (· = 0)).length
    let best := longestZeros ns (at' + 1)
    if best.2 ≤ run then (at', run) else best

def piecesText (ns : List Nat) : List Char :=
  [':'].intercalate (ns.map Numeral.hexDigits)

/-- An address with its longest run of at least two zeros left out. -/
def text (ns : List Nat) : List Char :=
  let (start, length) := longestZeros ns 0
  if 2 ≤ length then
    piecesText (ns.take start) ++ [':', ':'] ++ piecesText (ns.drop (start + length))
  else piecesText ns

end Ipv6

/-! ## Hosts -/

def bracketed (cs : List Char) : Except Fault Host :=
  match cs.reverse with
  | ']' :: inner =>
    match Ipv6.parse? inner.reverse with
    | some ns => .ok (.ipv6 ns)
    | none => .error .invalidIpv6
  | _ => .error .invalidIpv6

def Host.parse [Idna] : List Char → Except Fault Host
  | '[' :: cs => bracketed cs
  | cs =>
    match Idna.toAscii? (percentDecode cs) with
    | none => .error .invalidDomain
    | some [] => .error .emptyHost
    | some name =>
      let labels := name.splitOn '.'
      if Ipv4.endsInNumber labels then
        match Ipv4.parse? labels with
        | some a => .ok (.ipv4 a)
        | none => .error .invalidIpv4
      else .ok (.domain (String.ofList name))

/-- ASCII characters that no such name contains. -/
def isForbiddenInName (c : Char) : Bool :=
  "\x00\t\n\r #/:<>?@[\\]^|".toList.contains c

/-- The host of any other scheme. -/
def Host.parseNamed : List Char → Except Fault Host
  | '[' :: cs => bracketed cs
  | cs =>
    if cs.any isForbiddenInName then .error .invalidHostCharacter
    else .ok (.named (String.ofList (percentEncode isControl cs)))

def Host.text : Host → List Char
  | .domain name => name.toList
  | .ipv4 a => Ipv4.text a
  | .ipv6 ns => '[' :: Ipv6.text ns ++ [']']
  | .named name => name.toList

end PickupGame.Url
