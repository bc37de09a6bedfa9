import PickupGame.Url.Percent

/-!
# Form encoding

Names and values as `application/x-www-form-urlencoded`: pairs joined by `&`, a name and its value by
`=`, blanks as `+`, and everything but letters, digits and `*-._` percent-encoded.
-/

namespace PickupGame.Url.Form

def contentType : String := "application/x-www-form-urlencoded"

/-- The characters that stand for themselves. -/
def isPlain (c : Char) : Bool :=
  c.isAlphanum || c = '*' || c = '-' || c = '.' || c = '_'

def encodeChar (c : Char) : List Char :=
  if c = ' ' then ['+'] else if isPlain c then [c] else percentChar c

def encode (cs : List Char) : List Char :=
  cs.flatMap encodeChar

@[simp] theorem encode_nil : encode [] = [] := rfl

@[simp] theorem encode_cons (c : Char) (cs : List Char) :
    encode (c :: cs) = encodeChar c ++ encode cs := rfl

@[simp] theorem encode_append (cs ds : List Char) : encode (cs ++ ds) = encode cs ++ encode ds := by
  simp [encode]

def pair (p : String × String) : List Char :=
  encode p.1.toList ++ '=' :: encode p.2.toList

/-- Pairs behind one another. -/
def write : List (String × String) → List Char
  | [] => []
  | [p] => pair p
  | p :: ps => pair p ++ '&' :: write ps

/-- The text of a name or a value. -/
def decode (cs : List Char) : String :=
  String.ofList
    (Text.ofUtf8Lossy (percentDecode (cs.map fun c => if c = '+' then ' ' else c)))

def pieces : List Char → List (List Char)
  | [] => [[]]
  | c :: cs =>
    if c = '&' then [] :: pieces cs
    else match pieces cs with
      | [] => [[c]]
      | p :: ps => (c :: p) :: ps

/-- A name and its value, split at the first equals sign. -/
def readPair (cs : List Char) : String × String :=
  (decode (cs.takeWhile (· ≠ '=')), decode (cs.dropWhile (· ≠ '=')).tail)

/-- The pairs of a text; empty pieces do not count. -/
def read (cs : List Char) : List (String × String) :=
  ((pieces cs).filter (!·.isEmpty)).map readPair

end PickupGame.Url.Form
