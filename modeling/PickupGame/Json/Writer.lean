import PickupGame.Json.Value

/-!
# Writing JSON

Two layouts: on one line without blanks, and one item per line with two blanks of indentation per
level. Strings escape quotes, backslashes and control characters and nothing else. Doubles have the
fewest digits that read back, positional from `1e-5` up to below `1e16`.
-/

namespace PickupGame.Json

open PickupGame.Numeral (digits hexDigits)

/-- The escape of a character in a string, or the character itself. -/
def escaped (c : Char) : List Char :=
  if c = '"' then ['\\', '"']
  else if c = '\\' then ['\\', '\\']
  else if c = '\x08' then ['\\', 'b']
  else if c = '\x0c' then ['\\', 'f']
  else if c = '\n' then ['\\', 'n']
  else if c = '\r' then ['\\', 'r']
  else if c = '\t' then ['\\', 't']
  else if c.toNat < 0x10 then ['\\', 'u', '0', '0', '0'] ++ hexDigits c.toNat
  else if c.toNat < 0x20 then ['\\', 'u', '0', '0'] ++ hexDigits c.toNat
  else [c]

def quoted (s : String) : List Char :=
  '"' :: s.toList.flatMap escaped ++ ['"']

def integerText : Int → List Char
  | .ofNat n => digits n
  | .negSucc n => '-' :: digits (n + 1)

/-- The number `0.d₁d₂… · 10 ^ point` for the digits `ds`. -/
def decimalText (ds : List Char) (point : Int) : List Char :=
  let n : Int := ds.length
  if n ≤ point ∧ point ≤ 16 then ds ++ List.replicate (point - n).toNat '0' ++ ['.', '0']
  else if 0 < point ∧ point ≤ 16 then ds.take point.toNat ++ '.' :: ds.drop point.toNat
  else if -5 < point ∧ point ≤ 0 then '0' :: '.' :: List.replicate (-point).toNat '0' ++ ds
  else
    let e := point - 1
    let sign := if e < 0 then '-' else '+'
    let lead := if ds.length ≤ 1 then ds else ds.take 1 ++ '.' :: ds.drop 1
    lead ++ 'e' :: sign :: digits e.natAbs

/-- A double, by its fewest digits. -/
def floatText (x : Float) : List Char :=
  let magnitude := match Numeral.Binary.ofFloat? x with
    | none => ['0', '.', '0']
    | some b =>
      let d := b.shortest
      let ds := digits d.digits
      decimalText ds (d.exponent + ds.length)
  if x.toBits.toNat < 0x8000000000000000 then magnitude else '-' :: magnitude

def Number.text : Number → List Char
  | .integer n _ _ => integerText n
  | .float x => floatText x

def separated (separator : List Char) : List (List Char) → List Char
  | [] => []
  | [t] => t
  | t :: ts => t ++ separator ++ separated separator ts

mutual

def Value.compact : Value → List Char
  | .null => ['n', 'u', 'l', 'l']
  | .bool true => ['t', 'r', 'u', 'e']
  | .bool false => ['f', 'a', 'l', 's', 'e']
  | .number n => n.text
  | .string s => quoted s
  | .array items => '[' :: separated [','] (compactItems items) ++ [']']
  | .object members => '{' :: separated [','] (compactMembers members) ++ ['}']

def compactItems : List Value → List (List Char)
  | [] => []
  | v :: vs => v.compact :: compactItems vs

def compactMembers : List (String × Value) → List (List Char)
  | [] => []
  | (k, v) :: ms => (quoted k ++ ':' :: v.compact) :: compactMembers ms

end

/-- A line break and the indentation of a level. -/
def newline (level : Nat) : List Char :=
  '\n' :: List.replicate (2 * level) ' '

/-- Items one to a line between two brackets; none leave the brackets side by side. -/
def block (left right : Char) (level : Nat) (items : List (List Char)) : List Char :=
  if items.isEmpty then [left, right]
  else left :: newline (level + 1) ++ separated (',' :: newline (level + 1)) items
    ++ newline level ++ [right]

mutual

/-- A value over several lines, `level` deep in others. -/
def Value.indented (level : Nat) : Value → List Char
  | .array items => block '[' ']' level (indentedItems (level + 1) items)
  | .object members => block '{' '}' level (indentedMembers (level + 1) members)
  | .null => ['n', 'u', 'l', 'l']
  | .bool true => ['t', 'r', 'u', 'e']
  | .bool false => ['f', 'a', 'l', 's', 'e']
  | .number n => n.text
  | .string s => quoted s

def indentedItems (level : Nat) : List Value → List (List Char)
  | [] => []
  | v :: vs => v.indented level :: indentedItems level vs

def indentedMembers (level : Nat) : List (String × Value) → List (List Char)
  | [] => []
  | (k, v) :: ms => (quoted k ++ ':' :: ' ' :: v.indented level) :: indentedMembers level ms

end

def Value.text (v : Value) : String :=
  String.ofList v.compact

def Value.pretty (v : Value) : String :=
  String.ofList (v.indented 0)

end PickupGame.Json
