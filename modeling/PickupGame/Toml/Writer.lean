import PickupGame.Toml.Reader

/-!
# Writing TOML

Keys and strings in the plainest form that can hold them. A string is written in double quotes if
nothing in it needs an escape, else in single quotes, else over several lines, and with escapes only
if there is no other way.
-/

namespace PickupGame.Toml

def longestRun (c : Char) : Nat → Nat → List Char → Nat
  | best, _, [] => best
  | best, run, d :: ds =>
    if d = c then longestRun c (max best (run + 1)) (run + 1) ds else longestRun c best 0 ds

/-- The controls that only an escape can stand for. -/
def isControl (c : Char) : Bool :=
  (c.toNat < 0x20 && c ≠ '\t' && c ≠ '\n') || c.toNat = 0x7F

/-- What decides the form of a text. -/
structure Traits where
  controls : Bool
  backslash : Bool
  lineBreak : Bool
  singleQuotes : Nat
  doubleQuotes : Nat

def Traits.of (cs : List Char) : Traits where
  controls := cs.any isControl
  backslash := cs.any (· = '\\')
  lineBreak := cs.any (· = '\n')
  singleQuotes := longestRun '\'' 0 0 cs
  doubleQuotes := longestRun '"' 0 0 cs

/-- The escape of a control that has no short one. -/
def hexEscape (c : Char) : List Char :=
  let ds := (Numeral.hexDigits c.toNat).map Char.toUpper
  ['\\', 'u'] ++ List.replicate (4 - ds.length) '0' ++ ds

/-- The escape of a character other than quotes and line feeds, if it needs one. -/
def escape? (c : Char) : Option (List Char) :=
  if c = '\x08' then some ['\\', 'b']
  else if c = '\t' then some ['\\', 't']
  else if c = '\x0c' then some ['\\', 'f']
  else if c = '\r' then some ['\\', 'r']
  else if c = '\\' then some ['\\', '\\']
  else if isControl c then some (hexEscape c)
  else none

/-- The characters of a text with escapes. Over several lines, line feeds stand for themselves, and
so do up to two quotes in a row, of which `run` have been written. -/
def escaped (multiline : Bool) : Nat → List Char → List Char
  | _, [] => []
  | run, c :: cs =>
    if c = '"' then
      if multiline && run < 2 then '"' :: escaped multiline (run + 1) cs
      else '\\' :: '"' :: escaped multiline 0 cs
    else if c = '\n' then
      if multiline then '\n' :: escaped multiline 0 cs else '\\' :: 'n' :: escaped multiline 0 cs
    else match escape? c with
      | some e => e ++ escaped multiline 0 cs
      | none => c :: escaped multiline 0 cs

inductive Style
  | basic
  | literal
  | multilineBasic
  | multilineLiteral
  deriving DecidableEq, Repr

/-- The first style in the order of preference that can hold a text. -/
def Style.of (t : Traits) : Style :=
  if !t.controls && !t.backslash && t.doubleQuotes = 0 && !t.lineBreak then .basic
  else if !t.controls && t.singleQuotes = 0 && !t.lineBreak then .literal
  else if !t.controls && !t.backslash && t.doubleQuotes ≤ 2 then .multilineBasic
  else if !t.controls && t.singleQuotes ≤ 2 then .multilineLiteral
  else if t.lineBreak then .multilineBasic
  else .basic

/-- A text between triple quotes; a text with line breaks begins on a line of its own. -/
def tripled (quote : Char) (lineBreak : Bool) (body : List Char) : List Char :=
  [quote, quote, quote] ++ (if lineBreak then ['\n'] else []) ++ body ++ [quote, quote, quote]

def stringText (s : String) : List Char :=
  let cs := s.toList
  let t := Traits.of cs
  match Style.of t with
  | .basic => '"' :: escaped false 0 cs ++ ['"']
  | .literal => '\'' :: cs ++ ['\'']
  | .multilineBasic => tripled '"' t.lineBreak (escaped true 0 cs)
  | .multilineLiteral => tripled '\'' t.lineBreak cs

/-- A key, without quotes if it can do without. -/
def keyText (s : String) : List Char :=
  let cs := s.toList
  let t := Traits.of cs
  if !cs.isEmpty && cs.all isBareChar then cs
  else if !t.controls && !t.lineBreak && t.singleQuotes = 0
      && (t.backslash || t.doubleQuotes ≠ 0) then '\'' :: cs ++ ['\'']
  else '"' :: escaped false 0 cs ++ ['"']

/-- A line with a key and the text of its value. -/
def entryLine (key : String) (value : List Char) : List Char :=
  keyText key ++ [' ', '=', ' '] ++ value ++ ['\n']

def headerLine (path : List String) : List Char :=
  '[' :: ['.'].intercalate (path.map keyText) ++ [']', '\n']

end PickupGame.Toml
