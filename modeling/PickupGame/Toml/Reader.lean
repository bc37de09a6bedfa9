import PickupGame.Toml.Scalar

/-!
# Reading TOML

A document is a sequence of lines: blank ones, comments, headers of tables, and keys with values. A
reader takes characters from the front of a text and gives what it read with what is left. Loops are
bounded by the length of the text, nesting by a number of levels.
-/

namespace PickupGame.Toml

abbrev Reader (α : Type) := List Char → Option (α × List Char)

/-- How many levels values may be nested, and how many parts a key may have. -/
def maxLevels : Nat := 79

/-! ## Blanks, comments and line ends -/

def isSpace (c : Char) : Bool := c = ' ' || c = '\t'

def skipSpace (cs : List Char) : List Char :=
  cs.dropWhile isSpace

/-- The characters that may stand in comments and strings: all but the controls, tab being no
control. -/
def isText (c : Char) : Bool :=
  c = '\t' || (0x20 ≤ c.toNat && c.toNat ≠ 0x7F)

def newline? : List Char → Option (List Char)
  | '\n' :: cs => some cs
  | '\r' :: '\n' :: cs => some cs
  | _ => none

def skipComment : List Char → List Char
  | '#' :: cs => cs.dropWhile isText
  | cs => cs

/-- The end of a line: blanks, a comment, and a line break or the end of the text. -/
def lineEnd (cs : List Char) : Option (List Char) :=
  match skipComment (skipSpace cs) with
  | [] => some []
  | rest => newline? rest

/-- What is left behind blanks, line breaks and comments. -/
def skipTrivia : Nat → List Char → List Char
  | 0, cs => cs
  | fuel + 1, cs =>
    match skipComment (skipSpace cs) with
    | '\n' :: rest => skipTrivia fuel rest
    | '\r' :: '\n' :: rest => skipTrivia fuel rest
    | rest => rest

/-! ## Strings -/

/-- Hexadecimal digits, `n` of them. -/
def hexNumber : Nat → Nat → Reader Nat
  | 0, acc, cs => some (acc, cs)
  | _ + 1, _, [] => none
  | n + 1, acc, c :: cs =>
    match Numeral.hexDigit? c with
    | some d => hexNumber n (16 * acc + d) cs
    | none => none

/-- The character of a code point given by `n` hexadecimal digits. -/
def codePoint (n : Nat) : Reader Char := fun cs =>
  match hexNumber n 0 cs with
  | some (v, rest) => if v.isValidChar then some (Char.ofNat v, rest) else none
  | none => none

def escape : Reader Char
  | 'b' :: cs => some ('\x08', cs)
  | 't' :: cs => some ('\t', cs)
  | 'n' :: cs => some ('\n', cs)
  | 'f' :: cs => some ('\x0c', cs)
  | 'r' :: cs => some ('\r', cs)
  | '"' :: cs => some ('"', cs)
  | '\\' :: cs => some ('\\', cs)
  | 'u' :: cs => codePoint 4 cs
  | 'U' :: cs => codePoint 8 cs
  | _ => none

/-- The characters of a basic string up to its closing quote; `acc` holds those read, the last one
first. -/
def basicBody : Nat → List Char → Reader (List Char)
  | 0, _, _ => none
  | _ + 1, _, [] => none
  | fuel + 1, acc, c :: cs =>
    if c = '"' then some (acc.reverse, cs)
    else if c = '\\' then
      match escape cs with
      | some (d, rest) => basicBody fuel (d :: acc) rest
      | none => none
    else if isText c then basicBody fuel (c :: acc) cs
    else none

/-- The characters of a literal string up to its closing quote. -/
def literalBody : List Char → Reader (List Char)
  | _, [] => none
  | acc, c :: cs =>
    if c = '\'' then some (acc.reverse, cs)
    else if isText c then literalBody (c :: acc) cs
    else none

/-- What is left behind blanks and line breaks. -/
def skipBlankLines : List Char → List Char
  | [] => []
  | '\r' :: '\n' :: cs => skipBlankLines cs
  | c :: cs => if isSpace c || c = '\n' then skipBlankLines cs else c :: cs

/-- What is left behind the line break that a backslash at the end of a line stands in front of,
and behind the blanks and line breaks there. -/
def continuation? (cs : List Char) : Option (List Char) :=
  (newline? (skipSpace cs)).map skipBlankLines

/-- The characters of a string over several lines, between triple quotes of the kind `quote`. Up to
two quotes stand for themselves, also in front of the closing ones. -/
def multilineBody (quote : Char) (escapes : Bool) : Nat → List Char → Reader (List Char)
  | 0, _, _ => none
  | _ + 1, _, [] => none
  | fuel + 1, acc, c :: cs =>
    if c = quote then
      let run := ((c :: cs).takeWhile (· = quote)).length
      let rest := (c :: cs).dropWhile (· = quote)
      if run < 3 then multilineBody quote escapes fuel (List.replicate run quote ++ acc) rest
      else if run ≤ 5 then some ((List.replicate (run - 3) quote ++ acc).reverse, rest)
      else none
    else if escapes && c = '\\' then
      match continuation? cs with
      | some rest => multilineBody quote escapes fuel acc rest
      | none =>
        match escape cs with
        | some (d, rest) => multilineBody quote escapes fuel (d :: acc) rest
        | none => none
    else match newline? (c :: cs) with
      | some rest => multilineBody quote escapes fuel ('\n' :: acc) rest
      | none => if isText c then multilineBody quote escapes fuel (c :: acc) cs else none

/-- A line break right behind the opening quotes does not count. -/
def skipFirstNewline (cs : List Char) : List Char :=
  (newline? cs).getD cs

def multiline (quote : Char) (escapes : Bool) : Reader (List Char) := fun cs =>
  multilineBody quote escapes (cs.length + 1) [] (skipFirstNewline cs)

def string : Reader (List Char)
  | '"' :: '"' :: '"' :: rest => multiline '"' true rest
  | '\'' :: '\'' :: '\'' :: rest => multiline '\'' false rest
  | '"' :: rest => basicBody (rest.length + 1) [] rest
  | '\'' :: rest => literalBody [] rest
  | _ => none

/-! ## Keys -/

/-- The characters of keys without quotes. -/
def isBareChar (c : Char) : Bool :=
  c.isAlphanum || c = '_' || c = '-'

def simpleKey : Reader String := fun cs =>
  match cs with
  | '"' :: rest => (basicBody (rest.length + 1) [] rest).map fun p => (String.ofList p.1, p.2)
  | '\'' :: rest => (literalBody [] rest).map fun p => (String.ofList p.1, p.2)
  | _ =>
    let name := cs.takeWhile isBareChar
    if name.isEmpty then none else some (String.ofList name, cs.dropWhile isBareChar)

/-- The parts of a key between dots, with blanks around them, at most `levels` of them. -/
def keyParts : Nat → Reader (List String)
  | 0, _ => none
  | levels + 1, cs =>
    match simpleKey (skipSpace cs) with
    | none => none
    | some (k, rest) =>
      match skipSpace rest with
      | '.' :: rest =>
        match keyParts levels rest with
        | some (ks, rest) => some (k :: ks, rest)
        | none => none
      | rest => some ([k], rest)

def key : Reader (List String × String) := fun cs =>
  match keyParts maxLevels cs with
  | some (ks, rest) => ks.getLast?.map fun k => ((ks.dropLast, k), rest)
  | none => none

/-! ## Values -/

def pair (item : Reader Value) : Reader ((List String × String) × Value) := fun cs =>
  match key cs with
  | some (k, '=' :: rest) =>
    match item (skipSpace rest) with
    | some (v, rest) => some ((k, v), rest)
    | none => none
  | _ => none

def items (item : Reader Value) : Nat → List Value → Reader (List Value)
  | 0, _, _ => none
  | fuel + 1, acc, cs =>
    match skipTrivia cs.length cs with
    | [] => none
    | ']' :: rest => some (acc.reverse, rest)
    | rest =>
      match item rest with
      | none => none
      | some (v, rest) =>
        match skipTrivia rest.length rest with
        | ',' :: rest => items item fuel (v :: acc) rest
        | ']' :: rest => some ((v :: acc).reverse, rest)
        | _ => none

/-- The entries of a table in braces up to its closing brace, behind at least one entry or an opening
brace. -/
def inlineEntries (item : Reader Value) : Nat → Entries → Reader Entries
  | 0, _, _ => none
  | fuel + 1, acc, cs =>
    match pair item (skipSpace cs) with
    | none => none
    | some (((path, k), v), rest) =>
      match acc.put? k v path .inline with
      | none => none
      | some acc =>
        match skipSpace rest with
        | ',' :: rest => inlineEntries item fuel acc rest
        | '}' :: rest => some (acc, rest)
        | _ => none

/-- A value inside which `levels` arrays and tables may still be opened in one another. -/
def value (levels : Nat) (cs : List Char) : Option (Value × List Char) :=
  match cs with
  | '"' :: _ => (string cs).map fun p => (.string (String.ofList p.1), p.2)
  | '\'' :: _ => (string cs).map fun p => (.string (String.ofList p.1), p.2)
  | '[' :: rest =>
    match levels with
    | 0 => none
    | levels + 1 => (items (value levels) (rest.length + 1) [] rest).map fun p => (.array p.1, p.2)
  | '{' :: rest =>
    match levels with
    | 0 => none
    | levels + 1 =>
      match skipSpace rest with
      | '}' :: rest => some (.table .inline [], rest)
      | rest =>
        (inlineEntries (value levels) (rest.length + 1) [] rest).map fun p =>
          (.table .inline p.1, p.2)
  | cs => readScalar cs

/-! ## Documents -/

/-- The path of the table that lines are added to, and the tables read so far. -/
structure State where
  path : List String
  root : Entries

/-- A header in single brackets, behind the first of them. -/
def header (s : State) (cs : List Char) : Option (State × List Char) :=
  match key cs with
  | some ((path, k), ']' :: rest) =>
    match s.root.at? (Entries.openTable? k) path, lineEnd rest with
    | some root, some rest => some (⟨path ++ [k], root⟩, rest)
    | _, _ => none
  | _ => none

/-- A header in double brackets, behind the first two of them. -/
def rowHeader (s : State) (cs : List Char) : Option (State × List Char) :=
  match key cs with
  | some ((path, k), ']' :: ']' :: rest) =>
    match s.root.at? (Entries.openRow? k) path, lineEnd rest with
    | some root, some rest => some (⟨path ++ [k], root⟩, rest)
    | _, _ => none
  | _ => none

def entry (s : State) (cs : List Char) : Option (State × List Char) :=
  match pair (value maxLevels) cs with
  | some (((path, k), v), rest) =>
    match s.root.at? (Entries.put? k v path .header) s.path, lineEnd rest with
    | some root, some rest => some (⟨s.path, root⟩, rest)
    | _, _ => none
  | none => none

/-- The first line of a non-empty text without blanks in front. -/
def line (s : State) (cs : List Char) : Option (State × List Char) :=
  match cs with
  | '[' :: '[' :: rest => rowHeader s rest
  | '[' :: rest => header s rest
  | '\n' :: _ => (lineEnd cs).map (s, ·)
  | '\r' :: _ => (lineEnd cs).map (s, ·)
  | '#' :: _ => (lineEnd cs).map (s, ·)
  | cs => entry s cs

def lines : Nat → State → List Char → Option Entries
  | fuel, s, cs =>
    match skipSpace cs with
    | [] => some s.root
    | rest =>
      match fuel with
      | 0 => none
      | fuel + 1 =>
        match line s rest with
        | some (s, rest) => lines fuel s rest
        | none => none

/-- A byte order mark in front of a text does not count. -/
def skipMark : List Char → List Char
  | '\uFEFF' :: cs => cs
  | cs => cs

/-- The entries of a whole document, or none if it is not TOML. -/
def parse? (text : String) : Option Entries :=
  let cs := skipMark text.toList
  lines cs.length ⟨[], []⟩ cs

end PickupGame.Toml
