/-!
# TOML values and tables

Tables remember how they came about, which decides how a document may go on writing to them: a table
with a header of its own is complete but for its sub-tables, one named on the way to another may
still get a header, one made by a dotted key takes further dotted keys, and one written in braces is
closed. Entries keep the order in which they were written.
-/

namespace PickupGame.Toml

/-- How a table came about. -/
inductive Form
  | header
  | implied
  | dotted
  | inline
  deriving DecidableEq, Repr

/-- Numbers other than integers, dates and times are kept as they are written. -/
inductive Value
  | string (s : String)
  | integer (n : Int)
  | float (text : String)
  | boolean (b : Bool)
  | time (text : String)
  | array (items : List Value)
  | table (form : Form) (entries : List (String × Value))
  | tables (rows : List (List (String × Value)))

instance : Inhabited Value := ⟨.boolean false⟩

abbrev Entries := List (String × Value)

namespace Entries

def get? (es : Entries) (key : String) : Option Value :=
  es.lookup key

/-- Applies `f` to the value of a key, if that can be done. -/
def alter? (f : Value → Option Value) (key : String) : Entries → Option Entries
  | [] => none
  | (k, v) :: es =>
    if k = key then (f v).map fun v => (k, v) :: es
    else (alter? f key es).map ((k, v) :: ·)

def add? (es : Entries) (key : String) (v : Value) : Option Entries :=
  match es.get? key with
  | some _ => none
  | none => some (es ++ [(key, v)])

/-- Writes a key and its value, behind the path of a dotted key, to a table of the given form. -/
def put? (key : String) (v : Value) : List String → Form → Entries → Option Entries
  | [], form, es => if form = .implied then none else es.add? key v
  | k :: path, _, es =>
    match es.get? k with
    | none => (put? key v path .dotted []).map fun sub => es ++ [(k, .table .dotted sub)]
    | some (.table .dotted sub) =>
      match put? key v path .dotted sub with
      | some sub => es.alter? (fun _ => some (.table .dotted sub)) k
      | none => none
    | some (.table .implied sub) =>
      match put? key v path .implied sub with
      | some sub => es.alter? (fun _ => some (.table .implied sub)) k
      | none => none
    | some _ => none

/-- Applies `f` to the last row of an array of tables. -/
def lastRow? (f : Entries → Option Entries) : List Entries → Option (List Entries)
  | [] => none
  | [row] => (f row).map fun row => [row]
  | row :: rows => (lastRow? f rows).map (row :: ·)

/-- Applies `f` to the table at the end of a path of a header, making the tables on the way that are
not there yet. -/
def at? (f : Entries → Option Entries) : List String → Entries → Option Entries
  | [], es => f es
  | k :: path, es =>
    match es.get? k with
    | none => (at? f path []).map fun sub => es ++ [(k, .table .implied sub)]
    | some (.table .inline _) => none
    | some (.table form sub) =>
      match at? f path sub with
      | some sub => es.alter? (fun _ => some (.table form sub)) k
      | none => none
    | some (.tables rows) =>
      match lastRow? (at? f path) rows with
      | some rows => es.alter? (fun _ => some (.tables rows)) k
      | none => none
    | some _ => none

/-- Opens the table of a header. It must be new or have been implied by other headers. -/
def openTable? (key : String) (es : Entries) : Option Entries :=
  match es.get? key with
  | none => es.add? key (.table .header [])
  | some (.table .implied sub) => es.alter? (fun _ => some (.table .header sub)) key
  | some _ => none

/-- Opens a new row of an array of tables. -/
def openRow? (key : String) (es : Entries) : Option Entries :=
  match es.get? key with
  | none => es.add? key (.tables [[]])
  | some (.tables rows) => es.alter? (fun _ => some (.tables (rows ++ [[]]))) key
  | some _ => none

end Entries

end PickupGame.Toml
