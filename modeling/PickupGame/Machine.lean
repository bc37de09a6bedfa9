import PickupGame.Platform
import PickupGame.Text.Width
import PickupGame.Url.Domain

/-!
# This machine

The platform that the program itself runs on. Answers count as UTF-8, output goes to no terminal, and
there is no record of accounts. The filter of the log is a list of directives, of which the one with
the longest name at the front of an origin counts; its text is looked for as it stands.
-/

namespace PickupGame

namespace Machine

/-! ## Filters -/

/-- The name that origins begin with, and the number of levels that are shown of them. -/
structure Directive where
  name : List Char
  levels : Nat

/-- The number of levels up to one of this name. -/
def levels? (name : List Char) : Option Nat :=
  ["off", "error", "warn", "info", "debug", "trace"].idxOf?
    (String.ofList (name.map Char.toLower))

def allLevels : Nat := 5

def levelsTo : Log.Level → Nat
  | .warn => 2
  | .debug => 4

/-- A directive, or what cannot be read of it. -/
def directive (cs : List Char) : Except (List Char) Directive :=
  match cs.splitOn '=' with
  | [name] => .ok <|
    match levels? name with
    | some n => ⟨[], n⟩
    | none => ⟨name, allLevels⟩
  | [name, level] =>
    let level := Text.trim level
    match levels? level with
    | some n => .ok ⟨name, n⟩
    | none => if level.isEmpty then .ok ⟨name, allLevels⟩ else .error level
  | _ => .error cs

/-- The texts between the commas of a filter. -/
def pieces (cs : List Char) : List (List Char) :=
  ((cs.splitOn ',').map Text.trim).filter (!·.isEmpty)

/-- The directives of a filter and the text that has to be in what is shown. -/
def parts (filter : String) : List Char × List Char :=
  match filter.toList.splitOn '/' with
  | [directives] => (directives, [])
  | [directives, text] => (directives, text)
  | _ => ([], [])

/-- The lines about what cannot be read of a filter. -/
def complaints (filter : String) : List String :=
  let reasons :=
    if filter.toList.count '/' ≤ 1 then
      (pieces (parts filter).1).filterMap fun piece =>
        match directive piece with
        | .ok _ => none
        | .error text => some s!"'{String.ofList text}'"
    else
      [s!"'{filter}' (too many '/'s)"]
  reasons.map fun reason => s!"warning: invalid logging spec {reason}, ignoring it"

/-- The one of two directives whose name is longer, if both fit. -/
def nearer (origin : List Char) (best : Option Directive) (d : Directive) : Option Directive :=
  if d.name.isPrefixOf origin && best.all (·.name.length ≤ d.name.length) then some d else best

/-- How many levels a filter shows of an origin. Errors are shown where it says nothing. -/
def levelsOf (filter : String) (origin : Log.Origin) : Nat :=
  match (pieces (parts filter).1).filterMap fun piece => (directive piece).toOption with
  | [] => 1
  | ds => ((ds.foldl (nearer origin.name.toList) none).map (·.levels)).getD 0

/-- Whether a text stands somewhere in another one. -/
def isIn (text : List Char) : List Char → Bool
  | [] => text.isEmpty
  | c :: cs => text.isPrefixOf (c :: cs) || isIn text cs

def passes (filter : String) (e : Log.Entry) : Bool :=
  levelsTo e.level ≤ levelsOf filter e.origin && isIn (parts filter).2 e.text.toList

theorem levelsOf_filter (verbose : Bool) (origin : Log.Origin) :
    levelsOf (Log.filter verbose) origin = if verbose then 4 else 2 := by
  cases verbose <;> cases origin <;> decide +kernel

theorem passes_filter (verbose : Bool) (e : Log.Entry) :
    passes (Log.filter verbose) e = (verbose || e.level = .warn) := by
  have htext : (parts (Log.filter verbose)).2 = [] := by cases verbose <;> decide +kernel
  have hin : isIn [] e.text.toList = true := by cases e.text.toList <;> rfl
  rw [passes, levelsOf_filter, htext, hin]
  cases verbose <;> cases e.level <;> rfl

theorem complaints_filter (verbose : Bool) : complaints (Log.filter verbose) = [] := by
  cases verbose <;> decide +kernel

/-! ## Answers -/

/-- The text of bytes in UTF-8, without the mark that may stand in front. -/
def decode (bs : List UInt8) : String :=
  match bs with
  | 0xEF :: 0xBB :: 0xBF :: bs => String.ofList (Text.ofUtf8Lossy bs)
  | bs => String.ofList (Text.ofUtf8Lossy bs)

end Machine

/-- The platform that this machine is. -/
@[reducible]
def machine : Platform where
  toAscii? := Url.Domain.toAscii?
  decode _ bs := Machine.decode bs
  width := Text.width
  width_nil := rfl
  terminal? := none
  useColors := true
  passes := Machine.passes
  complaints := Machine.complaints
  paint _ _ text := text
  passes_filter := Machine.passes_filter
  complaints_filter := Machine.complaints_filter
  home? := none

end PickupGame
