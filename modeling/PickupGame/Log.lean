import PickupGame.Text.Lines

/-!
# Log

The lines a run reports beside its output: warnings, and details for those who ask for them. A filter
says which of them are shown. It comes from the environment, else from the run, and then warnings are
always shown and details in a verbose run. Lines of other libraries, which a filter from the
environment may let through as well, are left out.
-/

namespace PickupGame.Log

inductive Level
  | debug
  | warn
  deriving DecidableEq, Repr

def Level.name : Level → String
  | .debug => "DEBUG"
  | .warn => "WARN"

/-- The part of the program that reports. -/
inductive Origin
  | program
  | dispatcher
  | client
  | envelope
  | display
  deriving DecidableEq, Repr

def Origin.name : Origin → String
  | .program => "pug_cli"
  | .dispatcher => "pug_client::cli::dispatcher"
  | .client => "pug_client::api::client"
  | .envelope => "pug_client::api::models"
  | .display => "pug_client::display::table"

structure Entry where
  level : Level
  origin : Origin
  text : String
  deriving DecidableEq, Repr

def debug (origin : Origin) (text : String) : Entry :=
  ⟨.debug, origin, text⟩

def warn (origin : Origin) (text : String) : Entry :=
  ⟨.warn, origin, text⟩

/-- The filter of a run: details of the program's own parts with `verbose`, and warnings. -/
def filter (verbose : Bool) : String :=
  if verbose then "pug_client=debug,pug_cli=debug,warn" else "warn"

/-- The parts of a line in front of its text that may be set off by colours. -/
inductive Mark
  | bracket
  | level (level : Level)
  deriving DecidableEq, Repr

/-- What shows entries: which of them a filter lets through, what it says of a filter that it cannot
read, and how a mark is written in a style. Nothing is set off where the lines go to a file. -/
class Logger where
  passes : String → Entry → Bool
  complaints : String → List String
  paint : Option String → Mark → String → String
  passes_filter : ∀ verbose e, passes (filter verbose) e = (verbose || e.level = .warn)
  complaints_filter : ∀ verbose, complaints (filter verbose) = []

/-- How entries are shown. -/
structure Setup where
  filter : String
  style : Option String
  showsOrigin : Bool
  deriving DecidableEq, Repr

/-- The name of a level, filled up to five characters. -/
def levelField (l : Level) : String :=
  l.name ++ String.ofList (List.replicate (5 - l.name.length) ' ')

section

variable [Logger]

def Entry.display (s : Setup) (e : Entry) : String :=
  let level := Logger.paint s.style (.level e.level) (levelField e.level)
  let source := if s.showsOrigin then " " ++ e.origin.name else ""
  let text := "\n    ".intercalate (Text.linesOf e.text)
  Logger.paint s.style .bracket "[" ++ level ++ source ++ Logger.paint s.style .bracket "]" ++ " "
    ++ text

/-- What is said of the filter before anything is reported. -/
def opening (s : Setup) : String :=
  String.join ((Logger.complaints s.filter).map (· ++ "\n"))

/-- Entries, each on its own line. -/
def lines (s : Setup) (entries : List Entry) : String :=
  String.join (entries.map fun e => e.display s ++ "\n")

/-- The lines of the entries that the filter lets through. -/
def display (s : Setup) (entries : List Entry) : String :=
  lines s (entries.filter (Logger.passes s.filter ·))

end

end PickupGame.Log
