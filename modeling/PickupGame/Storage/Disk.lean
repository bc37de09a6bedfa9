import PickupGame.Text.Utf8

/-!
# Disk

A tree of files and directories under absolute paths, without links, limits and permissions. Relative
paths start from a working directory. A path is followed step by step, each step being taken in a
directory that is there, so `a/../b` leads nowhere while there is no `a`. The root always exists.
-/

namespace PickupGame.Storage

inductive Cause
  | notFound
  | permissionDenied
  | alreadyExists
  | notADirectory
  | isADirectory
  | invalidData
  | other (text : String)
  deriving DecidableEq, Repr

def Cause.message : Cause → String
  | .notFound => "No such file or directory (os error 2)"
  | .permissionDenied => "Permission denied (os error 13)"
  | .alreadyExists => "File exists (os error 17)"
  | .notADirectory => "Not a directory (os error 20)"
  | .isADirectory => "Is a directory (os error 21)"
  | .invalidData => "stream did not contain valid UTF-8"
  | .other text => text

namespace Path

/-- A directory and a name in it as one path. -/
def join (directory name : String) : String :=
  if directory = "" then name
  else if directory.toList.getLast? = some '/' then directory ++ name
  else directory ++ "/" ++ name

/-- The reverse of a path without what has no meaning at its end: slashes, and dots behind them. -/
def dropIdle : List Char → List Char
  | '/' :: cs => dropIdle cs
  | '.' :: '/' :: cs => dropIdle cs
  | cs => cs

/-- A path without slashes and dots at its end, but for a root. -/
def trimIdle (cs : List Char) : List Char :=
  let trimmed := (dropIdle cs.reverse).reverse
  if trimmed.isEmpty then cs.take 1 else trimmed

/-- The path of the directory that holds a path. -/
def parent (path : String) : String :=
  let upToSlash := ((trimIdle path.toList).reverse.dropWhile (· ≠ '/')).reverse
  String.ofList (trimIdle upToSlash)

/-- The texts between the slashes of a path. -/
def parts (cs : List Char) : List String :=
  (cs.splitOn '/').map String.ofList

/-- Parts that stay where they are. -/
def isIdle (part : String) : Bool :=
  part = "" || part = "."

/-- Where the steps of a path begin. -/
def start (base : List String) (path : String) : List String :=
  if path.toList.head? = some '/' then [] else base

/-- The steps of a path from its start. -/
def names (path : String) : List String :=
  (parts path.toList).filter (!isIdle ·)

/-- The steps of a path from the root. -/
def resolve (base : List String) (path : String) : List String :=
  start base path ++ names path

/-- Whether a path stands for a directory only. -/
def asksDirectory (path : String) : Bool :=
  (parts path.toList).getLast?.any isIdle

/-- Where a step leads from a directory. -/
def enter (names : List String) (step : String) : List String :=
  if step = ".." then names.dropLast else names ++ [step]

end Path

inductive Node
  | directory
  | file (content : List UInt8)
  deriving DecidableEq, Repr

/-- Every node lies in a directory. -/
def IsRooted (nodes : List (List String × Node)) : Prop :=
  ∀ e ∈ nodes, e.1.dropLast = [] ∨ nodes.lookup e.1.dropLast = some .directory

instance (nodes : List (List String × Node)) : Decidable (IsRooted nodes) :=
  inferInstanceAs (Decidable (∀ e ∈ nodes, _))

structure Disk where
  workingDirectory : List String
  nodes : List (List String × Node)
  rooted : IsRooted nodes := by decide

namespace Disk

/-- A disk with nothing on it, and the root as working directory. -/
def empty : Disk where
  workingDirectory := []
  nodes := []

/-- The node at names from the root, if there is one. -/
def node? (d : Disk) (names : List String) : Option Node :=
  if names.isEmpty then some .directory else d.nodes.lookup names

/-- The disk with a node at names, if it can stand there: in a directory, and with what was in it. -/
def set (d : Disk) (names : List String) (n : Node) : Disk :=
  let nodes := (names, n) :: d.nodes.filter (·.1 ≠ names)
  if h : IsRooted nodes then { d with nodes, rooted := h } else d

/-- The names that steps lead to from others, each step being taken in a directory. -/
def locate (d : Disk) : List String → List String → Except Cause (List String)
  | done, [] => .ok done
  | done, step :: steps =>
    match d.node? done with
    | some .directory => locate d (Path.enter done step) steps
    | some (.file _) => .error .notADirectory
    | none => .error .notFound

/-- The node that a path leads to. -/
def stat (d : Disk) (path : String) : Except Cause Node :=
  if path = "" then .error .notFound
  else match d.locate [] (Path.resolve d.workingDirectory path) with
    | .error e => .error e
    | .ok names =>
      match d.node? names with
      | some .directory => .ok .directory
      | some (.file content) =>
        if Path.asksDirectory path then .error .notADirectory else .ok (.file content)
      | none => .error .notFound

def pathExists (d : Disk) (path : String) : Bool :=
  match d.stat path with
  | .ok _ => true
  | .error _ => false

def read (d : Disk) (path : String) : Except Cause (List UInt8) :=
  match d.stat path with
  | .ok (.file content) => .ok content
  | .ok .directory => .error .isADirectory
  | .error e => .error e

def readText (d : Disk) (path : String) : Except Cause String :=
  match d.read path with
  | .ok content =>
    match Text.ofUtf8? content with
    | some cs => .ok (String.ofList cs)
    | none => .error .invalidData
  | .error e => .error e

/-- Whether steps from the root lead to a directory. -/
def isDirectory (d : Disk) (steps : List String) : Bool :=
  match d.locate [] steps with
  | .ok names => d.node? names = some .directory
  | .error _ => false

/-- Makes a directory where steps from the root lead. -/
def makeDirectory (d : Disk) (steps : List String) : Except Cause Disk :=
  match d.locate [] steps with
  | .error e => .error e
  | .ok names =>
    match d.node? names with
    | some _ => .error .alreadyExists
    | none => .ok (d.set names .directory)

/-- Makes a directory where steps from the root lead, unless there is one. -/
def ensureDirectory (d : Disk) (steps : List String) : Disk × Except Cause Unit :=
  match d.makeDirectory steps with
  | .ok d => (d, .ok ())
  | .error e => (d, if d.isDirectory steps then .ok () else .error e)

/-- Makes the directory where the reverse of `back` leads from `front`. The ones it lies in are made
before it where they are missing, and remain when it cannot be made. -/
def makeDirectories (d : Disk) (front : List String) : List String → Disk × Except Cause Unit
  | [] => (d, .ok ())
  | step :: back =>
    let steps := front ++ (step :: back).reverse
    match d.makeDirectory steps with
    | .error .notFound =>
      match d.makeDirectories front back with
      | (d, .ok ()) => d.ensureDirectory steps
      | (d, .error e) => (d, .error e)
    | _ => d.ensureDirectory steps

/-- Makes a directory with all those it lies in. -/
def createDirectories (d : Disk) (path : String) : Disk × Except Cause Unit :=
  d.makeDirectories (Path.start d.workingDirectory path) (Path.names path).reverse

def write (d : Disk) (path : String) (content : List UInt8) : Except Cause Disk :=
  if path = "" then .error .notFound
  else match d.locate [] (Path.resolve d.workingDirectory path) with
    | .error e => .error e
    | .ok names =>
      if Path.asksDirectory path ∨ d.node? names = some .directory then .error .isADirectory
      else .ok (d.set names (.file content))

end Disk

end PickupGame.Storage
