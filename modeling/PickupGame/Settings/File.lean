import PickupGame.Settings.Config
import PickupGame.Storage.Disk
import PickupGame.Toml.Writer

/-!
# The file of settings

Settings as a TOML document: the default profile first, then a table per profile. What the document
holds besides is ignored. A timeout that does not fit a TOML integer cannot be written.
-/

namespace PickupGame.Settings

open PickupGame.Storage
open PickupGame.Toml (Entries)

inductive StorageFault
  | file (path : String) (cause : Cause)
  | saveFailed (reason : String)
  | parseFailed (reason : String)
  | noDirectory
  deriving DecidableEq, Repr

def StorageFault.message : StorageFault → String
  | .file path cause => s!"File I/O error at {path}: {cause.message}"
  | .saveFailed reason => s!"Configuration save failed: {reason}"
  | .parseFailed reason => s!"Configuration parse error: {reason}"
  | .noDirectory => "Configuration directory not found"

/-! ## Documents -/

def timeoutOfToml? : Toml.Value → Option UInt64
  | .integer n => if 0 ≤ n then some (UInt64.ofNat n.toNat) else none
  | _ => none

/-- A profile is a table, or an array of its two fields in order. -/
def Profile.ofToml? : Toml.Value → Option Profile
  | .table _ entries =>
    match Entries.get? entries "api_url", Entries.get? entries "timeout_seconds" with
    | some (.string url), none => some ⟨url, none⟩
    | some (.string url), some v => (timeoutOfToml? v).map fun n => ⟨url, some n⟩
    | _, _ => none
  | .array (.string url :: v :: _) => (timeoutOfToml? v).map fun n => ⟨url, some n⟩
  | _ => none

def Profiles.addToml? : Profiles → Entries → Option Profiles
  | ps, [] => some ps
  | ps, (name, v) :: entries =>
    match Profile.ofToml? v with
    | some p => addToml? (ps.set name p) entries
    | none => none

def Profiles.ofToml? : Option Toml.Value → Option Profiles
  | none => some .empty
  | some (.table _ entries) => Profiles.empty.addToml? entries
  | some _ => none

def Config.ofToml? (entries : Entries) : Option Config :=
  match Entries.get? entries "default_profile", Profiles.ofToml? (Entries.get? entries "profiles") with
  | none, some ps => some ⟨none, ps⟩
  | some (.string name), some ps => some ⟨some name, ps⟩
  | _, _ => none

def Config.ofText? (text : String) : Option Config :=
  (Toml.parse? text).bind Config.ofToml?

def Profile.lines (p : Profile) : List Char :=
  Toml.entryLine "api_url" (Toml.stringText p.apiUrl)
    ++ (match p.timeout with
        | some n => Toml.entryLine "timeout_seconds" (Numeral.digits n.toNat)
        | none => [])

/-- The tables of a document with a blank line between them. -/
def blocks : List (List Char) → List Char
  | [] => []
  | [b] => b
  | b :: bs => b ++ '\n' :: blocks bs

/-- The parts of a document that stand apart from each other. -/
def Config.blocks (c : Config) : List (List Char) :=
  (match c.defaultProfile with
    | some name => [Toml.entryLine "default_profile" (Toml.stringText name)]
    | none => [])
    ++ (if c.profiles.isEmpty then [Toml.headerLine ["profiles"]]
        else c.profiles.entries.map fun e => Toml.headerLine ["profiles", e.1] ++ e.2.lines)

/-- Whether every timeout fits a TOML integer. -/
def Config.isWritable (c : Config) : Bool :=
  c.profiles.entries.all fun e => e.2.timeout.all fun n => n.toNat ≤ Numeral.maxI64

def Config.toText (c : Config) : String :=
  String.ofList (Settings.blocks c.blocks)

/-! ## Files -/

/-- The name of the file in its directory. -/
def fileName : String := "config.toml"

/-- The file in the user's directory for settings. -/
def defaultPath (configHome : String) : String :=
  Path.join (Path.join configHome "pug-client") fileName

/-- Reads settings. A file that is not there holds none. -/
def Config.load (d : Disk) (path : String) : Except StorageFault Config :=
  if d.pathExists path then
    match d.readText path with
    | .error cause => .error (.file path cause)
    | .ok text =>
      match Config.ofText? text with
      | some c => .ok c
      | none => .error (.parseFailed "invalid document")
  else .ok .empty

/-- Writes settings, with the directories that the file lies in. The directories are made first, so
they remain when the settings cannot be written. -/
def Config.save (c : Config) (d : Disk) (path : String) : Disk × Except StorageFault Unit :=
  let parent := Path.parent path
  match d.createDirectories parent with
  | (d, .error cause) => (d, .error (.file parent cause))
  | (d, .ok ()) =>
    if c.isWritable then
      match d.write path (Text.utf8 c.toText.toList) with
      | .ok d => (d, .ok ())
      | .error cause => (d, .error (.file path cause))
    else (d, .error (.saveFailed "out-of-range value for u64 type"))

end PickupGame.Settings
