import PickupGame.CommandLine.Help
import PickupGame.Session

/-!
# Program

A run of the program, from arguments and environment to exit code and texts. The settings are read
before anything else is done, and a run without settings that can be read ends there.
-/

namespace PickupGame.Program

open Storage (Disk)
open CommandLine (Environment Invocation)
open Settings (Config StorageFault)

structure Outcome where
  exitCode : UInt8
  output : String
  errors : String
  disk : Disk

/-- The variables of the environment that are looked at. -/
def variableNames : List String :=
  ["XDG_CONFIG_HOME", "HOME", "RUST_LOG", "RUST_LOG_STYLE"]
    ++ CommandLine.Opt.general.filterMap (·.environmentName?)

/-- The home directory: the one that a variable holds, else the one on record. -/
def home? [Account] (env : Environment) : Option String :=
  ((env.bindings.lookup "HOME").filter (· ≠ "")).or Account.home?

/-- The directory for settings: a variable that holds an absolute path, or one in the home
directory. -/
def configHome? [Account] (env : Environment) : Option String :=
  match (env.bindings.lookup "XDG_CONFIG_HOME").filter (·.toList.head? = some '/') with
  | some path => some path
  | none => (home? env).map (Storage.Path.join · ".config")

/-- The file of settings: in the directory that was asked for, or in that for settings. -/
def configFile? [Account] (env : Environment) (configDir : Option String) : Option String :=
  match configDir with
  | some directory => some (Storage.Path.join directory Settings.fileName)
  | none => (configHome? env).map Settings.defaultPath

def load (d : Disk) : Option String → Except StorageFault Config
  | some path => Config.load d path
  | none => .error .noDirectory

def start (i : Invocation) (file : Option String) (config : Config) : Session where
  config := config
  file := file
  profile := config.resolveName i.options.profile
  apiKey := i.options.apiKey
  url := i.options.url
  json := i.options.json

def startLog (i : Invocation) (s : Session) : List Log.Entry :=
  Log.debug .program s!"Using profile: {s.profile}"
    :: (i.options.configDir.map fun d => Log.debug .program s!"Using config directory: {d}").toList

/-- Lines, each with the line break that ends it. -/
def ended (lines : List String) : String :=
  String.join (lines.map (· ++ "\n"))

/-- How a run shows what it reports. The environment comes before the run. -/
def logSetup (env : Environment) (verbose : Bool) : Log.Setup where
  filter := (env.bindings.lookup "RUST_LOG").getD (Log.filter verbose)
  style := env.bindings.lookup "RUST_LOG_STYLE"
  showsOrigin := verbose

/-- The end of a run; `log` is what was reported before its command. -/
def finish [Log.Logger] (setup : Log.Setup) (log : List Log.Entry) (r : Session.Report) : Outcome :=
  let logged := Log.opening setup ++ Log.display setup (log ++ r.log)
  match r.result with
  | .ok () => ⟨0, r.output, logged, r.disk⟩
  | .error f => ⟨1, r.output, logged ++ ended f.report, r.disk⟩

def withoutSettings [Log.Logger] (setup : Log.Setup) (d : Disk) (e : StorageFault) : Outcome :=
  ⟨1, "", Log.opening setup ++ ended [s!"Error loading config: {e.message}"], d⟩

/-- A run whose changes to its file cannot be kept. -/
def withStorageFault (d : Disk) (e : StorageFault) : Outcome :=
  ⟨1, "", ended (Failure.storage e).report, d⟩

def runInvocation [Platform] (env : Environment) (d : Disk) (i : Invocation) : Http.Plan Outcome :=
  let setup := logSetup env i.options.verbose
  let file := configFile? env i.options.configDir
  match load d file with
  | .error e => .done (withoutSettings setup d e)
  | .ok config =>
    let s := start i file config
    (s.perform d i.command).map (finish setup (startLog i s))

/-- The file that a run looks into, if it comes to that. -/
def file? [Account] (env : Environment) (args : List String) : Option String :=
  match CommandLine.parse env args with
  | .ok i => configFile? env i.options.configDir
  | .error _ => none

/-- A run whose arguments are no command. -/
def refuse (d : Disk) (fault : CommandLine.Fault) : Outcome :=
  match fault with
  | .helpRequested => ⟨0, ended CommandLine.helpLines, "", d⟩
  | .versionRequested => ⟨0, ended [CommandLine.versionLine], "", d⟩
  | _ => ⟨2, "", ended fault.message?.toList, d⟩

def run [Platform] (env : Environment) (d : Disk) (args : List String) : Http.Plan Outcome :=
  match CommandLine.parse env args with
  | .ok i => runInvocation env d i
  | .error fault => .done (refuse d fault)

end PickupGame.Program
