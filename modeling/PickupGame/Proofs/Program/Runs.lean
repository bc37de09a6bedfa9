import PickupGame.Machine
import PickupGame.Program
import PickupGame.Proofs.Settings.Changes
import PickupGame.Proofs.Settings.File

/-!
# Runs one after another

The only run that touches the disk is one that changes a setting. If it fails it leaves every file as
it was, and else the file of settings holds what it held before but for that setting. This holds on
any platform.
-/

namespace PickupGame

open Storage (Disk Path.resolve Path.asksDirectory)
open Settings (Config StorageFault)

/-! ## Sessions -/

namespace Session

theorem disk_perform [Platform] (s : Session) (d : Disk) (reply : Http.Reply) {command : CommandLine.Command}
    (h : ∀ key value, command ≠ .setConfig key value) :
    ((s.perform d command).result reply).disk = d := by
  cases command with
  | call c =>
    rw [perform, call]
    split
    · rfl
    · rw [Http.Plan.result_map, conclude]
      split <;> rfl
  | showConfig => rfl
  | setConfig key value => exact absurd rfl (h key value)

theorem set_cases (s : Session) (d : Disk) (key value : String) :
    (∃ e, (s.set d key value).disk = d ∧ (s.set d key value).result = .error e) ∨
      ∃ c, s.config.setValue s.profile key value = .ok c ∧
        (s.set d key value).disk = ({ s with config := c }.save d).1 ∧
        ((s.set d key value).result = .ok () ↔ ({ s with config := c }.save d).2 = .ok ()) := by
  unfold set
  cases hset : s.config.setValue s.profile key value with
  | error e => exact .inl ⟨.config e, rfl, rfl⟩
  | ok c =>
    refine .inr ⟨c, rfl, ?_⟩
    simp only
    cases hsave : { s with config := c }.save d with
    | mk d' result =>
      cases result with
      | error e => simp
      | ok u => simp

end Session

namespace Program

theorem disk_refuse (d : Disk) (fault : CommandLine.Fault) : (refuse d fault).disk = d := by
  unfold refuse
  split <;> rfl

@[simp] theorem disk_finish [Log.Logger] (setup : Log.Setup) (log : List Log.Entry) (r : Session.Report) :
    (finish setup log r).disk = r.disk := by
  unfold finish
  simp only
  split <;> rfl

theorem exitCode_finish [Log.Logger] (setup : Log.Setup) (log : List Log.Entry)
    (r : Session.Report) :
    (finish setup log r).exitCode = 0 ↔ r.result = .ok () := by
  unfold finish
  simp only
  cases r.result with
  | ok u => simp
  | error f => simp

theorem load_eq_ok {d : Disk} {file : Option String} {c : Config} (h : load d file = .ok c) :
    ∃ path, file = some path ∧ Config.load d path = .ok c := by
  cases file with
  | none => cases h
  | some path => exact ⟨path, rfl, h⟩

/-- A run with the reply that it would get. -/
structure Run where
  env : CommandLine.Environment
  args : List String
  reply : Http.Reply

namespace Run

variable [Platform]

def outcome (r : Run) (d : Disk) : Outcome :=
  (run r.env d r.args).result r.reply

def file? (r : Run) : Option String :=
  Program.file? r.env r.args

/-- The profile asked for, the key and the value of a run that is to change a setting. -/
def change? (r : Run) : Option (Option String × String × String) :=
  match CommandLine.parse r.env r.args with
  | .ok ⟨options, .setConfig key value⟩ => some (options.profile, key, value)
  | _ => none

/-- A run leaves the disk alone, or it changes a setting of what its file holds and saves that. -/
theorem outcome_cases (r : Run) (d : Disk) :
    ((r.outcome d).disk = d ∧ (r.change? = none ∨ (r.outcome d).exitCode ≠ 0)) ∨
      ∃ requested key value path c c',
        r.change? = some (requested, key, value) ∧ r.file? = some path ∧
        Config.load d path = .ok c ∧ c.setValue (c.resolveName requested) key value = .ok c' ∧
        (r.outcome d).disk = (c'.save d path).1 ∧
        ((r.outcome d).exitCode = 0 ↔ (c'.save d path).2 = .ok ()) := by
  unfold outcome change? file? Program.file? run
  cases hparse : CommandLine.parse r.env r.args with
  | error fault => exact .inl ⟨disk_refuse d fault, .inl rfl⟩
  -- Nothing is written before the settings have been loaded.
  | ok i =>
    obtain ⟨options, command⟩ := i
    simp only [runInvocation]
    cases hload : load d (configFile? r.env options.configDir) with
    | error e => exact .inl ⟨rfl, .inr (show (1 : UInt8) ≠ 0 by decide)⟩
    | ok c =>
      obtain ⟨path, hfile, hload⟩ := load_eq_ok hload
      simp only [Http.Plan.result_map, disk_finish, ne_eq, exitCode_finish, hfile]
      cases command with
      | call call => exact .inl ⟨Session.disk_perform _ d r.reply (by simp), .inl rfl⟩
      | showConfig => exact .inl ⟨rfl, .inl rfl⟩
      | setConfig key value =>
        rcases Session.set_cases (start ⟨options, .setConfig key value⟩ (some path) c) d key value with
          ⟨e, hdisk, hresult⟩ | ⟨c', hset, hdisk, hresult⟩
        · refine .inl ⟨hdisk, .inr ?_⟩
          rw [Session.perform, Http.Plan.result, hresult]
          simp
        · exact .inr ⟨options.profile, key, value, path, c, c', rfl, rfl, hload, hset, hdisk,
            hresult⟩

/-- The file that a run looks into has a name in a directory. -/
theorem exists_join_of_file? {r : Run} {path : String} (h : r.file? = some path) :
    ∃ directory, path = Storage.Path.join directory Settings.fileName := by
  unfold file? Program.file? at h
  split at h
  · unfold configFile? at h
    split at h
    · cases h
      exact ⟨_, rfl⟩
    · rw [Option.map_eq_some_iff] at h
      obtain ⟨home, -, rfl⟩ := h
      exact ⟨_, rfl⟩
  · cases h

theorem workingDirectory_outcome (r : Run) (d : Disk) :
    (r.outcome d).disk.workingDirectory = d.workingDirectory := by
  rcases r.outcome_cases d with ⟨hdisk, -⟩ | ⟨_, _, _, path, c, c', -, -, -, -, hdisk, -⟩
  · rw [hdisk]
  · rw [hdisk]
    exact c'.workingDirectory_save d path

/-- A run works on a file if the one it looks into is found by the same steps. -/
def WorksOn (r : Run) (base : List String) (path : String) : Prop :=
  ∀ p, r.file? = some p →
    Path.resolve base p = Path.resolve base path ∧ Path.asksDirectory path = false

theorem WorksOn.stat_eq {r : Run} {d : Disk} {path p : String}
    (h : r.WorksOn d.workingDirectory path) (hp : r.file? = some p) : d.stat p = d.stat path := by
  obtain ⟨hsteps, hasks⟩ := h p hp
  obtain ⟨directory, rfl⟩ := exists_join_of_file? hp
  exact Disk.stat_congr hsteps (Storage.Path.asksDirectory_join Config.isName_fileName _) hasks

theorem kept_outcome {r : Run} {d : Disk} {path : String} (hfile : r.WorksOn d.workingDirectory path)
    (h : r.change? = none ∨ (r.outcome d).exitCode ≠ 0) : d.Kept (r.outcome d).disk path := by
  rcases r.outcome_cases d with ⟨hdisk, -⟩ | ⟨_, _, _, p, c, c', hchange, hp, -, -, hdisk, hexit⟩
  · rw [hdisk]
    exact .refl d path
  · rcases h with h | h
    · rw [hchange] at h
      cases h
    · have hkept := Config.kept_save (mt hexit.2 h)
      have hworks : r.WorksOn (c'.save d p).1.workingDirectory path := by
        rwa [c'.workingDirectory_save]
      rw [hdisk]
      exact hkept.congr (hfile p hp).1 (hfile.stat_eq hp) (hworks.stat_eq hp)

theorem exists_load_outcome {r : Run} {d : Disk} {path : String}
    (hfile : r.WorksOn d.workingDirectory path) {requested : Option String} {key value : String}
    (hchange : r.change? = some (requested, key, value)) (hexit : (r.outcome d).exitCode = 0) :
    ∃ c c', Config.load d path = .ok c ∧
      c.setValue (c.resolveName requested) key value = .ok c' ∧
      c.ChangedOnly c' (c.resolveName requested) key ∧
      Config.load (r.outcome d).disk path = .ok c' := by
  rcases r.outcome_cases d with
    ⟨-, h⟩ | ⟨_, _, _, p, c, c', hchange', hp, hload, hset, hdisk, hexit'⟩
  · rcases h with h | h
    · rw [hchange] at h
      cases h
    · exact absurd hexit h
  · rw [hchange] at hchange'
    cases hchange'
    have hworks : r.WorksOn (c'.save d p).1.workingDirectory path := by
      rwa [c'.workingDirectory_save]
    have hload := Config.load_congr (hfile.stat_eq hp).symm hload
    refine ⟨c, c', hload, hset, Config.changedOnly_setValue hset, ?_⟩
    rw [hdisk]
    exact Config.load_congr (hworks.stat_eq hp).symm (Config.load_save (hexit'.1 hexit)).2

end Run

/-! ## Histories -/

section

variable [Platform]

/-- The disk after runs one after another. -/
def after (d : Disk) (rs : List Run) : Disk :=
  rs.foldl (fun d r => (r.outcome d).disk) d

theorem workingDirectory_after (d : Disk) (rs : List Run) :
    (after d rs).workingDirectory = d.workingDirectory := by
  induction rs generalizing d with
  | nil => rfl
  | cons r rs ih => exact (ih _).trans (r.workingDirectory_outcome d)

/-- Over a history of runs that work on one file, each run that changes no setting or fails leaves
this and every other file as it was, and after each change of a setting the file holds the settings
changed just so. -/
theorem file_after {d : Disk} {path : String} {rs : List Run}
    (hfile : ∀ r ∈ rs, r.WorksOn d.workingDirectory path) {front back : List Run} {r : Run}
    (hrs : rs = front ++ r :: back) :
    (r.change? = none ∨ (r.outcome (after d front)).exitCode ≠ 0 →
        (after d front).Kept (r.outcome (after d front)).disk path) ∧
      ∀ requested key value, r.change? = some (requested, key, value) →
        (r.outcome (after d front)).exitCode = 0 →
        ∃ c c', Config.load (after d front) path = .ok c ∧
          c.setValue (c.resolveName requested) key value = .ok c' ∧
          c.ChangedOnly c' (c.resolveName requested) key ∧
          Config.load (r.outcome (after d front)).disk path = .ok c' := by
  have hworks : r.WorksOn (after d front).workingDirectory path := by
    rw [workingDirectory_after]
    exact hfile r (by rw [hrs]; simp)
  constructor
  · exact Run.kept_outcome hworks
  · intro requested key value
    exact Run.exists_load_outcome hworks

end

/-- A change that is refused behind one that is made. -/
theorem file_after_refused :
    letI := machine
    let env : CommandLine.Environment := ⟨[("XDG_CONFIG_HOME", "/etc")]⟩
    let made : Run := ⟨env, ["config", "set", "timeout_seconds", "5"], .late⟩
    let refused : Run := ⟨env, ["config", "set", "color", "red"], .late⟩
    let d := Disk.empty
    let path := "/etc/pug-client/config.toml"
    (∃ c c', Config.load d path = .ok c ∧
        c.setValue (c.resolveName none) "timeout_seconds" "5" = .ok c' ∧
        c.ChangedOnly c' (c.resolveName none) "timeout_seconds" ∧
        Config.load (made.outcome d).disk path = .ok c') ∧
      (refused.outcome (after d [made])).disk.at? path = (after d [made]).at? path := by
  let := machine
  intro env made refused d path
  have hmade : made.file? = some path := by decide +kernel
  have hrefused : refused.file? = some path := by decide +kernel
  have hasks : Path.asksDirectory path = false := by decide +kernel
  have hworks : ∀ r ∈ [made, refused], r.WorksOn d.workingDirectory path := by
    intro r hr p hp
    simp only [List.mem_cons, List.not_mem_nil, or_false] at hr
    rcases hr with rfl | rfl
    · rw [hmade] at hp
      cases hp
      exact ⟨rfl, hasks⟩
    · rw [hrefused] at hp
      cases hp
      exact ⟨rfl, hasks⟩
  constructor
  · have hchange : made.change? = some (none, "timeout_seconds", "5") := by decide +kernel
    have hexit : (made.outcome d).exitCode = 0 := by decide +kernel
    have hsplit : [made, refused] = [] ++ made :: [refused] := rfl
    exact (file_after hworks hsplit).2 none "timeout_seconds" "5" hchange hexit
  · have hexit : (refused.outcome (after d [made])).exitCode ≠ 0 := by decide +kernel
    have hsplit : [made, refused] = [made] ++ refused :: [] := rfl
    have hplain : ".." ∉ Path.resolve (after d [made]).workingDirectory path := by decide +kernel
    exact ((file_after hworks hsplit).1 (.inr hexit)).same fun hmem => absurd hmem hplain

end Program

end PickupGame
