import PickupGame.Machine
import PickupGame.Program
import PickupGame.Proofs.Settings.Default

/-!
# Profiles that are not found

Only a call to the service needs a profile. It ends for want of one just if a profile is asked for
that is not stored, the built-in one apart; without being asked for one it always finds the default
profile, since that is stored as soon as any profile is.
-/

namespace PickupGame

open Storage (Disk)
open Settings (Config Fault)

/-! ## Settings -/

namespace Settings

theorem Config.profile_eq_error {c : Config} {name : String} {e : Fault} :
    c.profile name = .error e ↔
      e = .profileNotFound name ∧ c.profiles.get? name = none ∧
        ¬ (name = Config.defaultName ∧ c.profiles.isEmpty = true) := by
  unfold profile
  cases hp : c.profiles.get? name with
  | some p => simp
  | none =>
    have hbuiltIn : (decide (name = Config.defaultName) && c.profiles.isEmpty) = true ↔
        name = Config.defaultName ∧ c.profiles.isEmpty = true := by simp
    simp only
    split
    · rename_i h
      simp [hbuiltIn.1 h]
    · rename_i h
      constructor
      · rintro ⟨⟩
        exact ⟨rfl, trivial, mt hbuiltIn.2 h⟩
      · rintro ⟨rfl, -⟩
        rfl

/-- A refused change is never a matter of a profile that is not there. -/
theorem Config.setValue_ne_profileNotFound (c : Config) (name key value other : String) :
    c.setValue name key value ≠ .error (.profileNotFound other) := by
  intro h
  unfold setValue at h
  split at h
  · cases h
  · rename_i e hfield
    cases h
    unfold setField validateUrl validateTimeout at hfield
    grind

/-- Asked for no profile, settings whose default profile is stored always give one. -/
theorem Config.Rooted.profile_resolveName {c : Config} (h : c.Rooted) :
    ∃ p, c.profile (c.resolveName none) = .ok p := by
  unfold resolveName profile
  cases hdefault : c.defaultProfile with
  | some name =>
    obtain ⟨p, hp⟩ := h.stored name hdefault
    exact ⟨p, by simp [hp]⟩
  | none =>
    have hempty : c.profiles.isEmpty = true := by
      rw [← Bool.not_eq_false, ← h.isSome_iff, hdefault]
      simp
    cases hp : c.profiles.get? Config.defaultName with
    | some p => exact ⟨p, by simp [hp]⟩
    | none => exact ⟨.builtIn, by simp [hp, hempty]⟩

end Settings

/-! ## Sessions -/

namespace Session

variable (s : Session) (d : Disk) (reply : Http.Reply)

theorem result_conclude_ne [Display.Screen] (log : List Log.Entry) (o : Api.Client.Outcome) (e : Fault) :
    (s.conclude d log o).result ≠ .error (.config e) := by
  unfold conclude
  split <;> simp

theorem result_call_eq_error [Platform] (c : Api.Call) (e : Fault) :
    ((s.call d c).result reply).result = .error (.config e) ↔
      s.config.profile s.profile = .error e := by
  unfold call access
  cases hprofile : s.config.profile s.profile with
  | error e' => simp [Http.Plan.result]
  | ok p =>
    cases hkey : Api.usableKey? s.apiKey with
    | none => simp [Http.Plan.result]
    | some key => simp [result_conclude_ne]

theorem result_set_ne (key value name : String) :
    (s.set d key value).result ≠ .error (.config (.profileNotFound name)) := by
  unfold set
  cases hset : s.config.setValue s.profile key value with
  | error e =>
    intro h
    cases h
    exact s.config.setValue_ne_profileNotFound _ _ _ _ hset
  | ok config =>
    simp only
    split <;> simp

/-- A command ends for want of a profile just if it is a call and its profile is not found. -/
theorem result_perform_iff [Platform] (command : CommandLine.Command) (name : String) :
    ((s.perform d command).result reply).result = .error (.config (.profileNotFound name)) ↔
      (∃ c, command = .call c) ∧ s.config.profile s.profile = .error (.profileNotFound name) := by
  cases command with
  | call c => simp [perform, result_call_eq_error]
  | showConfig => simp [perform, Http.Plan.result]
  | setConfig key value => simp [perform, Http.Plan.result, result_set_ne]

end Session

/-! ## Runs -/

namespace Program

open CommandLine (Invocation)
open Settings (Reachable)

/-- Settings that came about by changes, saves and reloads have a default profile just if they have
a profile, and it is one of theirs. A run on such settings ends for want of a profile just if it
calls the service and asks for one that is not stored and is not the built-in one in use. -/
theorem profileNotFound_iff [Platform] {s : Settings.State} (h : Reachable s) :
    (s.config.defaultProfile.isSome = true ↔ s.config.profiles.isEmpty = false) ∧
      (∀ name, s.config.defaultProfile = some name → ∃ p, s.config.profiles.get? name = some p) ∧
      ∀ (i : Invocation) (file : Option String) (d : Disk) (reply : Http.Reply) (name : String),
        (((start i file s.config).perform d i.command).result reply).result =
            .error (.config (.profileNotFound name)) ↔
          (∃ c, i.command = .call c) ∧ i.options.profile = some name ∧
            s.config.profiles.get? name = none ∧
            ¬ (name = "default" ∧ s.config.profiles.isEmpty = true) := by
  have hrooted := h.rooted.config
  refine ⟨hrooted.isSome_iff, hrooted.stored, fun i file d reply name => ?_⟩
  rw [Session.result_perform_iff]
  refine and_congr_right fun _ => ?_
  cases hprofile : i.options.profile with
  | none =>
    obtain ⟨p, hp⟩ := hrooted.profile_resolveName
    simp [start, hprofile, hp]
  | some requested =>
    have hname : s.config.resolveName (some requested) = requested := rfl
    rw [start, hprofile, hname, Settings.Config.profile_eq_error, Fault.profileNotFound.injEq,
      Option.some.injEq]
    constructor
    · rintro ⟨rfl, hnone, hbuiltIn⟩
      exact ⟨rfl, hnone, hbuiltIn⟩
    · rintro ⟨rfl, hnone, hbuiltIn⟩
      exact ⟨rfl, hnone, hbuiltIn⟩

/-- A listing of the settings needs no profile, so it does not end for want of one. -/
theorem show_without_profile :
    letI := machine
    let i : Invocation := ⟨⟨false, some "lan", none, none, none, false⟩, .showConfig⟩
    let s : Settings.State := ⟨.empty, Disk.empty, []⟩
    Reachable s ∧ s.config.profiles.get? "lan" = none ∧
      ¬ ("lan" = "default" ∧ s.config.profiles.isEmpty = true) ∧
      (((start i none s.config).perform s.disk i.command).result .late).result = .ok () :=
  ⟨.start _, rfl, by decide, rfl⟩

/-- Settings that were changed, saved and read again, and a call that asks for another profile. -/
theorem profileNotFound_iff_other :
    letI := machine
    let i : Invocation := ⟨⟨false, some "eu", none, some "k", none, false⟩, .call .listPugs⟩
    let c := Config.empty.attempt ⟨"lan", "timeout_seconds", "5"⟩
    let path := Storage.Path.join "/home/a" Settings.fileName
    ∃ d, Reachable ⟨c, d, [path]⟩ ∧
      (((start i (some path) c).perform d i.command).result .late).result =
        .error (.config (.profileNotFound "eu")) := by
  let := machine
  intro i c path
  have hsave : (c.save Disk.empty path).2 = .ok () :=
    Config.save_of_isWritable (by decide +kernel) Config.isWritable_home
  have hload := (Config.load_save hsave).2
  generalize hsaved : c.save Disk.empty path = saved at hsave hload
  obtain ⟨d, result⟩ := saved
  cases hsave
  have hchanged : Reachable ⟨c, Disk.empty, []⟩ := .step (.start Disk.empty) (.change _ _)
  have hkept : Reachable ⟨c, d, [path]⟩ := .step hchanged (.save ⟨rfl, fun _ => rfl⟩ hsaved)
  have hread : Reachable ⟨c, d, [path]⟩ := .step hkept (.reload (.inl List.mem_cons_self) hload)
  have hnone : c.profiles.get? "eu" = none := by decide +kernel
  refine ⟨d, hread, ((profileNotFound_iff hread).2.2 i (some path) d .late "eu").2 ?_⟩
  exact ⟨⟨_, rfl⟩, rfl, hnone, fun h => absurd h.1 (by decide)⟩

end Program

end PickupGame
