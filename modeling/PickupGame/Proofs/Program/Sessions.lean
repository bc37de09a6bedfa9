import PickupGame.Machine
import PickupGame.Proofs.Program.Runs

/-!
# Commands one after another in a session

A session that is given commands one after another changes by its settings alone, and these only by
the changes that were accepted. A refused change leaves no trace. An accepted one is kept also when
it cannot be saved: the files stay as they were then, but the next change that is saved takes the
kept one along.
-/

namespace PickupGame.Session

open Storage (Disk)
open Settings (Change Config)

/-- A command with the reply that it would get. -/
structure Step where
  command : CommandLine.Command
  reply : Http.Reply

/-- The change that a command tries to make in a profile. -/
def Step.change? (t : Step) (profile : String) : Option Change :=
  match t.command with
  | .setConfig key value => some ⟨profile, key, value⟩
  | _ => none

section

variable [Platform]

def report (s : Session) (d : Disk) (t : Step) : Report :=
  (s.perform d t.command).result t.reply

/-- The session and the disk behind commands given one after another. -/
def after (s : Session) (d : Disk) : List Step → Session × Disk
  | [] => (s, d)
  | t :: ts => (s.report d t).session.after (s.report d t).disk ts

end

/-- The changes that commands try to make. -/
def changes (s : Session) (ts : List Step) : List Change :=
  ts.filterMap (·.change? s.profile)

/-! ## One command -/

section

variable (s : Session) (d : Disk)

theorem session_conclude [Display.Screen] (log : List Log.Entry) (o : Api.Client.Outcome) :
    (s.conclude d log o).session = s := by
  unfold conclude
  split <;> rfl

theorem session_call [Platform] (c : Api.Call) (reply : Http.Reply) :
    ((s.call d c).result reply).session = s := by
  unfold call
  split
  · rfl
  · rw [Http.Plan.result_map, session_conclude]

/-- The settings of the session change as by a change by itself, whether they can be saved or not. -/
theorem session_set (key value : String) :
    (s.set d key value).session = { s with config := s.config.attempt ⟨s.profile, key, value⟩ } := by
  unfold set Config.attempt
  cases s.config.setValue s.profile key value with
  | error e => rfl
  | ok c =>
    cases h : { s with config := c }.save d with
    | mk d' result => cases result <;> simp [h]

theorem session_report [Platform] (t : Step) :
    (s.report d t).session = { s with config := s.config.attemptAll (s.changes [t]) } := by
  obtain ⟨command, reply⟩ := t
  cases command with
  | call c => exact s.session_call d c reply
  | showConfig => rfl
  | setConfig key value => exact s.session_set d key value

theorem save_eq {s : Session} {path : String} (hfile : s.file = some path) (d : Disk) :
    s.save d = s.config.save d path := by
  rw [save, hfile]

/-- How a change can fail: it is refused, or it is accepted and its settings cannot be saved. -/
theorem set_eq_error {key value : String} {f : Failure}
    (h : (s.set d key value).result = .error f) :
    (∃ e, f = .config e ∧ s.config.setValue s.profile key value = .error e ∧
        (s.set d key value).disk = d) ∨
      ∃ e c, f = .storage e ∧ s.config.setValue s.profile key value = .ok c ∧
        { s with config := c }.save d = ((s.set d key value).disk, .error e) := by
  rw [set] at h ⊢
  cases hset : s.config.setValue s.profile key value with
  | error e =>
    rw [hset] at h
    exact .inl ⟨e, (Except.error.inj h).symm, rfl, rfl⟩
  | ok c =>
    simp only [hset] at h ⊢
    cases hsave : { s with config := c }.save d with
    | mk d' result =>
      rw [hsave] at h
      cases result with
      | ok u => cases h
      | error e => exact .inr ⟨e, c, (Except.error.inj h).symm, rfl, hsave⟩

/-- A change that succeeds is in the file afterwards, with all else that the session holds. -/
theorem load_of_set_eq_ok {key value : String} (h : (s.set d key value).result = .ok ()) :
    ∃ path, s.file = some path ∧
      Config.load (s.set d key value).disk path =
        .ok (s.config.attempt ⟨s.profile, key, value⟩) := by
  obtain ⟨e, -, hresult⟩ | ⟨c, hset, hdisk, hresult⟩ := s.set_cases d key value
  · rw [hresult] at h
    cases h
  · have hsave := hresult.1 h
    cases hfile : s.file with
    | none =>
      rw [save, hfile] at hsave
      cases hsave
    | some path =>
      rw [save_eq (s := { s with config := c }) hfile] at hsave hdisk
      refine ⟨path, rfl, ?_⟩
      rw [hdisk, Config.attempt, hset]
      exact (Config.load_save hsave).2

/-- A change that cannot be saved leaves the files as they were. -/
theorem kept_of_save_eq_error {s : Session} {d d' : Disk} {e : Settings.StorageFault}
    (h : s.save d = (d', .error e)) {path : String} (hfile : s.file = some path) :
    d.Kept d' path := by
  rw [save_eq hfile] at h
  have hkept : d.Kept (s.config.save d path).1 path := Config.kept_save (by simp [h])
  rwa [h] at hkept

end

/-! ## Many commands -/

/-- Of a session nothing but the settings changes, and these by the accepted changes. -/
theorem session_after [Platform] (s : Session) (d : Disk) (ts : List Step) :
    (s.after d ts).1 = { s with config := s.config.attemptAll (s.changes ts) } := by
  induction ts generalizing s d with
  | nil => rfl
  | cons t ts ih =>
    have hchanges : s.changes (t :: ts) = s.changes [t] ++ s.changes ts := by
      rw [changes, changes, changes, ← List.filterMap_append]
      rfl
    rw [after, ih, session_report, hchanges, Config.attemptAll_append]
    rfl

/-- What is known of a change that a session makes, `made` being the settings with that change and
with all that were accepted before it. -/
structure Attempted (s : Session) (d : Disk) (key value : String) (made : Config) (r : Report) :
    Prop where
  session : r.session = { s with config := made }
  /-- A refused change leaves no trace. -/
  refused : ∀ e, r.result = .error (.config e) → made = s.config ∧ r.disk = d
  /-- An accepted change is kept when it cannot be saved, and the files are as they were. -/
  unsaved : ∀ e, r.result = .error (.storage e) →
    s.config.setValue s.profile key value = .ok made ∧
      ∀ path, s.file = some path → d.Kept r.disk path
  /-- So a change that fails leaves the settings as they were just if it is refused or sets what
  was set already. -/
  unchanged_iff : ∀ f, r.result = .error f →
    (made = s.config ↔
      (∃ e, s.config.setValue s.profile key value = .error e) ∨
        s.config.setValue s.profile key value = .ok s.config)
  /-- A change that is saved takes along those that were kept. -/
  saved : r.result = .ok () → ∃ path, s.file = some path ∧ Config.load r.disk path = .ok made

/-- Whatever commands came before, a change that fails is gone if it was refused, and else it is kept
in the session and saved with the next change that can be. -/
theorem attempted_set [Platform] (s : Session) (d : Disk) (ts : List Step) (key value : String) :
    Attempted (s.after d ts).1 (s.after d ts).2 key value
      (s.config.attemptAll (s.changes (ts ++ [⟨.setConfig key value, .late⟩])))
      ((s.after d ts).1.set (s.after d ts).2 key value) := by
  have hmade : s.config.attemptAll (s.changes (ts ++ [⟨.setConfig key value, .late⟩])) =
      (s.after d ts).1.config.attempt ⟨(s.after d ts).1.profile, key, value⟩ := by
    rw [session_after, changes, List.filterMap_append, Config.attemptAll_append]
    rfl
  rw [hmade]
  generalize (s.after d ts).1 = s'
  generalize (s.after d ts).2 = d'
  constructor
  case session => exact s'.session_set d' key value
  case refused =>
    intro e h
    obtain ⟨e', -, hset, hdisk⟩ | ⟨e', c, hf, -, -⟩ := s'.set_eq_error d' h
    · exact ⟨by rw [Config.attempt, hset], hdisk⟩
    · cases hf
  case unsaved =>
    intro e h
    obtain ⟨e', hf, -, -⟩ | ⟨e', c, -, hset, hsave⟩ := s'.set_eq_error d' h
    · cases hf
    · refine ⟨by rw [Config.attempt, hset], fun path hfile => ?_⟩
      exact kept_of_save_eq_error hsave hfile
  case unchanged_iff =>
    intro f h
    rw [Config.attempt]
    cases s'.config.setValue s'.profile key value with
    | error e => simp
    | ok c => simp
  case saved => exact s'.load_of_set_eq_ok d'

/-- A timeout that is accepted and cannot be written is kept, and then an address that could be
saved by itself cannot be saved either. -/
theorem attempted_set_beyond :
    letI := machine
    let s : Session := ⟨.empty, some "/home/a/config.toml", "default", none, none, false⟩
    let d := Disk.empty
    let beyond : Step := ⟨.setConfig "timeout_seconds" "9223372036854775808", .late⟩
    let fault : Failure := .storage (.saveFailed "out-of-range value for u64 type")
    (s.report d beyond).result = .error fault ∧ (s.report d beyond).session.config ≠ s.config ∧
      (s.set d "api_url" "http://10.0.0.5").result = .ok () ∧
      ((s.after d [beyond]).1.set (s.after d [beyond]).2 "api_url" "http://10.0.0.5").result =
        .error fault := by
  let := machine
  intro s d beyond fault
  have hresult : (s.report d beyond).result = .error fault := by decide +kernel
  have hkept := attempted_set s d [] "timeout_seconds" "9223372036854775808"
  refine ⟨hresult, fun hsame => ?_, by decide +kernel, by decide +kernel⟩
  have hmade := (congrArg Session.config hkept.session).symm.trans hsame
  have hstored : (s.config.attemptAll (s.changes [beyond])).profiles.isEmpty = false := by
    decide +kernel
  exact Bool.noConfusion (hstored.symm.trans (congrArg (·.profiles.isEmpty) hmade))

end PickupGame.Session
