import PickupGame.Proofs.Program.Profiles

/-!
# How a run with a call ends

A call is refused before anything is sent, or it is one exchange with the service. Either way the run
reports details, which only a verbose run shows, and then warnings or the failure that it ends in.
-/

namespace PickupGame

/-! ## Logs -/

namespace Log

/-- Entries that are shown to those who ask for them. -/
def AreDetails (es : List Entry) : Prop :=
  ∀ e ∈ es, e.level = .debug

def AreWarnings (es : List Entry) : Prop :=
  ∀ e ∈ es, e.level = .warn

theorem AreDetails.append {es es' : List Entry} (h : AreDetails es) (h' : AreDetails es') :
    AreDetails (es ++ es') := by
  intro e he
  rcases List.mem_append.1 he with he | he
  · exact h e he
  · exact h' e he

section

variable [Logger]

theorem lines_append (s : Setup) (es es' : List Entry) :
    lines s (es ++ es') = lines s es ++ lines s es' := by
  rw [lines, lines, lines, List.map_append, String.join_append]

theorem display_append (s : Setup) (es es' : List Entry) :
    display s (es ++ es') = display s es ++ display s es' := by
  rw [display, display, display, List.filter_append, lines_append]

variable {s : Setup}

theorem opening_eq_empty {verbose : Bool} (h : s.filter = filter verbose) : opening s = "" := by
  rw [opening, h, Logger.complaints_filter]
  rfl

/-- Without a filter of its own a run that is not verbose shows no details. -/
theorem AreDetails.display_of_quiet {details : List Entry} (hdetails : AreDetails details)
    (h : s.filter = filter false) : display s details = "" := by
  have hnone : details.filter (Logger.passes s.filter ·) = [] := by
    rw [List.filter_eq_nil_iff]
    intro e he
    simp [h, Logger.passes_filter, hdetails e he]
  rw [display, hnone]
  rfl

theorem AreWarnings.display_of_filter {warnings : List Entry} (hwarnings : AreWarnings warnings)
    {verbose : Bool} (h : s.filter = filter verbose) : display s warnings = lines s warnings := by
  have hall : warnings.filter (Logger.passes s.filter ·) = warnings := by
    rw [List.filter_eq_self]
    intro e he
    simp [h, Logger.passes_filter, hwarnings e he]
  rw [display, hall]

/-- A verbose one shows all. -/
theorem display_of_verbose (h : s.filter = filter true) (es : List Entry) :
    display s es = lines s es := by
  have hall : es.filter (Logger.passes s.filter ·) = es := by
    rw [List.filter_eq_self]
    intro e he
    simp [h, Logger.passes_filter]
  rw [display, hall]

end

end Log

/-! ## Exchanges -/

theorem Api.Client.areDetails_exchange [Url.Idna] [Http.Decoding] (c : Api.Client) (call : Api.Call) (reply : Http.Reply) :
    Log.AreDetails ((c.exchange call).result reply).log := by
  unfold exchange send
  split
  · simp [Http.Plan.result, Log.AreDetails, announcement, Log.debug]
  · split
    · rw [Http.Plan.result, conclude]
      split <;> simp [Log.AreDetails, announcement, Log.debug]
    · simp [Http.Plan.result, Log.AreDetails, announcement, Log.debug]

/-! ## Sessions -/

namespace Session

theorem areDetails_traced (c : Api.Call) :
    Log.AreDetails [Log.debug .dispatcher (CommandLine.Command.trace c)] := by
  simp [Log.AreDetails, Log.debug]

theorem areDetails_placed (c : Api.Call) (s : Session) (p : Settings.Profile) :
    Log.AreDetails [Log.debug .dispatcher (CommandLine.Command.trace c), s.placeEntry p] := by
  simp [Log.AreDetails, Log.debug, placeEntry]

section

variable [Platform] {s : Session} {p : Settings.Profile} {key : String} (d : Storage.Disk)
  (c : Api.Call)

theorem call_of_profile_eq_error {e : Settings.Fault} (h : s.config.profile s.profile = .error e) :
    s.call d c = .done ⟨s, d, "", [Log.debug .dispatcher (CommandLine.Command.trace c)],
      .error (.config e)⟩ := by
  simp only [call, access, h]

theorem call_of_key_eq_none (h : s.config.profile s.profile = .ok p)
    (hkey : Api.usableKey? s.apiKey = none) :
    s.call d c = .done ⟨s, d, "", [Log.debug .dispatcher (CommandLine.Command.trace c)],
      .error (.keyRequired Api.keyHint)⟩ := by
  simp only [call, access, h, hkey]

theorem call_of_key_eq_some (h : s.config.profile s.profile = .ok p)
    (hkey : Api.usableKey? s.apiKey = some key) :
    s.call d c = ((s.client p key).exchange c).map (s.conclude d
      [Log.debug .dispatcher (CommandLine.Command.trace c), s.placeEntry p]) := by
  simp only [call, access, h, hkey]

end

/-- A change that is not refused ends as saving the changed settings does. -/
theorem set_of_setValue {s : Session} (d : Storage.Disk) {name value : String} {config : Settings.Config}
    (h : s.config.setValue s.profile name value = .ok config) :
    (s.set d name value).disk = ({ s with config }.save d).1 ∧
      ((s.set d name value).result = .ok () ↔ ({ s with config }.save d).2 = .ok ()) := by
  simp only [set, h]
  cases { s with config }.save d with
  | mk d' result => cases result <;> simp

end Session

/-! ## Runs -/

namespace Program

open CommandLine (Environment Invocation)
open Settings (Config)

theorem runInvocation_eq [Platform] {env : Environment} {d : Storage.Disk} {i : Invocation} {file : String}
    {config : Config} (hfile : configFile? env i.options.configDir = some file)
    (hload : Config.load d file = .ok config) : runInvocation env d i =
      ((start i (some file) config).perform d i.command).map
        (finish (logSetup env i.options.verbose) (startLog i (start i (some file) config))) := by
  simp only [runInvocation, hfile, load, hload]

theorem areDetails_startLog (i : Invocation) (s : Session) : Log.AreDetails (startLog i s) := by
  unfold startLog
  cases i.options.configDir <;> simp [Log.AreDetails, Log.debug]

theorem ended_report (f : Failure) :
    ended f.report = "Error [" ++ f.severity.label ++ "]: " ++ f.message ++ "\n" ++
      (f.hint?.map fun hint => "Hint: " ++ hint ++ "\n").getD "" := by
  unfold ended Failure.report
  cases f.hint? <;> simp [String.join_cons, ToString.toString]

/-- The filter of a run, where the environment has none. -/
theorem filter_logSetup {env : Environment} (h : env.bindings.lookup "RUST_LOG" = none)
    (verbose : Bool) : (logSetup env verbose).filter = Log.filter verbose := by
  rw [logSetup, h, Option.getD_none]

section

variable [Log.Logger]

namespace Outcome

/-- A run that ends in a failure prints nothing, and reports the failure behind the details that the
filter lets through. -/
structure Fails (setup : Log.Setup) (f : Failure) (o : Outcome) : Prop where
  exitCode : o.exitCode = 1
  output : o.output = ""
  errors : ∃ details, Log.AreDetails details ∧
    o.errors = Log.opening setup ++ Log.display setup details ++
      ("Error [" ++ f.severity.label ++ "]: " ++ f.message ++ "\n" ++
        (f.hint?.map fun hint => "Hint: " ++ hint ++ "\n").getD "")
  /-- By default there are no details in a run that is not verbose. -/
  quiet : setup.filter = Log.filter false →
    o.errors = "Error [" ++ f.severity.label ++ "]: " ++ f.message ++ "\n" ++
      (f.hint?.map fun hint => "Hint: " ++ hint ++ "\n").getD ""

/-- A run that succeeds prints a text, and reports warnings behind details, as far as the filter lets
them through. -/
structure Succeeds (setup : Log.Setup) (text : String) (warnings : List Log.Entry) (o : Outcome) :
    Prop where
  exitCode : o.exitCode = 0
  output : o.output = text
  errors : ∃ details, Log.AreDetails details ∧
    o.errors = Log.opening setup ++ Log.display setup (details ++ warnings)
  /-- By default all warnings are shown, and details in a verbose run. -/
  quiet : setup.filter = Log.filter false → o.errors = Log.lines setup warnings
  verbose : setup.filter = Log.filter true → ∃ details, Log.AreDetails details ∧
    o.errors = Log.lines setup details ++ Log.lines setup warnings

end Outcome

variable (setup : Log.Setup) {log : List Log.Entry} {r : Session.Report}

theorem fails_finish (hlog : Log.AreDetails log) (hr : Log.AreDetails r.log) (hout : r.output = "")
    {f : Failure} (h : r.result = .error f) : (finish setup log r).Fails setup f := by
  have herrors : (finish setup log r).errors =
      Log.opening setup ++ Log.display setup (log ++ r.log) ++ ended f.report := by
    simp only [finish, h]
  rw [ended_report] at herrors
  constructor
  case exitCode => simp only [finish, h]
  case output => simpa only [finish, h] using hout
  case errors => exact ⟨_, hlog.append hr, herrors⟩
  case quiet =>
    intro hquiet
    rw [herrors, (hlog.append hr).display_of_quiet hquiet, Log.opening_eq_empty hquiet,
      String.empty_append, String.empty_append]

theorem succeeds_finish (hlog : Log.AreDetails log) {details warnings : List Log.Entry}
    (hdetails : Log.AreDetails details) (hwarnings : Log.AreWarnings warnings)
    (hr : r.log = details ++ warnings) (h : r.result = .ok ()) :
    (finish setup log r).Succeeds setup r.output warnings := by
  have herrors : (finish setup log r).errors =
      Log.opening setup ++ Log.display setup ((log ++ details) ++ warnings) := by
    simp only [finish, h, hr, List.append_assoc]
  have hall := hlog.append hdetails
  constructor
  case exitCode => simp only [finish, h]
  case output => simp only [finish, h]
  case errors => exact ⟨_, hall, herrors⟩
  case quiet =>
    intro hquiet
    rw [herrors, Log.display_append, hall.display_of_quiet hquiet,
      hwarnings.display_of_filter hquiet, Log.opening_eq_empty hquiet, String.empty_append,
      String.empty_append]
  case verbose =>
    intro hverbose
    refine ⟨_, hall, ?_⟩
    rw [herrors, Log.display_of_verbose hverbose, Log.opening_eq_empty hverbose, String.empty_append,
      Log.lines_append]

end

end Program

end PickupGame
