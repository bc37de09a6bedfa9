import PickupGame.Machine
import PickupGame.Proofs.Api.Address
import PickupGame.Proofs.Program.Calls
import PickupGame.Proofs.Program.Runs
import PickupGame.Proofs.Settings.Remedy
import PickupGame.Proofs.Settings.Saving

/-!
# Stored and given addresses

It makes no difference to a call whether an address was set for its profile, saved and loaded again,
or is given for the run alone, whatever slashes are put behind it there. Only details of the report
tell the two runs apart.
-/

namespace PickupGame

open Api (Client)
open Settings (Config Profile validateUrl)
open Storage (Disk)

/-- The same command line with another address. -/
def CommandLine.Invocation.withUrl (i : CommandLine.Invocation) (url : Option String) :
    CommandLine.Invocation :=
  { i with options := { i.options with url } }

/-! ## Settings -/

namespace Settings.Config

variable {c changed written : Config} {name url : String}

/-- An address that is set is found without the slashes at its end, and the timeout is left as it
was. -/
theorem profile_of_setValue (h : c.setValue name "api_url" url = .ok changed)
    (hsame : written.Same changed) :
    written.profile name = .ok { c.held name with apiUrl := Url.trimSlashes url } := by
  obtain ⟨q, hq, rfl⟩ := setValue_eq_ok h
  rcases Profile.setField_cases hq with ⟨-, -, rfl⟩ | ⟨hkey, -⟩
  · simp [profile, hsame.profiles]
  · exact absurd hkey (by decide)

theorem isWritable_of_setValue (hc : c.isWritable = true)
    (h : c.setValue name "api_url" url = .ok changed) (hsame : written.Same changed) :
    written.isWritable = true := by
  have hwritten : written.isWritable = changed.isWritable := by
    rw [Bool.eq_iff_iff, isWritable_iff, isWritable_iff]
    simp only [hsame.profiles]
  obtain ⟨hothers, -, htimeout, -⟩ := changedOnly_setValue h
  rw [isWritable_iff_held] at hc
  rw [hwritten, isWritable_iff_held]
  intro other n hn
  by_cases hother : other = name
  · rw [hother, htimeout (by decide)] at hn
    exact hc name n hn
  · rw [held, hothers other hother] at hn
    exact hc other n hn

end Settings.Config

theorem Api.Client.new_append_slashes (url key : String) (n : Nat) (seconds : UInt64) :
    new (url ++ String.ofList (List.replicate n '/')) key seconds = new url key seconds := by
  simp only [new, Url.trimSlashes, String.toList_append, String.toList_ofList,
    Url.withoutSlashes_append_replicate]

/-! ## Sessions -/

namespace Session

/-- Reports that agree but for the details that they begin with, and what is left behind. -/
structure Report.Agree (r r' : Report) : Prop where
  output : r.output = r'.output
  log : ∃ details details' rest, Log.AreDetails details ∧ Log.AreDetails details' ∧
    r.log = details ++ rest ∧ r'.log = details' ++ rest
  result : r.result = r'.result

variable {s s' : Session} {before before' : List Log.Entry}

theorem agree_conclude [Display.Screen] (hjson : s.json = s'.json) (hbefore : Log.AreDetails before)
    (hbefore' : Log.AreDetails before') (d d' : Disk) (o : Client.Outcome) :
    (s.conclude d before o).Agree (s'.conclude d' before' o) := by
  have hrender (e : Api.Envelope) : s.render e = s'.render e := by rw [render, render, hjson]
  cases h : o.result with
  | ok e =>
    simp only [conclude, h, hrender, List.append_assoc]
    exact ⟨rfl, ⟨before, before', _, hbefore, hbefore', rfl, rfl⟩, rfl⟩
  | error f =>
    simp only [conclude, h]
    exact ⟨rfl, ⟨before, before', o.log, hbefore, hbefore', rfl, rfl⟩, rfl⟩

end Session

/-! ## Runs -/

namespace Program

open CommandLine (Environment Invocation)

theorem client_withUrl (i : Invocation) (url file : Option String) (config : Config) (p : Profile)
    (key : String) : (start (i.withUrl url) file config).client p key =
      .new (url.getD p.apiUrl) key (Session.seconds p) :=
  rfl

section

variable [Platform]

/-- Outcomes that nothing tells apart but the details they begin to report and the disk. -/
structure Outcome.Agree (setup : Log.Setup) (o o' : Outcome) : Prop where
  exitCode : o.exitCode = o'.exitCode
  output : o.output = o'.output
  errors : ∃ details details' rest, Log.AreDetails details ∧ Log.AreDetails details' ∧
    o.errors = Log.opening setup ++ Log.display setup details ++ rest ∧
      o'.errors = Log.opening setup ++ Log.display setup details' ++ rest
  /-- By default there are no details in a run that is not verbose. -/
  quiet : setup.filter = Log.filter false → o.errors = o'.errors

/-- Runs that send the same request or none, wait as long for the reply, and end alike. -/
structure Agree (setup : Log.Setup) (plan plan' : Http.Plan Outcome) : Prop where
  request : plan.request? = plan'.request?
  seconds : plan.seconds? = plan'.seconds?
  result : ∀ reply, (plan.result reply).Agree setup (plan'.result reply)

theorem Outcome.agree_of_errors {setup : Log.Setup} {o o' : Outcome} (hexit : o.exitCode = o'.exitCode)
    (houtput : o.output = o'.output) {details details' : List Log.Entry} {rest : String}
    (hdetails : Log.AreDetails details) (hdetails' : Log.AreDetails details')
    (herrors : o.errors = Log.opening setup ++ Log.display setup details ++ rest)
    (herrors' : o'.errors = Log.opening setup ++ Log.display setup details' ++ rest) :
    o.Agree setup o' where
  exitCode := hexit
  output := houtput
  errors := ⟨details, details', rest, hdetails, hdetails', herrors, herrors'⟩
  quiet h := by rw [herrors, herrors', hdetails.display_of_quiet h, hdetails'.display_of_quiet h]

theorem agree_finish (setup : Log.Setup) {log log' : List Log.Entry} (hlog : Log.AreDetails log)
    (hlog' : Log.AreDetails log') {r r' : Session.Report} (h : r.Agree r') :
    (finish setup log r).Agree setup (finish setup log' r') := by
  obtain ⟨houtput, ⟨details, details', rest, hdetails, hdetails', hr, hr'⟩, hresult⟩ := h
  have hall := hlog.append hdetails
  have hall' := hlog'.append hdetails'
  have hshown : Log.opening setup ++ Log.display setup (log ++ r.log) =
      Log.opening setup ++ Log.display setup (log ++ details) ++ Log.display setup rest := by
    rw [hr, ← List.append_assoc, Log.display_append, String.append_assoc]
  have hshown' : Log.opening setup ++ Log.display setup (log' ++ r'.log) =
      Log.opening setup ++ Log.display setup (log' ++ details') ++ Log.display setup rest := by
    rw [hr', ← List.append_assoc, Log.display_append, String.append_assoc]
  simp only [finish, hshown, hshown', hresult]
  cases r'.result with
  | ok u => exact Outcome.agree_of_errors rfl houtput hall hall' rfl rfl
  | error f =>
    exact Outcome.agree_of_errors rfl houtput hall hall' (String.append_assoc ..)
      (String.append_assoc ..)

theorem agree_call {s s' : Session} {p p' : Profile} (hp : s.config.profile s.profile = .ok p)
    (hp' : s'.config.profile s'.profile = .ok p') (hkey : s.apiKey = s'.apiKey)
    (hjson : s.json = s'.json) (hclient : ∀ key, s.client p key = s'.client p' key) (setup : Log.Setup)
    {log log' : List Log.Entry} (hlog : Log.AreDetails log) (hlog' : Log.AreDetails log')
    (d d' : Disk) (call : Api.Call) :
    Agree setup ((s.call d call).map (finish setup log))
      ((s'.call d' call).map (finish setup log')) := by
  cases husable : Api.usableKey? s.apiKey with
  | none =>
    have htraced := Session.areDetails_traced call
    rw [Session.call_of_key_eq_none d call hp husable,
      Session.call_of_key_eq_none d' call hp' (hkey ▸ husable)]
    refine ⟨rfl, rfl, fun reply => ?_⟩
    simp only [Http.Plan.map_done, Http.Plan.result]
    exact agree_finish setup hlog hlog' ⟨rfl, ⟨_, _, [], htraced, htraced, rfl, rfl⟩, rfl⟩
  | some key =>
    have hplaced := Session.areDetails_placed call
    rw [Session.call_of_key_eq_some d call hp husable,
      Session.call_of_key_eq_some d' call hp' (hkey ▸ husable), hclient]
    constructor
    case request => simp only [Http.Plan.request?_map]
    case seconds => simp only [Http.Plan.seconds?_map]
    case result =>
      intro reply
      simp only [Http.Plan.result_map]
      exact agree_finish setup hlog hlog'
        (Session.agree_conclude hjson (hplaced s p) (hplaced s' p') d d' _)

theorem runInvocation_withUrl {env : Environment} {d : Disk} {i : Invocation} {call : Api.Call}
    (hcall : i.command = .call call) {file : String} {config : Config}
    (hfile : configFile? env i.options.configDir = some file) (hload : Config.load d file = .ok config)
    (url : Option String) :
    runInvocation env d (i.withUrl url) =
      ((start (i.withUrl url) (some file) config).call d call).map
        (finish (logSetup env i.options.verbose)
          (startLog (i.withUrl url) (start (i.withUrl url) (some file) config))) := by
  have hcommand : (i.withUrl url).command = .call call := hcall
  rw [runInvocation_eq (i := i.withUrl url) hfile hload, hcommand]
  rfl

theorem runInvocation_setConfig {env : Environment} {d : Disk} {i : Invocation} {file : String}
    {config changed : Config} (hfile : configFile? env i.options.configDir = some file)
    (hload : Config.load d file = .ok config) {name value : String}
    (hset : config.setValue (config.resolveName i.options.profile) name value = .ok changed) :
    ∃ o, runInvocation env d { i with command := .setConfig name value } = .done o ∧
      o.disk = (changed.save d file).1 ∧ (o.exitCode = 0 ↔ (changed.save d file).2 = .ok ()) := by
  let s := start { i with command := .setConfig name value } (some file) config
  have hended : (s.set d name value).disk = (changed.save d file).1 ∧
      ((s.set d name value).result = .ok () ↔ (changed.save d file).2 = .ok ()) := by
    have hended := s.set_of_setValue d hset
    simpa only [Session.save, s, start] using hended
  rw [runInvocation_eq (i := { i with command := .setConfig name value }) hfile hload]
  refine ⟨_, rfl, ?_⟩
  rwa [disk_finish, exitCode_finish]

/-- A call is made of an address that was set, saved and loaded as it is of one that is given for
the run, with or without slashes behind it. -/
theorem agree_stored {env : Environment} {d : Disk} {i : Invocation} {call : Api.Call}
    (hcall : i.command = .call call) {file : String} {config : Config}
    (hfile : configFile? env i.options.configDir = some file) (hload : Config.load d file = .ok config)
    {p : Profile} (hprofile : config.profile (config.resolveName i.options.profile) = .ok p)
    {url : String} (hvalid : validateUrl url = .ok ()) :
    ∃ changed, config.setValue (config.resolveName i.options.profile) "api_url" url = .ok changed ∧
      (∃ o, runInvocation env d { i with command := .setConfig "api_url" url } = .done o ∧
        o.disk = (changed.save d file).1 ∧ (o.exitCode = 0 ↔ (changed.save d file).2 = .ok ())) ∧
      ∀ written : Config, written.Same changed →
        (d.IsWritable file → (written.save d file).2 = .ok ()) ∧
        ((written.save d file).2 = .ok () → ∀ n, Agree (logSetup env i.options.verbose)
          (runInvocation env (written.save d file).1 (i.withUrl none))
          (runInvocation env d (i.withUrl (some (url ++ String.ofList (List.replicate n '/')))))) := by
  obtain ⟨changed, hset⟩ : ∃ changed,
      config.setValue (config.resolveName i.options.profile) "api_url" url = .ok changed := by
    simp [Config.setValue, Config.setField, hvalid]
  refine ⟨changed, hset, runInvocation_setConfig hfile hload hset, fun written hsame => ?_⟩
  refine ⟨fun hpath => ?_, fun hsave n => ?_⟩
  · have hwritable := Config.isWritable_of_setValue (Config.isWritable_of_load hload) hset hsame
    exact Config.save_of_isWritable hwritable hpath
  · have hwritten := (Config.load_save hsave).2
    rw [runInvocation_withUrl hcall hfile hwritten, runInvocation_withUrl hcall hfile hload]
    have hname := Config.resolveName_of_setValue hset hsame
    have hstored := Config.profile_of_setValue hset hsame
    rw [Config.held_of_profile hprofile, ← hname] at hstored
    refine agree_call hstored hprofile ?_ ?_ ?_ _ (areDetails_startLog _ _) (areDetails_startLog _ _) _ _ _
    · rfl
    · rfl
    · intro key
      rw [client_withUrl, client_withUrl, Option.getD_none, Option.getD_some, Client.new_append_slashes,
        Client.new_trimSlashes]
      rfl

end

/-- An address with slashes at its end, set for the first profile there is. -/
theorem agree_stored_slashes :
    letI := machine
    let file := Storage.Path.join "/home/a" Settings.fileName
    let i : Invocation := ⟨⟨false, none, some "/home/a", some "k", none, false⟩, .call .listPugs⟩
    ∃ changed, Config.empty.setValue "default" "api_url" "http://pug.example.test//" = .ok changed ∧
      Agree (logSetup ⟨[]⟩ false) (runInvocation ⟨[]⟩ (changed.save Disk.empty file).1 (i.withUrl none))
        (runInvocation ⟨[]⟩ Disk.empty (i.withUrl (some "http://pug.example.test//////"))) ∧
      (runInvocation ⟨[]⟩ (changed.save Disk.empty file).1 (i.withUrl none)).request? ≠ none := by
  let := machine
  intro file i
  have hload : Config.load Disk.empty file = .ok .empty := Config.load_of_missing (by decide +kernel)
  have hvalid : validateUrl "http://pug.example.test//" = .ok () := by decide +kernel
  have hfile : configFile? ⟨[]⟩ i.options.configDir = some file := rfl
  have hprofile : Config.empty.profile "default" = .ok .builtIn := rfl
  obtain ⟨changed, hset, -, hstored⟩ := agree_stored rfl hfile hload hprofile hvalid
  obtain ⟨hsave, hagree⟩ := hstored changed ⟨rfl, fun _ => rfl⟩
  have hslashes : "http://pug.example.test//" ++ String.ofList (List.replicate 4 '/') =
      "http://pug.example.test//////" := by decide +kernel
  have hsame := hslashes ▸ hagree (hsave Config.isWritable_home) 4
  refine ⟨changed, hset, hsame, ?_⟩
  rw [hsame.request, ne_eq, ← Option.isNone_iff_eq_none]
  decide +kernel

end Program

end PickupGame
