import PickupGame.Proofs.Api.Outcome
import PickupGame.Proofs.CommandLine.Environment
import PickupGame.Proofs.Program.Calls
import PickupGame.Proofs.Program.Runs

/-!
# What a run sends

A run with a call sends the request of that call, whose parameters are the operands and options of the
command line under their own names, if the run has a profile and a key. Of profile and key the profile
comes first. A run that shows or changes settings sends nothing and needs neither.
-/

namespace PickupGame

open Api (Client Endpoint)

/-! ## Parameters of a command line -/

namespace CommandLine

/-- The name under which the service knows an operand. -/
def Operand.parameter : Operand → String
  | steamId => "steamid"
  | name => "name"
  | pugId => "pugid"
  | map => "map"
  | key => "key"
  | value => "value"

/-- The name under which the service knows an option of a verb. -/
def Opt.parameter : Opt → String
  | pug => "pugid"
  | o => o.long

def Verb.endpoint? : Verb → Option Endpoint
  | playerAdd => some .addPlayer
  | playerRemove => some .removePlayer
  | playerList => some .listPugPlayers
  | pugCreate => some .createPug
  | pugEnd => some .endPug
  | pugList => some .listPugs
  | pugStatus => some .pugStatus
  | mapVote => some .addMapVote
  | mapForce => some .forceMap
  | configShow | configSet => none

/-- The operands and then the options of a command under the names of the service. -/
def Command.named (c : Command) : List (String × String) :=
  (c.verb.operands.zip c.operands).map (fun e => (e.1.parameter, e.2.written)) ++
    c.verb.options.filterMap fun o => (c.option? o).map fun d => (o.parameter, d.written)

/-- An empty map is left out unless it is voted for. -/
def Command.parameters (c : Command) : List (String × String) :=
  if c.verb = .mapVote then c.named else c.named.filter (· ≠ ("map", ""))

theorem endpoint?_verb (c : Api.Call) :
    (Command.call c).verb.endpoint? = some c.endpoint := by
  cases c <;> rfl

theorem filter_mapParam (map : Option String) :
    (Api.optionalParam "map" map).filter (· ≠ ("map", "")) = Api.mapParam map := by
  cases map with
  | none => rfl
  | some map => by_cases h : map = "" <;> simp [Api.mapParam, Api.optionalParam, Option.filter, h]

/-- The parameters of a call are those of its command line. -/
theorem parameters_call (c : Api.Call) : (Command.call c).parameters = c.arguments := by
  cases c with
  | addPlayer steamId name size pugId =>
    have hnamed : (Command.call (.addPlayer steamId name size pugId)).named =
        (Api.Call.addPlayer steamId name size pugId).arguments := by
      cases pugId <;> rfl
    rw [Command.parameters, if_neg (by simp [Command.verb]), hnamed]
    cases pugId <;> simp [Api.Call.arguments, Api.optionalParam]
  | createPug steamId name size map =>
    have hnamed : (Command.call (.createPug steamId name size map)).named =
        [("steamid", Api.decimal steamId.toNat), ("name", name), ("size", Api.decimal size.toNat)]
          ++ Api.optionalParam "map" map := by
      cases map <;> rfl
    rw [Command.parameters, if_neg (by simp [Command.verb]), hnamed, List.filter_append, filter_mapParam]
    simp [Api.Call.arguments]
  | forceMap pugId map =>
    have hnamed : (Command.call (.forceMap pugId map)).named =
        [("pugid", Api.decimal pugId.toNat)] ++ Api.optionalParam "map" (some map) := rfl
    rw [Command.parameters, if_neg (by simp [Command.verb]), hnamed, List.filter_append, filter_mapParam]
    simp [Api.Call.arguments]
  | addMapVote steamId map => rfl
  | listPugs => rfl
  | removePlayer steamId => rfl
  | endPug pugId => rfl
  | pugStatus pugId => rfl
  | listPugPlayers pugId => rfl

end CommandLine

/-! ## Runs -/

theorem Api.Client.seconds?_send [Url.Idna] [Http.Decoding] {c : Client} {request : Api.Request} {seconds : UInt64}
    (h : (c.send request).seconds? = some seconds) : seconds = c.seconds := by
  unfold send at h
  split at h
  · cases h
  · split at h <;> cases h
    rfl

theorem Session.result_set_eq_ok {s : Session} {d : Storage.Disk} {key value : String} :
    (s.set d key value).result = .ok () ↔
      ∃ c, s.config.setValue s.profile key value = .ok c ∧
        ({ s with config := c }.save d).2 = .ok () := by
  cases hset : s.config.setValue s.profile key value with
  | error e => simp [set, hset]
  | ok c => simpa using (s.set_of_setValue d hset).2

namespace Program

open CommandLine (Environment Invocation)
open Settings (Config)
open Storage (Disk)

section

variable [Platform]

/-- What is known of a run on the settings of its file, with what was given for the key and for the
address on the command line or else in the environment. -/
structure Sends (i : Invocation) (setup : Log.Setup) (config : Config) (key url : Option String)
    (d : Disk) (file : String) (plan : Http.Plan Outcome) : Prop where
  noProfile : ∀ call, i.command = .call call → ∀ e,
    config.profile (config.resolveName i.options.profile) = .error e →
    e = .profileNotFound (config.resolveName i.options.profile) ∧
      ∃ o, plan = .done o ∧ o.Fails setup (.config e)
  noKey : ∀ call, i.command = .call call → ∀ p,
    config.profile (config.resolveName i.options.profile) = .ok p → key = none ∨ key = some "" →
    ∃ o, plan = .done o ∧ o.Fails setup (.keyRequired Api.keyHint)
  /-- The client builds the request of the call, and it is sent if it is one for the web. -/
  request : ∀ call, i.command = .call call → ∀ p,
    config.profile (config.resolveName i.options.profile) = .ok p → ∀ k, key = some k → k ≠ "" →
    (∀ r, plan.request? = some r ↔
        (Client.new (url.getD p.apiUrl) k (p.timeout.getD 30)).build call = .ok r ∧
          Api.isWebScheme r.url.scheme = true) ∧
      (∀ seconds, plan.seconds? = some seconds → seconds = p.timeout.getD 30) ∧
      (call.request k).params = ("key", k) :: i.command.parameters ∧
      i.command.verb.endpoint? = some (call.request k).endpoint
  showConfig : i.command = .showConfig → ∃ o, plan = .done o ∧ o.exitCode = 0
  setConfig : ∀ name value, i.command = .setConfig name value → ∃ o, plan = .done o ∧
    (o.exitCode = 0 ↔ ∃ c, config.setValue (config.resolveName i.options.profile) name value = .ok c ∧
      (c.save d file).2 = .ok ())

section Runs

variable {env : Environment} {d : Disk} {i : Invocation} {file : String} {config : Config}
  (hfile : configFile? env i.options.configDir = some file) (hload : Config.load d file = .ok config)
include hfile hload

theorem sends_runInvocation :
    Sends i (logSetup env i.options.verbose) config i.options.apiKey i.options.url d file
      (runInvocation env d i) := by
  have hrun := runInvocation_eq hfile hload
  have hlog := areDetails_startLog i (start i (some file) config)
  constructor
  case noProfile =>
    intro call hcall e he
    rw [hrun, hcall, Session.perform, Session.call_of_profile_eq_error d call he]
    refine ⟨(Config.profile_eq_error.1 he).1, _, rfl, ?_⟩
    exact fails_finish _ hlog (Session.areDetails_traced call) rfl rfl
  case noKey =>
    intro call hcall p hp hkey
    have hnone : Api.usableKey? i.options.apiKey = none := by
      rcases hkey with hkey | hkey <;> rw [hkey] <;> rfl
    rw [hrun, hcall, Session.perform, Session.call_of_key_eq_none d call hp hnone]
    exact ⟨_, rfl, fails_finish _ hlog (Session.areDetails_traced call) rfl rfl⟩
  case request =>
    intro call hcall p hp k hkey hne
    have hsome : Api.usableKey? i.options.apiKey = some k := by simp [Api.usableKey?, hkey, hne]
    rw [hrun, hcall, Session.perform, Session.call_of_key_eq_some d call hp hsome]
    rw [CommandLine.parameters_call, CommandLine.endpoint?_verb]
    simp only [Http.Plan.request?_map, Http.Plan.seconds?_map]
    exact ⟨Client.request?_send _ _, fun seconds => Client.seconds?_send, rfl, rfl⟩
  case showConfig =>
    intro hcommand
    rw [hrun, hcommand]
    exact ⟨_, rfl, rfl⟩
  case setConfig =>
    intro name value hcommand
    rw [hrun, hcommand]
    refine ⟨_, rfl, ?_⟩
    rw [exitCode_finish, Session.result_set_eq_ok]
    rfl

end Runs

/-- Whatever the environment and the command line are, a run on settings that can be read sends the
request that its command names and nothing else. -/
theorem sends_run {env : Environment} {args : List String} {i : Invocation}
    (hparse : CommandLine.parse env args = .ok i) {d : Disk} {file : String} {config : Config}
    (hfile : configFile? env i.options.configDir = some file)
    (hload : Config.load d file = .ok config) :
    ∃ i', CommandLine.parse .bare args = .ok i' ∧
      Sends i' (logSetup env i'.options.verbose) config
        (i'.options.apiKey.or (env.bindings.lookup "PUG_API_KEY"))
        (i'.options.url.or (env.bindings.lookup "PUG_API_URL")) d file (run env d args) := by
  obtain ⟨i', hbare, rfl⟩ := CommandLine.parse_eq_ok_iff.1 hparse
  have hrun : run env d args = runInvocation env d (i'.within env) := by simp only [run, hparse]
  obtain ⟨hprofile, hkey, hrequest, hshow, hset⟩ := sends_runInvocation hfile hload
  rw [hrun]
  exact ⟨i', hbare, hprofile, hkey, hrequest, hshow, hset⟩

end

/-- A key and an address from the environment, and an empty map. -/
theorem sends_run_environment :
    letI := machine
    let env : Environment := ⟨[("XDG_CONFIG_HOME", "/etc"), ("PUG_API_KEY", "a&b"),
      ("PUG_API_URL", "http://pug.example.test//")]⟩
    let args := ["map", "force", "4", ""]
    ∃ r, (run env Disk.empty args).request? = some r ∧ r.method = .post ∧
      r.url.pathText = "/ITF2Pug/Map/Force/".toList ∧ r.body = some "key=a%26b&pugid=4" := by
  let := machine
  intro env args
  let given (key url : Option String) : Invocation :=
    ⟨⟨false, none, none, key, url, false⟩, .call (.forceMap 4 "")⟩
  have hparse : CommandLine.parse env args =
      .ok (given (some "a&b") (some "http://pug.example.test//")) := by decide +kernel
  have hbare : CommandLine.parse .bare args = .ok (given none none) := by decide +kernel
  have hload : Config.load Disk.empty "/etc/pug-client/config.toml" = .ok .empty :=
    Config.load_of_missing (by decide +kernel)
  obtain ⟨i', hi', hsends⟩ := sends_run hparse rfl hload
  rw [hbare] at hi'
  cases hi'
  have hrequest := (hsends.request _ rfl .builtIn rfl "a&b" rfl (by decide)).1
  have hbuilt : ((Client.new "http://pug.example.test//" "a&b" 30).build (.forceMap 4 "")).toOption.any
      (fun r => Api.isWebScheme r.url.scheme && r.method = .post &&
        r.url.pathText = "/ITF2Pug/Map/Force/".toList && r.body = some "key=a%26b&pugid=4") = true := by
    decide +kernel
  cases hbuild : (Client.new "http://pug.example.test//" "a&b" 30).build (.forceMap 4 "") with
  | error e => simp [hbuild, Except.toOption] at hbuilt
  | ok r =>
    simp only [hbuild, Except.toOption, Option.any_some, Bool.and_eq_true, decide_eq_true_eq] at hbuilt
    obtain ⟨⟨⟨hweb, hmethod⟩, hpath⟩, hbody⟩ := hbuilt
    exact ⟨r, (hrequest r).2 ⟨hbuild, hweb⟩, hmethod, hpath, hbody⟩

end Program

end PickupGame
