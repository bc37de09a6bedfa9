import PickupGame.Machine
import PickupGame.Proofs.Api.Outcome
import PickupGame.Proofs.Program.Calls

/-!
# What a run makes of an answer

A run with a profile and a key succeeds if it gets an envelope, also one that refuses the action or
has a payload that does not fit its code. It prints what the envelope is shown as, and gives a warning
for either of the two, which is shown unless a filter in the environment keeps it back. Without an
envelope it prints nothing and reports the failure of the exchange.
-/

namespace PickupGame

open Api (Client Envelope)

/-! ## Envelopes -/

/-- A reply brings an envelope as a whole answer of a good status, with the envelope for its text. -/
def Api.Envelope.ComesBy [Http.Decoding] (e : Envelope) (endpoint : String) (reply : Http.Reply) : Prop :=
  ∃ r, reply = .answered r ∧ (200 ≤ r.status.toNat ∧ r.status.toNat ≤ 299) ∧
    ofBody r.text endpoint = .ok e

theorem Api.Client.exchange_eq_ok [Url.Idna] [Http.Decoding] {c : Client} {call : Api.Call}
    {reply : Http.Reply} {e : Envelope} :
    ((c.exchange call).result reply).result = .ok e ↔
      (c.exchange call).request? ≠ none ∧ e.ComesBy call.endpoint.path reply :=
  send_eq_ok

section

variable [Display.Screen]

/-- What an envelope is shown as, with the warnings that showing it gives rise to. -/
structure Display.Shows (json : Bool) (e : Envelope) (text : String) (warnings : List Log.Entry) :
    Prop where
  data : json = true → text = e.raw.pretty ∧ warnings = []
  headline : json = false → ∃ rest, text = Display.headline e ++ rest
  fits : json = false → ∀ p, e.payload = .ok p →
    text = Display.headline e ++ ((Display.payload? p).map ("\n" ++ ·)).getD "" ∧ warnings = []
  unfit : json = false → ∀ f, e.payload = .error f →
    text = Display.headline e ++ "\n" ++ e.raw.pretty ∧ warnings = [Log.warn .display f.message]

theorem Display.shows_result (e : Envelope) : Shows false e (result e).1 (result e).2 := by
  have hfits (p : Api.Payload) (hp : e.payload = .ok p) :
      result e = (Display.headline e ++ ((payload? p).map ("\n" ++ ·)).getD "", []) := by
    rw [result, hp]
    cases hbody : payload? p <;> simp [hbody, String.append_assoc]
  have hunfit (f : Api.Failure) (hf : e.payload = .error f) :
      result e = (Display.headline e ++ "\n" ++ e.raw.pretty, [Log.warn .display f.message]) := by
    rw [result, hf]
  constructor
  case data => exact nofun
  case fits => exact fun _ p hp => by simp [hfits p hp]
  case unfit => exact fun _ f hf => by simp [hunfit f hf]
  case headline =>
    intro _
    cases hpayload : e.payload with
    | ok p => exact ⟨_, congrArg Prod.fst (hfits p hpayload)⟩
    | error f => exact ⟨"\n" ++ e.raw.pretty, by rw [hunfit f hpayload, String.append_assoc]⟩

theorem Session.shows_render (s : Session) (e : Envelope) :
    Display.Shows s.json e (s.render e).1 (s.render e).2 := by
  unfold render
  cases s.json with
  | true => exact ⟨fun _ => ⟨rfl, rfl⟩, nofun, nofun, nofun⟩
  | false => exact Display.shows_result e

/-- What is said beside an envelope that is shown are warnings. -/
theorem Display.Shows.areWarnings {json : Bool} {e : Envelope} {text : String}
    {warnings : List Log.Entry} (h : Shows json e text warnings) : Log.AreWarnings warnings := by
  cases json with
  | true => simp [(h.data rfl).2, Log.AreWarnings]
  | false =>
    cases hpayload : e.payload with
    | ok p => simp [(h.fits rfl p hpayload).2, Log.AreWarnings]
    | error f => simp [(h.unfit rfl f hpayload).2, Log.AreWarnings, Log.warn]

end

theorem Session.areWarnings_refusal (e : Envelope) : Log.AreWarnings (refusal e) := by
  unfold refusal
  split <;> simp [Log.AreWarnings, Log.warn]

/-! ## Runs -/

namespace Program

open CommandLine (Environment Invocation)
open Settings (Config)
open Storage (Disk)

section

variable [Platform]

/-- What is known of the end of a run with a call, which a client sends. -/
structure Concludes (i : Invocation) (setup : Log.Setup) (c : Client) (call : Api.Call)
    (plan : Http.Plan Outcome) (reply : Http.Reply) : Prop where
  exitCode : (plan.result reply).exitCode = 0 ↔
    plan.request? ≠ none ∧ ∃ e : Envelope, e.ComesBy call.endpoint.path reply
  envelope : plan.request? ≠ none → ∀ e : Envelope, e.ComesBy call.endpoint.path reply →
    ∃ text warnings, Display.Shows i.options.json e text warnings ∧
      (plan.result reply).Succeeds setup (text ++ "\n")
        ((if e.code.isRefusal then
          [Log.warn .dispatcher ("server refused the request: " ++ e.code.display)] else []) ++ warnings)
  failure : ¬ (plan.request? ≠ none ∧ ∃ e : Envelope, e.ComesBy call.endpoint.path reply) →
    ∃ f, ((c.exchange call).result reply).result = .error f ∧
      Api.FailsAt call.endpoint.path c.seconds f ∧
      (plan.result reply).Fails setup (.api f)

section Conclude

variable {setup : Log.Setup} {log before : List Log.Entry} (hlog : Log.AreDetails log)
  (hbefore : Log.AreDetails before) (s : Session) (d : Disk) {o : Client.Outcome}
  (ho : Log.AreDetails o.log)
include hlog hbefore ho

theorem succeeds_conclude {e : Envelope} (h : o.result = .ok e) :
    (finish setup log (s.conclude d before o)).Succeeds setup ((s.render e).1 ++ "\n")
      (Session.refusal e ++ (s.render e).2) := by
  have houtput : (s.conclude d before o).output = (s.render e).1 ++ "\n" := by
    simp only [Session.conclude, h]
  have hreport : (s.conclude d before o).log =
      (before ++ o.log) ++ (Session.refusal e ++ (s.render e).2) := by
    simp only [Session.conclude, h, List.append_assoc]
  have hresult : (s.conclude d before o).result = .ok () := by simp only [Session.conclude, h]
  rw [← houtput]
  have hwarnings : Log.AreWarnings (Session.refusal e ++ (s.render e).2) :=
    List.forall_mem_append.2 ⟨Session.areWarnings_refusal e, (s.shows_render e).areWarnings⟩
  exact succeeds_finish setup hlog (hbefore.append ho) hwarnings hreport hresult

theorem fails_conclude {f : Api.Failure} (h : o.result = .error f) :
    (finish setup log (s.conclude d before o)).Fails setup (.api f) := by
  have hconclude : s.conclude d before o = ⟨s, d, "", before ++ o.log, .error (.api f)⟩ := by
    simp only [Session.conclude, h]
  rw [hconclude]
  exact fails_finish setup hlog (hbefore.append ho) rfl rfl

end Conclude

/-- A run that ends as its exchange does concludes it. -/
theorem concludes_of_exchange {i : Invocation} {setup : Log.Setup} {c : Client} {call : Api.Call}
    {plan : Http.Plan Outcome} {reply : Http.Reply}
    (hrequest : plan.request? = (c.exchange call).request?)
    (hok : ∀ e, ((c.exchange call).result reply).result = .ok e → ∃ text warnings,
      Display.Shows i.options.json e text warnings ∧
      (plan.result reply).Succeeds setup (text ++ "\n") (Session.refusal e ++ warnings))
    (herror : ∀ f, ((c.exchange call).result reply).result = .error f →
      (plan.result reply).Fails setup (.api f)) :
    Concludes i setup c call plan reply := by
  constructor
  case exitCode =>
    rw [hrequest, ← exists_and_left]
    cases hexchange : ((c.exchange call).result reply).result with
    | ok e =>
      obtain ⟨text, warnings, -, hsucceeds⟩ := hok e hexchange
      exact iff_of_true hsucceeds.exitCode ⟨e, Client.exchange_eq_ok.1 hexchange⟩
    | error f =>
      refine iff_of_false (by simp [(herror f hexchange).exitCode]) ?_
      rintro ⟨e, he⟩
      rw [Client.exchange_eq_ok.2 he] at hexchange
      cases hexchange
  case envelope =>
    intro hsent e he
    rw [hrequest] at hsent
    exact hok e (Client.exchange_eq_ok.2 ⟨hsent, he⟩)
  case failure =>
    rw [hrequest]
    intro hnone
    cases hexchange : ((c.exchange call).result reply).result with
    | ok e =>
      obtain ⟨hsent, he⟩ := Client.exchange_eq_ok.1 hexchange
      exact absurd ⟨hsent, e, he⟩ hnone
    | error f => exact ⟨f, rfl, Client.failsAt_send hexchange, herror f hexchange⟩

/-- Whatever the server does and however its answers are read, a run with a profile and a key ends as
its exchange does. -/
theorem concludes_run {env : Environment} {args : List String} {i : Invocation}
    (hparse : CommandLine.parse env args = .ok i) {call : Api.Call} (hcall : i.command = .call call)
    {d : Disk} {file : String} {config : Config}
    (hfile : configFile? env i.options.configDir = some file) (hload : Config.load d file = .ok config)
    {p : Settings.Profile}
    (hprofile : config.profile (config.resolveName i.options.profile) = .ok p)
    {key : String} (hkey : i.options.apiKey = some key) (hne : key ≠ "") (reply : Http.Reply) :
    Concludes i (logSetup env i.options.verbose)
      (Client.new (i.options.url.getD p.apiUrl) key (p.timeout.getD 30)) call (run env d args)
      reply := by
  have husable : Api.usableKey? i.options.apiKey = some key := by simp [Api.usableKey?, hkey, hne]
  have hrun : run env d args =
      ((start i (some file) config).call d call).map
        (finish (logSetup env i.options.verbose) (startLog i (start i (some file) config))) := by
    simp only [run, hparse, runInvocation_eq hfile hload, hcall, Session.perform]
  rw [hrun, Session.call_of_key_eq_some d call hprofile husable]
  have hlog := areDetails_startLog i (start i (some file) config)
  have hbefore := Session.areDetails_placed call (start i (some file) config) p
  have ho := ((start i (some file) config).client p key).areDetails_exchange call reply
  refine concludes_of_exchange ?_ ?_ ?_
  · simp only [Http.Plan.request?_map]
    rfl
  · intro e he
    simp only [Http.Plan.result_map]
    exact ⟨_, _, (start i (some file) config).shows_render e, succeeds_conclude hlog hbefore _ d ho he⟩
  · intro f hf
    simp only [Http.Plan.result_map]
    exact fails_conclude hlog hbefore _ d ho hf

end

/-- An answer without the listing that its code calls for, and a key that is not accepted. -/
theorem concludes_run_unlisted :
    letI := machine
    let plan := run ⟨[("HOME", "/root")]⟩ Disk.empty ["--api-key=k", "pug", "list"]
    let unlisted := plan.result (.answered ⟨200, none, "\x7b\"response\":1000\x7d".toUTF8.toList⟩)
    let forbidden := plan.result (.answered ⟨403, none, "no".toUTF8.toList⟩)
    (unlisted.exitCode = 0 ∧
      unlisted.output = "Response: PugListing (1000)\n\x7b\n  \"response\": 1000\n\x7d\n" ∧
      unlisted.errors = "[WARN ] Unexpected payload for PugListing: missing 'pugs'\n") ∧
    forbidden.exitCode = 1 ∧ forbidden.output = "" ∧
      forbidden.errors = "Error [medium]: ApiError: HTTP error: 403 no\n" ++
        "Hint: The server rejected the API key; check PUG_API_KEY\n" := by
  let := machine
  intro plan unlisted forbidden
  let e : Envelope := ⟨.pugListing, [("response", .ofUInt64 1000)]⟩
  have hload : Config.load Disk.empty "/root/.config/pug-client/config.toml" = .ok .empty :=
    Config.load_of_missing (by decide +kernel)
  have hparse : CommandLine.parse ⟨[("HOME", "/root")]⟩ ["--api-key=k", "pug", "list"] =
      .ok ⟨⟨false, none, none, some "k", none, false⟩, .call .listPugs⟩ := by decide +kernel
  have hconcludes := concludes_run hparse rfl rfl hload (p := .builtIn) rfl rfl (by decide)
  have hsent : plan.request? ≠ none := by
    rw [ne_eq, ← Option.isNone_iff_eq_none]
    decide +kernel
  constructor
  · have hcomes : e.ComesBy "ITF2Pug/List/"
        (.answered ⟨200, none, "\x7b\"response\":1000\x7d".toUTF8.toList⟩) := by
      refine ⟨_, rfl, by decide, ?_⟩
      have htext : Http.Response.text ⟨200, none, "\x7b\"response\":1000\x7d".toUTF8.toList⟩ =
          "\x7b\"response\":1000\x7d" := by decide +kernel
      rw [htext]
      rfl
    obtain ⟨text, warnings, hshows, hsucceeds⟩ := (hconcludes _).envelope hsent e hcomes
    obtain ⟨rfl, rfl⟩ := hshows.unfit rfl (.payload "PugListing" "missing 'pugs'") rfl
    refine ⟨((hconcludes _).exitCode).2 ⟨hsent, e, hcomes⟩, ?_, ?_⟩
    · exact hsucceeds.output.trans (by decide +kernel)
    · exact (hsucceeds.quiet (filter_logSetup rfl false)).trans (by decide +kernel)
  · let c := Client.new Settings.defaultUrl "k" 30
    have hmade : (c.exchange .listPugs).request? ≠ none := by
      rw [ne_eq, ← Option.isNone_iff_eq_none]
      decide +kernel
    have hread := c.readReply_of_refusal .listPugs (r := ⟨403, none, "no".toUTF8.toList⟩) (by decide)
    have hfault := (Client.result_of_sent hmade _).trans hread
    have hnone : ¬ ∃ e : Envelope,
        e.ComesBy "ITF2Pug/List/" (.answered ⟨403, none, "no".toUTF8.toList⟩) := by
      rintro ⟨e, r, hr, hstatus, -⟩
      cases hr
      exact absurd hstatus (by decide)
    obtain ⟨f, hf, -, hfails⟩ := (hconcludes _).failure fun h => hnone h.2
    cases hf.symm.trans hfault
    exact ⟨hfails.exitCode, hfails.output, (hfails.quiet (filter_logSetup rfl false)).trans (by decide +kernel)⟩

end Program

end PickupGame
