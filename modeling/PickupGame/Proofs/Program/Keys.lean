import PickupGame.Machine
import PickupGame.Program
import PickupGame.Proofs.Api.Keys

/-!
# Runs under different keys

A key goes into the request of a run and nowhere else. Two runs that differ only in the keys they
are given print the same, report the same, leave the same files and end in the same way, but for the
text of what broke a connection.
-/

namespace PickupGame

open Api (DifferInKey)
open Storage (Disk)

/-! ## Sessions -/

namespace Session

/-- The same report, the reason for a failure of transport apart. -/
structure Report.Akin (r r' : Report) : Prop where
  config : r.session.config = r'.session.config
  disk : r.disk = r'.disk
  output : r.output = r'.output
  log : r.log = r'.log
  result : r.result = r'.result ∨ ∃ endpoint reason reason',
    r.result = .error (.api (.transport endpoint reason)) ∧
      r'.result = .error (.api (.transport endpoint reason'))

variable {s s' : Session} {key key' : String}

/-- Two sessions with keys, and all else the same. -/
structure SameButKey (key key' : String) (s s' : Session) : Prop where
  given : s.apiKey = some key
  rest : s' = { s with apiKey := some key' }
  usable : key ≠ "" ∧ key' ≠ ""

theorem conclude_akin [Display.Screen] (h : SameButKey key key' s s') (d : Disk) (log : List Log.Entry)
    {o o' : Api.Client.Outcome} (ho : o.Akin o') :
    (s.conclude d log o).Akin (s'.conclude d log o') := by
  obtain ⟨result, reports⟩ := o
  obtain ⟨result', reports'⟩ := o'
  obtain ⟨hlog, hresult⟩ := ho
  cases hlog
  rw [h.rest]
  rcases hresult with hresult | ⟨endpoint, reason, reason', hresult, hresult'⟩
  · cases hresult
    cases result with
    | ok e => exact ⟨rfl, rfl, rfl, rfl, .inl rfl⟩
    | error f => exact ⟨rfl, rfl, rfl, rfl, .inl rfl⟩
  · cases hresult
    cases hresult'
    exact ⟨rfl, rfl, rfl, rfl, .inr ⟨endpoint, reason, reason', rfl, rfl⟩⟩

theorem call_akin [Platform] (h : SameButKey key key' s s') (d : Disk) (c : Api.Call) :
    (s.call d c).Rel (DifferInKey key key') Report.Akin (s'.call d c) := by
  have hkey : Api.usableKey? s.apiKey = some key := by simp [Api.usableKey?, h.given, h.usable.1]
  have hkey' : Api.usableKey? s'.apiKey = some key' := by simp [Api.usableKey?, h.rest, h.usable.2]
  have hconclude (log : List Log.Entry) (o o' : Api.Client.Outcome) (ho : o.Akin o') :
      (s.conclude d log o).Akin (s'.conclude d log o') := conclude_akin h d log ho
  have hsame : s'.config = s.config ∧ s'.profile = s.profile ∧ s'.url = s.url := by simp [h.rest]
  obtain ⟨hconfig, hprofile, hurl⟩ := hsame
  unfold call access
  rw [hconfig, hprofile, hkey, hkey']
  cases s.config.profile s.profile with
  | error e => exact .done ⟨hconfig.symm, rfl, rfl, rfl, .inl rfl⟩
  | ok p =>
    have haddress : s'.address p = s.address p := by rw [address, address, hurl]
    have hplace : s'.placeEntry p = s.placeEntry p := by
      rw [placeEntry, placeEntry, hprofile, haddress]
    simp only [hplace]
    have hbase : (s.client p key).baseUrl = (s'.client p key').baseUrl := by
      simp only [client, Api.Client.new, haddress]
    exact (Api.Client.exchange_akin hbase rfl c).map (hconclude _)

/-- What a command does depends on the key by the request alone. -/
theorem perform_akin [Platform] (h : SameButKey key key' s s') (d : Disk) (command : CommandLine.Command) :
    (s.perform d command).Rel (DifferInKey key key') Report.Akin (s'.perform d command) := by
  cases command with
  | call c => exact call_akin h d c
  | showConfig =>
    have hkey : (Api.usableKey? s'.apiKey).isSome = (Api.usableKey? s.apiKey).isSome := by
      simp [Api.usableKey?, h.given, h.rest, h.usable]
    have hlisting : s.listing = s'.listing := by
      rw [listing, listing, hkey, h.rest]
    exact .done ⟨by rw [h.rest], rfl, hlisting, rfl, .inl rfl⟩
  | setConfig name value =>
    refine .done ?_
    rw [h.rest, set, set]
    cases s.config.setValue s.profile name value with
    | error e => exact ⟨rfl, rfl, rfl, rfl, .inl rfl⟩
    | ok config =>
      simp only [save]
      cases s.file with
      | none => exact ⟨rfl, rfl, rfl, rfl, .inl rfl⟩
      | some path =>
        simp only
        split <;> exact ⟨rfl, rfl, rfl, rfl, .inl rfl⟩

end Session

/-! ## Runs -/

namespace Program

open CommandLine (Environment Invocation)
open Settings (Config)

/-- The same outcome, but for the reason in the report on a failure of transport. -/
structure Outcome.Akin (o o' : Outcome) : Prop where
  exitCode : o.exitCode = o'.exitCode
  output : o.output = o'.output
  errors : o.errors = o'.errors ∨ ∃ logged endpoint reason reason',
    o.errors = logged ++ ended (Failure.api (.transport endpoint reason)).report ∧
      o'.errors = logged ++ ended (Failure.api (.transport endpoint reason')).report
  disk : o.disk = o'.disk

theorem Outcome.Akin.refl (o : Outcome) : o.Akin o := ⟨rfl, rfl, .inl rfl, rfl⟩

theorem finish_akin [Log.Logger] (setup : Log.Setup) (log : List Log.Entry) {r r' : Session.Report}
    (h : r.Akin r') : (finish setup log r).Akin (finish setup log r') := by
  obtain ⟨session, disk, output, reports, result⟩ := r
  obtain ⟨session', disk', output', reports', result'⟩ := r'
  obtain ⟨-, hdisk, houtput, hlog, hresult⟩ := h
  cases hdisk
  cases houtput
  cases hlog
  rcases hresult with hresult | ⟨endpoint, reason, reason', hresult, hresult'⟩
  · cases hresult
    cases result with
    | ok u => exact .refl _
    | error f => exact .refl _
  · cases hresult
    cases hresult'
    exact ⟨rfl, rfl, .inr ⟨_, endpoint, reason, reason', rfl, rfl⟩, rfl⟩

theorem startLog_start {i i' : Invocation} {key : Option String}
    (hsame : i' = { i with options := { i.options with apiKey := key } }) (file : Option String)
    (config : Config) : startLog i (start i file config) = startLog i' (start i' file config) := by
  rw [hsame]
  rfl

end Program

end PickupGame
