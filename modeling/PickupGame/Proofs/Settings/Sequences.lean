import PickupGame.Proofs.Settings.Saving

/-!
# Sequences of changes

What a sequence of changes comes to, from any settings. Changes that are refused leave no trace. A
profile is there if it was or if a change of it was accepted, and each of its fields has the value
that was accepted last. So the order matters only among changes of one field of one profile, and for
which profile becomes the default one.
-/

namespace PickupGame.Settings

namespace Change

/-- Puts a profile under its name. The first one becomes the default one. -/
def store (name : String) (p : Profile) : ExceptT Fault (StateM Config) Unit := do
  modify fun c => c.setProfile name p
  let c ← get
  if c.defaultProfile.isNone then
    set { c with defaultProfile := some name }

/-- A change made in place, step by step. When a step fails, the settings stay what they are by
then. -/
def make (s : Change) : ExceptT Fault (StateM Config) Unit := do
  let c ← get
  let p ← Config.setField ((c.profiles.get? s.name).getD .builtIn) s.key s.value
  store s.name p

/-- A change made in place either fails before it touches the settings, or leaves the new ones. -/
theorem run_make (s : Change) (c : Config) :
    s.make.run.run c =
      match c.setValue s.name s.key s.value with
      | .ok c' => (.ok (), c')
      | .error e => (.error e, c) := by
  obtain ⟨default, ps⟩ := c
  rw [Config.setValue]
  generalize hfield : Config.setField ((ps.get? s.name).getD .builtIn) s.key s.value = o
  have hmake : s.make.run.run ⟨default, ps⟩ =
      ((o : ExceptT Fault (StateM Config) Profile) >>= store s.name).run.run ⟨default, ps⟩ := by
    rw [← hfield]
    rfl
  rw [hmake]
  cases o with
  | error e => rfl
  | ok p => cases default <;> rfl

/-- It is a field that there is, and a value that may stand in it. -/
def isAccepted (s : Change) : Bool :=
  (s.key = "api_url" && (validateUrl s.value).toBool) ||
    (s.key = "timeout_seconds" && (validateTimeout s.value).toBool)

/-- It is a change of this field of this profile. -/
def isOn (name key : String) (s : Change) : Bool :=
  s.name = name && s.key = key

theorem isOn_iff {s : Change} {name key : String} :
    s.isOn name key = true ↔ s.name = name ∧ s.key = key := by
  simp [isOn]

theorem isAccepted_of_url {s : Change} (hkey : s.key = "api_url") :
    s.isAccepted = true ↔ validateUrl s.value = .ok () := by
  have hother : ¬ s.key = "timeout_seconds" := by rw [hkey]; decide
  cases h : validateUrl s.value <;> simp [isAccepted, hkey, h, Except.toBool]

theorem isAccepted_of_timeout {s : Change} (hkey : s.key = "timeout_seconds") :
    s.isAccepted = true ↔ ∃ n, validateTimeout s.value = .ok n := by
  cases h : validateTimeout s.value <;> simp [isAccepted, hkey, h, Except.toBool]

/-- Whether a change is accepted does not depend on the profile. -/
theorem exists_setField_iff (s : Change) (p : Profile) :
    (∃ q, Config.setField p s.key s.value = .ok q) ↔ s.isAccepted = true := by
  constructor
  · rintro ⟨q, hq⟩
    rcases Profile.setField_cases hq with ⟨hkey, hvalid, -⟩ | ⟨hkey, n, hvalid, -⟩
    · exact (isAccepted_of_url hkey).2 hvalid
    · exact (isAccepted_of_timeout hkey).2 ⟨n, hvalid⟩
  · intro h
    by_cases hurl : s.key = "api_url"
    · have hvalid := (isAccepted_of_url hurl).1 h
      exact ⟨_, by rw [Config.setField, if_pos hurl, hvalid]⟩
    · by_cases htimeout : s.key = "timeout_seconds"
      · obtain ⟨n, hvalid⟩ := (isAccepted_of_timeout htimeout).1 h
        exact ⟨_, by rw [Config.setField, if_neg hurl, if_pos htimeout, hvalid]⟩
      · simp [isAccepted, hurl, htimeout] at h

end Change

namespace Config

/-- The settings after a sequence of changes made in place, whether they succeed or fail. -/
def makeAll (c : Config) (ss : List Change) : Config :=
  ss.foldl (fun c s => (s.make.run.run c).2) c

/-- The changes of a sequence that are accepted as it goes along. -/
def accepted (c : Config) : List Change → List Change
  | [] => []
  | s :: ss =>
    match s.make.run.run c with
    | (.ok _, c') => s :: accepted c' ss
    | (.error _, c') => accepted c' ss

/-- The last accepted change of a field of a profile. -/
def last? (c : Config) (name key : String) (ss : List Change) : Option Change :=
  ((c.accepted ss).filter (Change.isOn name key)).getLast?

theorem makeAll_eq (c : Config) (ss : List Change) : c.makeAll ss = c.attemptAll ss := by
  have hmake (c : Config) (s : Change) : (s.make.run.run c).2 = c.attempt s := by
    rw [s.run_make, attempt]
    cases c.setValue s.name s.key s.value <;> rfl
  simp only [makeAll, attemptAll, hmake]

theorem exists_setValue_iff (c : Config) (s : Change) :
    (∃ c', c.setValue s.name s.key s.value = .ok c') ↔ s.isAccepted = true := by
  rw [← s.exists_setField_iff (c.held s.name)]
  constructor
  · rintro ⟨c', h⟩
    obtain ⟨p, hp, -⟩ := setValue_eq_ok h
    exact ⟨p, hp⟩
  · rintro ⟨p, hp⟩
    have hp' : setField ((c.profiles.get? s.name).getD .builtIn) s.key s.value = .ok p := hp
    exact ⟨_, by rw [setValue, hp']⟩

theorem accepted_eq_filter (c : Config) (ss : List Change) :
    c.accepted ss = ss.filter Change.isAccepted := by
  induction ss generalizing c with
  | nil => rfl
  | cons s ss ih =>
    rw [accepted, List.filter_cons, s.run_make]
    cases h : c.setValue s.name s.key s.value with
    | ok c' =>
      rw [if_pos ((c.exists_setValue_iff s).1 ⟨c', h⟩)]
      exact congrArg (s :: ·) (ih c')
    | error e =>
      rw [if_neg fun haccepted => ?_]
      · exact ih c
      · obtain ⟨c', hc'⟩ := (c.exists_setValue_iff s).2 haccepted
        rw [h] at hc'
        cases hc'

/-- The accepted changes are accepted also without the others, and come to the same. -/
theorem foldlM_accepted (c : Config) (ss : List Change) :
    (c.accepted ss).foldlM (fun c s => c.setValue s.name s.key s.value) c = .ok (c.attemptAll ss) := by
  induction ss generalizing c with
  | nil => rfl
  | cons s ss ih =>
    have hcons : c.attemptAll (s :: ss) = (c.attempt s).attemptAll ss := rfl
    rw [hcons, accepted, attempt, s.run_make]
    cases h : c.setValue s.name s.key s.value with
    | ok c' =>
      rw [List.foldlM_cons, h]
      exact ih c'
    | error e => exact ih c

/-! ## Fields -/

theorem getLast?_filter_cons {p : Change → Bool} (s : Change) (ss : List Change) :
    ((s :: ss).filter p).getLast? = ((ss.filter p).getLast?).or (if p s then some s else none) := by
  rw [List.filter_cons]
  cases p s with
  | false => simp
  | true =>
    rw [if_pos rfl, if_pos rfl, List.getLast?_cons]
    cases (ss.filter p).getLast? <;> rfl

theorem last?_cons (c : Config) (name key : String) (s : Change) (ss : List Change) :
    c.last? name key (s :: ss) =
      (c.last? name key ss).or (if s.isOn name key && s.isAccepted then some s else none) := by
  simp only [last?, accepted_eq_filter, List.filter_filter]
  exact getLast?_filter_cons s ss

theorem lastUrl?_eq (c : Config) (name : String) (ss : List Change) :
    lastUrl? name ss = (c.last? name "api_url" ss).map Change.value := by
  induction ss with
  | nil => rfl
  | cons s ss ih =>
    rw [lastUrl?, ih, last?_cons, Option.map_or, apply_ite (Option.map Change.value)]
    congr 1
    apply if_congr _ rfl rfl
    constructor
    · rintro ⟨hname, hkey, hvalid⟩
      simp [Change.isOn, hname, hkey, (Change.isAccepted_of_url hkey).2 hvalid]
    · intro h
      obtain ⟨hon, haccepted⟩ := Bool.and_eq_true_iff.1 h
      obtain ⟨hname, hkey⟩ := Change.isOn_iff.1 hon
      exact ⟨hname, hkey, (Change.isAccepted_of_url hkey).1 haccepted⟩

theorem exists_timeout_of_last? {c : Config} {name : String} {ss : List Change} {s : Change}
    (h : c.last? name "timeout_seconds" ss = some s) : ∃ n, validateTimeout s.value = .ok n := by
  rw [last?, accepted_eq_filter] at h
  obtain ⟨hmem, hon⟩ := List.mem_filter.1 (List.mem_of_getLast? h)
  exact (Change.isAccepted_of_timeout (Change.isOn_iff.1 hon).2).1 (List.mem_filter.1 hmem).2

theorem acceptedTimeout?_eq (name : String) (s : Change) :
    (if s.name = name then acceptedTimeout? s.key s.value else none) =
      (if s.isOn name "timeout_seconds" && s.isAccepted then some s else none).bind
        fun s => (validateTimeout s.value).toOption := by
  by_cases hname : s.name = name
  · by_cases hkey : s.key = "timeout_seconds"
    · cases hvalid : validateTimeout s.value <;>
        simp [acceptedTimeout?, Change.isOn, Change.isAccepted, hname, hkey, hvalid,
          Except.toOption, Except.toBool]
    · simp [acceptedTimeout?, Change.isOn, hkey]
  · simp [Change.isOn, hname]

theorem lastTimeout?_eq (c : Config) (name : String) (ss : List Change) :
    lastTimeout? name ss =
      (c.last? name "timeout_seconds" ss).bind fun s => (validateTimeout s.value).toOption := by
  induction ss with
  | nil => rfl
  | cons s ss ih =>
    rw [lastTimeout?, ih, last?_cons, acceptedTimeout?_eq]
    cases hlast : c.last? name "timeout_seconds" ss with
    | none => rfl
    | some t =>
      -- The last change was accepted, so it hides the one in front.
      obtain ⟨n, hn⟩ := exists_timeout_of_last? hlast
      simp [hn, Except.toOption]

/-! ## Profiles -/

theorem isSome_get?_attempt (c : Config) (s : Change) (name : String) :
    ((c.attempt s).profiles.get? name).isSome = true ↔
      (c.profiles.get? name).isSome = true ∨ s.isAccepted = true ∧ s.name = name := by
  rw [← c.exists_setValue_iff s, attempt]
  cases h : c.setValue s.name s.key s.value with
  | error e => simp
  | ok c' =>
    obtain ⟨p, -, rfl⟩ := setValue_eq_ok h
    by_cases hname : name = s.name
    · simp [hname]
    · simp [Profiles.get?_set_of_ne hname, Ne.symm hname]

theorem isSome_get?_attemptAll (c : Config) (ss : List Change) (name : String) :
    ((c.attemptAll ss).profiles.get? name).isSome = true ↔
      (c.profiles.get? name).isSome = true ∨ ∃ s ∈ c.accepted ss, s.name = name := by
  induction ss generalizing c with
  | nil => simp [attemptAll, accepted]
  | cons s ss ih =>
    have hcons : c.attemptAll (s :: ss) = (c.attempt s).attemptAll ss := rfl
    rw [hcons, ih, isSome_get?_attempt, or_assoc, accepted_eq_filter, accepted_eq_filter,
      List.filter_cons]
    cases s.isAccepted <;> simp

theorem defaultProfile_attempt (c : Config) (s : Change) :
    (c.attempt s).defaultProfile =
      c.defaultProfile.or (if s.isAccepted then some s.name else none) := by
  have haccepted := c.exists_setValue_iff s
  rw [attempt]
  cases h : c.setValue s.name s.key s.value with
  | error e =>
    have hrefused : ¬ s.isAccepted = true := by
      rw [← haccepted, h]
      rintro ⟨c', ⟨⟩⟩
    rw [if_neg hrefused, Option.or_none]
  | ok c' =>
    obtain ⟨p, -, rfl⟩ := setValue_eq_ok h
    rw [if_pos (haccepted.1 ⟨_, h⟩)]

theorem defaultProfile_attemptAll (c : Config) (ss : List Change) :
    (c.attemptAll ss).defaultProfile =
      c.defaultProfile.or ((c.accepted ss).head?.map Change.name) := by
  induction ss generalizing c with
  | nil => exact (Option.or_none).symm
  | cons s ss ih =>
    have hcons : c.attemptAll (s :: ss) = (c.attempt s).attemptAll ss := rfl
    rw [hcons, ih, defaultProfile_attempt, Option.or_assoc, accepted_eq_filter, accepted_eq_filter,
      List.filter_cons]
    cases s.isAccepted <;> rfl

theorem apiUrl_of_attemptAll {c : Config} {ss : List Change} {name : String} {p : Profile}
    (h : (c.attemptAll ss).profiles.get? name = some p) :
    p.apiUrl = ((c.last? name "api_url" ss).map fun s => Url.trimSlashes s.value).getD
      (c.held name).apiUrl := by
  have hheld : (c.attemptAll ss).held name = p := by rw [held, h, Option.getD_some]
  rw [← hheld, apiUrl_attemptAll, c.lastUrl?_eq, Option.map_map]
  rfl

theorem timeout_of_attemptAll {c : Config} {ss : List Change} {name : String} {p : Profile}
    (h : (c.attemptAll ss).profiles.get? name = some p) :
    p.timeout = ((c.last? name "timeout_seconds" ss).bind
      fun s => (validateTimeout s.value).toOption).or (c.held name).timeout := by
  have hheld : (c.attemptAll ss).held name = p := by rw [held, h, Option.getD_some]
  rw [← hheld, timeout_attemptAll, c.lastTimeout?_eq]

/-! ## Other orders -/

section Reordered

variable {c : Config} {ss ss' : List Change}
  (h : ∀ name key, (c.accepted ss').filter (Change.isOn name key) =
    (c.accepted ss).filter (Change.isOn name key))
include h

theorem last?_congr (name key : String) : c.last? name key ss' = c.last? name key ss :=
  congrArg List.getLast? (h name key)

theorem exists_accepted_congr (name : String) :
    (∃ s ∈ c.accepted ss', s.name = name) ↔ ∃ s ∈ c.accepted ss, s.name = name := by
  have hmem (s : Change) : s ∈ c.accepted ss' ↔ s ∈ c.accepted ss := by
    have hon : s.isOn s.name s.key = true := Change.isOn_iff.2 ⟨rfl, rfl⟩
    have hfilter := congrArg (s ∈ ·) (h s.name s.key)
    simpa [List.mem_filter, hon] using hfilter
  simp only [hmem]

theorem get?_attemptAll_congr (name : String) :
    (c.attemptAll ss').profiles.get? name = (c.attemptAll ss).profiles.get? name := by
  have hstored : ((c.attemptAll ss').profiles.get? name).isSome = true ↔
      ((c.attemptAll ss).profiles.get? name).isSome = true := by
    rw [isSome_get?_attemptAll, isSome_get?_attemptAll, exists_accepted_congr h]
  cases hp : (c.attemptAll ss').profiles.get? name with
  | none =>
    rw [hp, Option.isSome_none] at hstored
    exact (Option.not_isSome_iff_eq_none.1 fun hsome => Bool.false_ne_true (hstored.2 hsome)).symm
  | some p =>
    rw [hp, Option.isSome_some] at hstored
    obtain ⟨q, hq⟩ := Option.isSome_iff_exists.1 (hstored.1 rfl)
    have hurl : p.apiUrl = q.apiUrl := by
      rw [apiUrl_of_attemptAll hp, apiUrl_of_attemptAll hq, last?_congr h]
    have htimeout : p.timeout = q.timeout := by
      rw [timeout_of_attemptAll hp, timeout_of_attemptAll hq, last?_congr h]
    rw [hq]
    cases p
    cases q
    cases hurl
    cases htimeout
    rfl

/-- With a default profile, the order among changes of different fields makes no difference. -/
theorem same_attemptAll (hdefault : c.defaultProfile ≠ none) :
    (c.attemptAll ss').Same (c.attemptAll ss) := by
  refine ⟨?_, get?_attemptAll_congr h⟩
  obtain ⟨name, hname⟩ := Option.ne_none_iff_exists'.1 hdefault
  rw [defaultProfile_attemptAll, defaultProfile_attemptAll, hname]
  rfl

end Reordered

/-- What is known of the settings that a sequence of changes leaves. -/
structure Settled (c : Config) (ss : List Change) (c' : Config) : Prop where
  /-- A change that fails leaves everything as it is, whatever was made before. -/
  refused : ∀ before (s : Change) e c'', s.make.run.run (c.makeAll before) = (.error e, c'') →
    c'' = c.makeAll before
  /-- The others succeed by themselves, and come to the same. -/
  alone : (c.accepted ss).foldlM (fun c s => c.setValue s.name s.key s.value) c = .ok c'
  stored : ∀ name, (c'.profiles.get? name).isSome = true ↔
    (c.profiles.get? name).isSome = true ∨ ∃ s ∈ c.accepted ss, s.name = name
  apiUrl : ∀ name p, c'.profiles.get? name = some p →
    p.apiUrl = ((c.last? name "api_url" ss).map fun s => Url.trimSlashes s.value).getD
      ((c.profiles.get? name).getD .builtIn).apiUrl
  timeout : ∀ name p, c'.profiles.get? name = some p →
    p.timeout = ((c.last? name "timeout_seconds" ss).bind
      fun s => (validateTimeout s.value).toOption).or ((c.profiles.get? name).getD .builtIn).timeout
  defaultProfile : c'.defaultProfile = c.defaultProfile.or ((c.accepted ss).head?.map Change.name)
  /-- Accepted changes may come in any order that keeps those of each field of each profile. -/
  reordered : c.defaultProfile ≠ none → ∀ ss',
    (∀ name key, (c.accepted ss').filter (Change.isOn name key) =
      (c.accepted ss).filter (Change.isOn name key)) →
    (c.makeAll ss').Same c'

/-- Whatever the settings were and whatever was tried, each field is as it was set last. -/
theorem settled_makeAll (c : Config) (ss : List Change) : Settled c ss (c.makeAll ss) := by
  rw [makeAll_eq]
  constructor
  case refused =>
    intro before s e c'' h
    rw [s.run_make] at h
    split at h
    · cases h
    · exact (Prod.mk.inj h).2.symm
  case alone => exact c.foldlM_accepted ss
  case stored => exact c.isSome_get?_attemptAll ss
  case apiUrl => exact fun name p h => apiUrl_of_attemptAll h
  case timeout => exact fun name p h => timeout_of_attemptAll h
  case defaultProfile => exact c.defaultProfile_attemptAll ss
  case reordered =>
    intro hdefault ss' h
    rw [makeAll_eq]
    exact same_attemptAll h hdefault

end Config

end PickupGame.Settings
