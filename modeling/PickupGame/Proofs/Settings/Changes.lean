import PickupGame.Proofs.Settings.Validation

/-!
# Changes of settings

Sequences of changes, some of which may be refused. What a sequence makes of a profile is decided by
the changes of that profile alone. The address that is kept is not the one that was validated: the
slashes at its end are gone, and a bare scheme is no address then.
-/

namespace PickupGame.Settings

/-- A change of one field of a profile. -/
structure Change where
  name : String
  key : String
  value : String

/-- The profile after a change that may be refused. -/
def Profile.attempt (p : Profile) (key value : String) : Profile :=
  match Config.setField p key value with
  | .ok p => p
  | .error _ => p

/-! ## One profile -/

namespace Profile

variable (p : Profile) (key value : String)

theorem setField_cases {p q : Profile} {key value : String}
    (h : Config.setField p key value = .ok q) :
    (key = "api_url" ∧ validateUrl value = .ok () ∧ q = { p with apiUrl := Url.trimSlashes value }) ∨
      (key = "timeout_seconds" ∧
        ∃ n, validateTimeout value = .ok n ∧ q = { p with timeout := some n }) := by
  unfold Config.setField at h
  split at h
  · rename_i hkey
    split at h
    · rename_i hvalid
      cases h
      exact .inl ⟨hkey, hvalid, rfl⟩
    · cases h
  · split at h
    · rename_i hkey
      split at h
      · rename_i n hvalid
        cases h
        exact .inr ⟨hkey, n, hvalid, rfl⟩
      · cases h
    · cases h

theorem apiUrl_attempt :
    (p.attempt key value).apiUrl =
      if key = "api_url" ∧ validateUrl value = .ok () then Url.trimSlashes value else p.apiUrl := by
  unfold attempt
  cases h : Config.setField p key value with
  | ok q =>
    rcases setField_cases h with ⟨hkey, hvalid, rfl⟩ | ⟨rfl, n, hvalid, rfl⟩
    · rw [if_pos ⟨hkey, hvalid⟩]
    · rw [if_neg (by simp)]
  | error e =>
    rw [if_neg]
    rintro ⟨rfl, hvalid⟩
    rw [Config.setField, if_pos rfl, hvalid] at h
    cases h

theorem one_le_timeout_attempt {p : Profile} (hp : ∀ n, p.timeout = some n → 1 ≤ n.toNat)
    (key value : String) : ∀ n, (p.attempt key value).timeout = some n → 1 ≤ n.toNat := by
  intro n hn
  unfold attempt at hn
  cases h : Config.setField p key value with
  | ok q =>
    rw [h] at hn
    rcases setField_cases h with ⟨-, -, rfl⟩ | ⟨-, m, hvalid, rfl⟩
    · exact hp n hn
    · cases hn
      exact one_le_of_validateTimeout hvalid
  | error e =>
    rw [h] at hn
    exact hp n hn

end Profile

namespace Config

/-! ## All profiles -/

/-- The profile that a change of a name starts from. -/
def held (c : Config) (name : String) : Profile :=
  (c.profiles.get? name).getD .builtIn

/-- At most one field of one profile is different, and a default profile stays the default one. -/
structure ChangedOnly (c c' : Config) (name key : String) : Prop where
  others : ∀ other, other ≠ name → c'.profiles.get? other = c.profiles.get? other
  apiUrl : key ≠ "api_url" → (c'.held name).apiUrl = (c.held name).apiUrl
  timeout : key ≠ "timeout_seconds" → (c'.held name).timeout = (c.held name).timeout
  defaultProfile : ∀ default, c.defaultProfile = some default → c'.defaultProfile = some default

theorem setValue_eq_ok {c c' : Config} {name key value : String}
    (h : c.setValue name key value = .ok c') :
    ∃ p, setField (c.held name) key value = .ok p ∧
      c' = ⟨c.defaultProfile.or (some name), c.profiles.set name p⟩ := by
  unfold setValue at h
  split at h
  · rename_i p hp
    cases h
    exact ⟨p, hp, rfl⟩
  · cases h

theorem changedOnly_setValue {c c' : Config} {name key value : String}
    (h : c.setValue name key value = .ok c') : c.ChangedOnly c' name key := by
  obtain ⟨p, hp, rfl⟩ := setValue_eq_ok h
  have hheld : held ⟨c.defaultProfile.or (some name), c.profiles.set name p⟩ name = p := by
    simp [held]
  constructor
  · intro other hother
    exact Profiles.get?_set_of_ne hother c.profiles p
  · intro hkey
    rw [hheld]
    rcases Profile.setField_cases hp with ⟨hurl, -, -⟩ | ⟨-, n, -, rfl⟩
    · exact absurd hurl hkey
    · rfl
  · intro hkey
    rw [hheld]
    rcases Profile.setField_cases hp with ⟨-, -, rfl⟩ | ⟨htimeout, -⟩
    · rfl
    · exact absurd htimeout hkey
  · intro default hdefault
    simp [hdefault]

def attempt (c : Config) (s : Change) : Config :=
  match c.setValue s.name s.key s.value with
  | .ok c => c
  | .error _ => c

def attemptAll (c : Config) (ss : List Change) : Config :=
  ss.foldl attempt c

theorem attemptAll_append (c : Config) (ss ss' : List Change) :
    c.attemptAll (ss ++ ss') = (c.attemptAll ss).attemptAll ss' :=
  List.foldl_append

theorem held_attempt (c : Config) (s : Change) (name : String) :
    (c.attempt s).held name =
      if s.name = name then (c.held name).attempt s.key s.value else c.held name := by
  unfold attempt setValue Profile.attempt
  by_cases hname : s.name = name
  · subst hname
    rw [if_pos rfl]
    cases h : setField (c.held s.name) s.key s.value with
    | ok p =>
      have hset : setField ((c.profiles.get? s.name).getD .builtIn) s.key s.value = .ok p := h
      simp [hset, held]
    | error e =>
      have hset : setField ((c.profiles.get? s.name).getD .builtIn) s.key s.value = .error e := h
      simp [hset]
  · rw [if_neg hname]
    cases setField ((c.profiles.get? s.name).getD .builtIn) s.key s.value with
    | ok p => simp [held, Profiles.get?_set_of_ne (Ne.symm hname)]
    | error e => rfl

/-- The address given to a name by the last of the changes that were accepted. -/
def lastUrl? (name : String) : List Change → Option String
  | [] => none
  | s :: ss =>
    (lastUrl? name ss).or
      (if s.name = name ∧ s.key = "api_url" ∧ validateUrl s.value = .ok () then some s.value
        else none)

theorem validateUrl_of_lastUrl? {name url : String} {ss : List Change}
    (h : lastUrl? name ss = some url) : validateUrl url = .ok () := by
  induction ss with
  | nil => cases h
  | cons s ss ih =>
    rw [lastUrl?, Option.or_eq_some_iff] at h
    rcases h with h | ⟨-, h⟩
    · exact ih h
    · split at h
      · rename_i haccepted
        cases h
        exact haccepted.2.2
      · cases h

theorem apiUrl_attemptAll (c : Config) (ss : List Change) (name : String) :
    ((c.attemptAll ss).held name).apiUrl =
      ((lastUrl? name ss).map Url.trimSlashes).getD (c.held name).apiUrl := by
  induction ss generalizing c with
  | nil => rfl
  | cons s ss ih =>
    have hcons : c.attemptAll (s :: ss) = (c.attempt s).attemptAll ss := rfl
    rw [hcons, ih, held_attempt, lastUrl?]
    -- An address given later hides the one that is given here.
    cases lastUrl? name ss with
    | some url => rfl
    | none =>
      by_cases hname : s.name = name
      · rw [if_pos hname, Profile.apiUrl_attempt]
        by_cases hurl : s.key = "api_url" ∧ validateUrl s.value = .ok ()
        · rw [if_pos hurl, if_pos ⟨hname, hurl⟩]
          rfl
        · rw [if_neg hurl, if_neg (fun h => hurl h.2)]
          rfl
      · rw [if_neg hname, if_neg (fun h => hname h.1)]
        rfl

theorem one_le_timeout_attemptAll {c : Config} {name : String}
    (hc : ∀ n, (c.held name).timeout = some n → 1 ≤ n.toNat) (ss : List Change) :
    ∀ n, ((c.attemptAll ss).held name).timeout = some n → 1 ≤ n.toNat := by
  induction ss generalizing c with
  | nil => exact hc
  | cons s ss ih =>
    apply ih
    rw [held_attempt]
    split
    · exact Profile.one_le_timeout_attempt hc s.key s.value
    · exact hc

/-- A profile is only there with a default one. -/
def HasDefault (c : Config) : Prop :=
  ∀ name p, c.profiles.get? name = some p → c.defaultProfile ≠ none

theorem hasDefault_attempt {c : Config} (hc : c.HasDefault) (s : Change) :
    (c.attempt s).HasDefault := by
  unfold attempt
  cases h : c.setValue s.name s.key s.value with
  | error e => exact hc
  | ok c' =>
    obtain ⟨p, -, rfl⟩ := setValue_eq_ok h
    intro name q _
    cases c.defaultProfile <;> simp

theorem hasDefault_attemptAll {c : Config} (hc : c.HasDefault) (ss : List Change) :
    (c.attemptAll ss).HasDefault := by
  induction ss generalizing c with
  | nil => exact hc
  | cons s ss ih => exact ih (hasDefault_attempt hc s)

/-! ## Stored addresses -/

theorem put_self {es : List (String × Profile)} {name : String} {p : Profile}
    (h : es.lookup name = some p) : Profiles.put name p es = es := by
  induction es with
  | nil => cases h
  | cons e es ih =>
    obtain ⟨n, q⟩ := e
    unfold Profiles.put
    rw [List.lookup_cons] at h
    by_cases hn : n = name
    · subst hn
      rw [beq_self_eq_true] at h
      cases h
      rw [if_pos rfl]
    · have hb : (name == n) = false := by simpa using Ne.symm hn
      rw [hb] at h
      rw [if_neg hn, ih h]

/-- Giving a profile the address that it has is accepted or not as the address itself is. -/
theorem setValue_self {c : Config} (hc : c.HasDefault) {name : String} {p : Profile}
    (hp : c.profiles.get? name = some p) (hslash : p.apiUrl.toList.getLast? ≠ some '/') :
    c.setValue name "api_url" p.apiUrl = .ok c ↔ validateUrl p.apiUrl = .ok () := by
  unfold setValue setField
  rw [hp, Option.getD_some, if_pos rfl]
  cases hvalid : validateUrl p.apiUrl with
  | error e => simp
  | ok u =>
    have hset : c.profiles.set name p = c.profiles := by
      obtain ⟨default, entries, nodup⟩ := c
      have hput := put_self hp
      simp only [Profiles.set, hput]
    have hdefault : c.defaultProfile.or (some name) = c.defaultProfile := by
      have hne := hc name p hp
      cases h : c.defaultProfile with
      | none => exact absurd h hne
      | some n => rfl
    simp [Url.trimSlashes_of_getLast? hslash, hset, hdefault]

/-- Whatever changes were tried, stored addresses end in no slash and stored timeouts are positive.
A stored address is accepted again, and changes nothing then, just if the last one given was not
bare. -/
theorem attemptAll_stored {ss : List Change} {name : String} {p : Profile}
    (hp : (Config.empty.attemptAll ss).profiles.get? name = some p) :
    p.apiUrl.toList.getLast? ≠ some '/' ∧
      (∀ n, p.timeout = some n → 1 ≤ n.toNat) ∧
      (validateUrl p.apiUrl = .ok () ↔ ∀ url, lastUrl? name ss = some url → ¬ IsBare url) ∧
      ((Config.empty.attemptAll ss).setValue name "api_url" p.apiUrl =
          .ok (Config.empty.attemptAll ss) ↔
        ∀ url, lastUrl? name ss = some url → ¬ IsBare url) := by
  have hheld : (Config.empty.attemptAll ss).held name = p := by rw [held, hp, Option.getD_some]
  have hurl : p.apiUrl = ((lastUrl? name ss).map Url.trimSlashes).getD defaultUrl := by
    rw [← hheld]
    exact apiUrl_attemptAll .empty ss name
  have hslash : p.apiUrl.toList.getLast? ≠ some '/' := by
    rw [hurl]
    cases lastUrl? name ss with
    | none => decide +kernel
    | some url => exact Url.getLast?_trimSlashes url
  have htimeout : ∀ n, p.timeout = some n → 1 ≤ n.toNat := by
    rw [← hheld]
    apply one_le_timeout_attemptAll
    intro n hn
    cases hn
  have hvalid : validateUrl p.apiUrl = .ok () ↔
      ∀ url, lastUrl? name ss = some url → ¬ IsBare url := by
    rw [hurl]
    cases hlast : lastUrl? name ss with
    | none =>
      constructor
      · intro _ url h
        cases h
      · intro _
        decide +kernel
    | some url =>
      rw [Option.map_some, Option.getD_some, validateUrl_trimSlashes (validateUrl_of_lastUrl? hlast)]
      constructor
      · rintro h url' ⟨⟩
        exact h
      · intro h
        exact h url rfl
  have hdefault : (Config.empty.attemptAll ss).HasDefault := by
    apply hasDefault_attemptAll
    intro name p h
    cases h
  exact ⟨hslash, htimeout, hvalid, (setValue_self hdefault hp hslash).trans hvalid⟩

/-- A bare scheme is accepted, but what is kept of it is refused. -/
theorem attemptAll_stored_bare :
    let ss : List Change := [⟨"lan", "api_url", "http://"⟩]
    (Config.empty.attemptAll ss).profiles.get? "lan" = some ⟨"http:", none⟩ ∧
      validateUrl "http:" ≠ .ok () := by
  intro ss
  have hp : (Config.empty.attemptAll ss).profiles.get? "lan" = some ⟨"http:", none⟩ := by
    decide +kernel
  have hbare : IsBare "http://" := ⟨"http://".toList, by simp [urlSchemes], 0, by simp⟩
  refine ⟨hp, ?_⟩
  intro hvalid
  have hlast : lastUrl? "lan" ss = some "http://" := by decide +kernel
  exact (attemptAll_stored hp).2.2.1.1 hvalid "http://" hlast hbare

end Config

end PickupGame.Settings
