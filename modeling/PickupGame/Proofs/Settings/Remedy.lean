import PickupGame.Proofs.Settings.Default

/-!
# The remedy for a missing profile

A change of the profile that was resolved makes it if it was missing, and the same request is
resolved to it afterwards. Besides the field that is set nothing else is found to be different, with
one exception: the built-in profile is no longer there for `default` once a profile is stored.
-/

namespace PickupGame.Settings

namespace Config

variable {c c' written : Config} {name key value : String} {requested : Option String}

/-! ## What is found -/

/-- The profile that is found under a name is the one that a change of it starts from. -/
theorem held_of_profile {p : Profile} (h : c.profile name = .ok p) : c.held name = p := by
  unfold profile at h
  unfold held
  split at h
  · rename_i q hq
    cases h
    rw [hq, Option.getD_some]
  · rename_i hnone
    split at h
    · cases h
      rw [hnone, Option.getD_none]
    · cases h

/-- A change of the profile that is asked for leaves it the one that is. -/
theorem resolveName_of_setValue (h : c.setValue (c.resolveName requested) key value = .ok c')
    (hsame : written.Same c') : written.resolveName requested = c.resolveName requested := by
  obtain ⟨p, -, rfl⟩ := setValue_eq_ok h
  rw [resolveName, hsame.defaultProfile]
  unfold resolveName
  cases requested <;> cases c.defaultProfile <;> rfl

/-- A profile that was set is stored, whether there was one before or not. -/
theorem get?_of_setValue (h : c.setValue name key value = .ok c') :
    c'.profiles.get? name = some (c'.held name) := by
  obtain ⟨p, -, rfl⟩ := setValue_eq_ok h
  simp [held]

theorem profile_of_get? {p : Profile} (h : c.profiles.get? name = some p) :
    c.profile name = .ok p := by
  simp [profile, h]

/-- Of another name, the profile that is stored is found as before, and the built-in one is not. -/
theorem profile_of_setValue_of_ne (h : c.setValue name key value = .ok c') {other : String}
    (hother : other ≠ name) :
    c'.profile other = if other = defaultName ∧ c.profiles.isEmpty = true
      then .error (.profileNotFound other) else c.profile other := by
  have hstored : c'.profiles.isEmpty = false :=
    Profiles.isEmpty_eq_false.2 ⟨name, _, get?_of_setValue h⟩
  unfold profile
  rw [(changedOnly_setValue h).others other hother, hstored]
  cases hget : c.profiles.get? other with
  | some p =>
    have hfull : c.profiles.isEmpty = false := Profiles.isEmpty_eq_false.2 ⟨other, p, hget⟩
    simp [hfull]
  | none => by_cases hbuiltIn : other = defaultName ∧ c.profiles.isEmpty = true <;> simp [hbuiltIn]

/-! ## What a change remedies -/

/-- The profile for a request is found where a field of it was set, and the rest is found as it
was. -/
structure Remedied (c c' : Config) (requested : Option String) (key : String) : Prop where
  name : c'.resolveName requested = c.resolveName requested
  found : ∃ p', c'.profile (c'.resolveName requested) = .ok p' ∧
    ∀ p, c.profile (c.resolveName requested) = .ok p →
      (key ≠ "api_url" → p'.apiUrl = p.apiUrl) ∧ (key ≠ "timeout_seconds" → p'.timeout = p.timeout)
  others : ∀ other, other ≠ c.resolveName requested →
    c'.profile other = if other = defaultName ∧ c.profiles.isEmpty = true
      then .error (.profileNotFound other) else c.profile other

/-- An address makes the profile that a request asks for, whatever the settings are, and every
change that is accepted does the same. -/
theorem remedied_setValue (c : Config) (requested : Option String) :
    (∀ url, validateUrl url = .ok () →
      ∃ c', c.setValue (c.resolveName requested) "api_url" url = .ok c') ∧
    ∀ key value c', c.setValue (c.resolveName requested) key value = .ok c' →
      c.Remedied c' requested key := by
  refine ⟨fun url hvalid => by simp [setValue, setField, hvalid], fun key value c' h => ?_⟩
  have hname : c'.resolveName requested = c.resolveName requested :=
    resolveName_of_setValue h ⟨rfl, fun _ => rfl⟩
  constructor
  case name => exact hname
  case found =>
    refine ⟨c'.held (c.resolveName requested), ?_, fun p hp => ?_⟩
    · rw [hname]
      exact profile_of_get? (get?_of_setValue h)
    · obtain ⟨-, hurl, htimeout, -⟩ := changedOnly_setValue h
      rw [held_of_profile hp] at hurl htimeout
      exact ⟨hurl, htimeout⟩
  case others => exact fun other hother => profile_of_setValue_of_ne h hother

/-- A default profile that is not stored is made by an address, beside the one that is. -/
theorem remedied_setValue_dangling :
    let c : Config := ⟨some "lan", ⟨[("eu", ⟨"http://eu.example.test", some 5⟩)], by decide⟩⟩
    c.profile (c.resolveName none) = .error (.profileNotFound "lan") ∧
      ∃ c', c.setValue (c.resolveName none) "api_url" "http://10.0.0.5" = .ok c' ∧
        c'.resolveName none = "lan" ∧ (∃ p', c'.profile "lan" = .ok p') ∧
        c'.profile "eu" = .ok ⟨"http://eu.example.test", some 5⟩ := by
  intro c
  have hvalid : validateUrl "http://10.0.0.5" = .ok () := by decide +kernel
  obtain ⟨hset, hremedied⟩ := remedied_setValue c none
  obtain ⟨c', hc'⟩ := hset _ hvalid
  obtain ⟨hname, ⟨p', hp', -⟩, hothers⟩ := hremedied _ _ c' hc'
  rw [hname] at hp'
  exact ⟨rfl, c', hc', hname, ⟨p', hp'⟩, hothers "eu" (by decide)⟩

end Config

end PickupGame.Settings
