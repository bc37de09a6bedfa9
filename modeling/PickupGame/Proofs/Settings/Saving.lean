import PickupGame.Proofs.Settings.Changes
import PickupGame.Proofs.Settings.File
import PickupGame.Proofs.Toml.Ranges

/-!
# Saving what was accepted

A timeout is accepted up to the limit of 64 bits, but a TOML integer ends at half of that. Settings
that were loaded fit. After changes they can be saved just if the last timeout given to each profile
fits.
-/

namespace PickupGame.Settings

open PickupGame.Storage
open PickupGame.Toml (Entries)

/-! ## What was loaded -/

/-- The timeout can be written as a TOML integer. -/
def Profile.Fits (p : Profile) : Prop :=
  ∀ n, p.timeout = some n → n.toNat ≤ Numeral.maxI64

theorem le_of_timeoutOfToml? {v : Toml.Value} (hv : v.Bounded) {n : UInt64}
    (h : timeoutOfToml? v = some n) : n.toNat ≤ Numeral.maxI64 := by
  cases hv with
  | @integer m low high =>
    simp only [timeoutOfToml?] at h
    split at h
    · cases h
      have hle : (UInt64.ofNat m.toNat).toNat ≤ m.toNat := by
        rw [UInt64.toNat_ofNat']
        exact Nat.mod_le _ _
      omega
    · cases h
  | _ => cases h

theorem Profile.fits_of_ofToml? {v : Toml.Value} (hv : v.Bounded) {p : Profile}
    (h : Profile.ofToml? v = some p) : p.Fits := by
  unfold ofToml? at h
  split at h
  · rename_i form es
    cases hv with
    | table hes =>
      split at h
      · cases h
        nofun
      · rename_i hget
        obtain ⟨n, hn, rfl⟩ := Option.map_eq_some_iff.1 h
        rintro _ ⟨⟩
        exact le_of_timeoutOfToml? (Entries.Bounded.get? hes hget) hn
      · cases h
  · cases hv with
    | array hitems =>
      obtain ⟨n, hn, rfl⟩ := Option.map_eq_some_iff.1 h
      rintro _ ⟨⟩
      exact le_of_timeoutOfToml? (hitems _ (by simp)) hn
  · cases h

theorem Profiles.fits_of_addToml? {ps qs : Profiles} {es : Entries}
    (hps : ∀ name p, ps.get? name = some p → p.Fits) (hes : es.Bounded)
    (h : ps.addToml? es = some qs) : ∀ name p, qs.get? name = some p → p.Fits := by
  induction es generalizing ps with
  | nil =>
    cases h
    exact hps
  | cons e es ih =>
    obtain ⟨name, v⟩ := e
    obtain ⟨hv, hes⟩ := List.forall_mem_cons.1 hes
    unfold addToml? at h
    split at h
    · rename_i p hp
      apply ih _ hes h
      intro other q hq
      by_cases hother : other = name
      · subst hother
        rw [get?_set_self] at hq
        cases hq
        exact Profile.fits_of_ofToml? hv hp
      · rw [get?_set_of_ne hother] at hq
        exact hps other q hq
    · cases h

namespace Config

theorem fits_of_ofText? {text : String} {c : Config} (h : Config.ofText? text = some c) :
    ∀ name p, c.profiles.get? name = some p → p.Fits := by
  obtain ⟨es, hes, hc⟩ := Option.bind_eq_some_iff.1 h
  have hbounded := Toml.bounded_parse? hes
  have hprofiles {ps : Profiles} (h : Profiles.ofToml? (Entries.get? es "profiles") = some ps) :
      ∀ name p, ps.get? name = some p → p.Fits := by
    unfold Profiles.ofToml? at h
    split at h
    · cases h
      intro name p hp
      cases hp
    · rename_i hget
      cases hbounded.get? hget with
      | table hentries => exact Profiles.fits_of_addToml? (fun name p hp => by cases hp) hentries h
    · cases h
  unfold ofToml? at hc
  split at hc
  · rename_i hps
    cases hc
    exact hprofiles hps
  · rename_i hps
    cases hc
    exact hprofiles hps
  · cases hc

theorem isWritable_of_load {d : Disk} {path : String} {c : Config}
    (h : Config.load d path = .ok c) : c.isWritable = true := by
  rw [isWritable_iff]
  intro name p n hp hn
  unfold load at h
  split at h
  · split at h
    · cases h
    · split at h
      · rename_i hread
        cases h
        exact fits_of_ofText? hread name p hp n hn
      · cases h
  · cases h
    cases hp

end Config

/-! ## What was changed -/

/-- The timeout that a change gives, if it is one of the timeout and accepted. -/
def acceptedTimeout? (key value : String) : Option UInt64 :=
  if key = "timeout_seconds" then (validateTimeout value).toOption else none

theorem Profile.timeout_attempt (p : Profile) (key value : String) :
    (p.attempt key value).timeout = (acceptedTimeout? key value).or p.timeout := by
  unfold attempt
  cases h : Config.setField p key value with
  | ok q =>
    rcases setField_cases h with ⟨rfl, -, rfl⟩ | ⟨rfl, n, hvalid, rfl⟩
    · rfl
    · simp [acceptedTimeout?, hvalid, Except.toOption]
  | error e =>
    have hnone : acceptedTimeout? key value = none := by
      unfold acceptedTimeout?
      split
      · rename_i hkey
        subst hkey
        rw [Config.setField, if_neg (by decide), if_pos rfl] at h
        cases hvalid : validateTimeout value with
        | ok n =>
          rw [hvalid] at h
          cases h
        | error e => rfl
      · rfl
    rw [hnone, Option.none_or]

namespace Config

/-- The timeout given to a name by the last of the changes that were accepted. -/
def lastTimeout? (name : String) : List Change → Option UInt64
  | [] => none
  | s :: ss =>
    (lastTimeout? name ss).or (if s.name = name then acceptedTimeout? s.key s.value else none)

theorem timeout_attemptAll (c : Config) (ss : List Change) (name : String) :
    ((c.attemptAll ss).held name).timeout = (lastTimeout? name ss).or (c.held name).timeout := by
  induction ss generalizing c with
  | nil => rfl
  | cons s ss ih =>
    have hcons : c.attemptAll (s :: ss) = (c.attempt s).attemptAll ss := rfl
    rw [hcons, ih, held_attempt, lastTimeout?, Option.or_assoc]
    -- Only a change of this name gives it a timeout.
    split
    · rw [Profile.timeout_attempt]
    · rfl

/-- A profile that is not stored has no timeout, so it makes no difference to look at all names. -/
theorem isWritable_iff_held {c : Config} : c.isWritable = true ↔ ∀ name, (c.held name).Fits := by
  rw [isWritable_iff]
  constructor
  · intro h name n hn
    unfold held at hn
    cases hp : c.profiles.get? name with
    | none =>
      rw [hp] at hn
      cases hn
    | some p =>
      rw [hp] at hn
      exact h name p n hp hn
  · intro h name p n hp hn
    apply h name n
    rw [held, hp]
    exact hn

theorem isWritable_attemptAll {c : Config} (hc : c.isWritable = true) (ss : List Change) :
    (c.attemptAll ss).isWritable = true ↔
      ∀ name n, lastTimeout? name ss = some n → n.toNat ≤ Numeral.maxI64 := by
  rw [isWritable_iff_held] at hc ⊢
  constructor
  · intro h name n hn
    apply h name n
    rw [timeout_attemptAll, hn, Option.some_or]
  · intro h name n hn
    rw [timeout_attemptAll, Option.or_eq_some_iff] at hn
    rcases hn with hn | ⟨-, hn⟩
    · exact h name n hn
    · exact hc name n hn

theorem save_of_not_isWritable {c : Config} (h : c.isWritable = false) {d : Disk} {path : String}
    (hpath : d.IsWritable path) :
    (c.save d path).2 = .error (.saveFailed "out-of-range value for u64 type") := by
  obtain ⟨d', hcreate, -⟩ := hpath
  simp [save, hcreate, h]

/-- Settings that fit, as those do that were loaded, can be saved after any changes just if the last
timeout given to each profile fits. Else saving refuses them. -/
theorem save_attemptAll {c written : Config} {ss : List Change} {d : Disk} {path : String}
    (hc : c.isWritable = true ∨ ∃ d path, Config.load d path = .ok c)
    (hsame : written.Same (c.attemptAll ss)) (hpath : d.IsWritable path) :
    ((written.save d path).2 = .ok () ↔
        ∀ name n, lastTimeout? name ss = some n → n.toNat ≤ Numeral.maxI64) ∧
      ((written.save d path).2 = .ok () ∨
        (written.save d path).2 = .error (.saveFailed "out-of-range value for u64 type")) := by
  have hfits : c.isWritable = true := by
    rcases hc with hc | ⟨d, path, hload⟩
    · exact hc
    · exact isWritable_of_load hload
  have hwritten : written.isWritable = (c.attemptAll ss).isWritable := by
    rw [Bool.eq_iff_iff, isWritable_iff, isWritable_iff]
    simp only [hsame.profiles]
  rw [← isWritable_attemptAll hfits, ← hwritten]
  cases h : written.isWritable with
  | true =>
    have hsave := save_of_isWritable h hpath
    exact ⟨iff_of_true hsave rfl, .inl hsave⟩
  | false =>
    have hsave := save_of_not_isWritable h hpath
    exact ⟨by simp [hsave], .inr hsave⟩

/-- The first timeout that no TOML integer holds is accepted, and the settings cannot be saved. -/
theorem save_attemptAll_beyond :
    let s : Change := ⟨"lan", "timeout_seconds", "9223372036854775808"⟩
    let c : Config := ⟨some "lan", Profiles.empty.set "lan" ⟨defaultUrl, some 9223372036854775808⟩⟩
    Config.empty.setValue s.name s.key s.value = .ok c ∧
      (c.save Disk.empty (Path.join "/home/a" fileName)).2 =
        .error (.saveFailed "out-of-range value for u64 type") := by
  intro s c
  have hvalid : validateTimeout s.value = .ok 9223372036854775808 := by decide +kernel
  have hset : Config.empty.setValue s.name s.key s.value = .ok c := by
    simp only [setValue, setField, hvalid]
    rfl
  have hattempt : Config.empty.attemptAll [s] = c := by
    simp only [attemptAll, List.foldl_cons, List.foldl_nil, attempt, hset]
  have hlast : lastTimeout? "lan" [s] = some 9223372036854775808 := by decide +kernel
  have hsame : c.Same (Config.empty.attemptAll [s]) := by rw [hattempt]; exact ⟨rfl, fun _ => rfl⟩
  obtain ⟨hiff, hor⟩ := save_attemptAll (.inl rfl) hsame isWritable_home
  refine ⟨hset, hor.resolve_left fun hsave => ?_⟩
  exact absurd (hiff.1 hsave "lan" _ hlast) (by decide)

end Config

end PickupGame.Settings
