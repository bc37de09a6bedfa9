import PickupGame.Proofs.Settings.Changes
import PickupGame.Proofs.Settings.File

/-!
# The default profile

Settings that came about by changes, by saving and by reading what was saved have a default profile
as soon as they have a profile at all, and it is one of those they have. Each step keeps this, for
the settings in memory and for those in every file that was saved on the way.
-/

namespace PickupGame.Settings

open PickupGame.Storage

/-! ## Settings with a default profile of their own -/

theorem Profiles.isEmpty_eq_false {ps : Profiles} :
    ps.isEmpty = false ↔ ∃ name p, ps.get? name = some p := by
  have hempty : ps.isEmpty = false ↔ ∃ e, e ∈ ps.entries := by
    rw [isEmpty, List.isEmpty_eq_false_iff_exists_mem]
  rw [hempty]
  constructor
  · rintro ⟨⟨name, p⟩, he⟩
    exact ⟨name, p, mem_entries.1 he⟩
  · rintro ⟨name, p, hp⟩
    exact ⟨_, mem_entries.2 hp⟩

namespace Config

/-- A profile is only there with a default one, and the default one is there. -/
structure Rooted (c : Config) : Prop where
  hasDefault : c.HasDefault
  stored : ∀ name, c.defaultProfile = some name → ∃ p, c.profiles.get? name = some p

theorem rooted_empty : Rooted .empty := by
  constructor
  · rintro name p ⟨⟩
  · rintro name ⟨⟩

theorem Rooted.isSome_iff {c : Config} (h : c.Rooted) :
    c.defaultProfile.isSome = true ↔ c.profiles.isEmpty = false := by
  rw [Option.isSome_iff_exists, Profiles.isEmpty_eq_false]
  constructor
  · rintro ⟨name, hname⟩
    exact ⟨name, h.stored name hname⟩
  · rintro ⟨name, p, hp⟩
    exact Option.ne_none_iff_exists'.1 (h.hasDefault name p hp)

theorem Same.rooted {c c' : Config} (hsame : c.Same c') (h : c'.Rooted) : c.Rooted := by
  constructor
  · intro name p hp
    rw [hsame.profiles] at hp
    rw [hsame.defaultProfile]
    exact h.hasDefault name p hp
  · intro name hname
    rw [hsame.defaultProfile] at hname
    rw [hsame.profiles]
    exact h.stored name hname

theorem Rooted.attempt {c : Config} (h : c.Rooted) (s : Change) : (c.attempt s).Rooted := by
  refine ⟨hasDefault_attempt h.hasDefault s, ?_⟩
  unfold Config.attempt
  cases hset : c.setValue s.name s.key s.value with
  | error e => exact h.stored
  | ok c' =>
    obtain ⟨p, -, rfl⟩ := setValue_eq_ok hset
    intro name hname
    by_cases hs : name = s.name
    · subst hs
      exact ⟨p, Profiles.get?_set_self _ _ _⟩
    · rw [Profiles.get?_set_of_ne hs]
      -- The default profile is not the one that was set, so it was the default one before.
      rcases Option.or_eq_some_iff.1 hname with hold | ⟨-, hnew⟩
      · exact h.stored name hold
      · exact absurd (Option.some.inj hnew).symm hs

end Config

/-! ## Changing, saving and reading again -/

/-- Settings in memory, and a disk on which they were saved under some paths. -/
structure State where
  config : Config
  disk : Disk
  saved : List String

/-- A change may be refused. What is saved may list its profiles in any order, and what is read is a
file that was saved or one that is not there. -/
inductive Step : State → State → Prop
  | change (s : State) (change : Change) : Step s { s with config := s.config.attempt change }
  | save {s : State} {written : Config} {path : String} {d : Disk}
      (hsame : written.Same s.config) (h : written.save s.disk path = (d, .ok ())) :
      Step s { s with disk := d, saved := path :: s.saved }
  | reload {s : State} {path : String} {c : Config}
      (hpath : path ∈ s.saved ∨ s.disk.pathExists path = false)
      (h : Config.load s.disk path = .ok c) : Step s { s with config := c }

/-- The states that come about from no settings, on any disk. -/
inductive Reachable : State → Prop
  | start (d : Disk) : Reachable ⟨.empty, d, []⟩
  | step {s s' : State} (h : Reachable s) (hstep : Step s s') : Reachable s'

namespace State

/-- A path holds settings that have a default profile of their own. -/
def Holds (d : Disk) (path : String) : Prop :=
  ∃ c : Config, c.Rooted ∧ c.isWritable = true ∧
    d.stat path = .ok (.file (Text.utf8 c.toText.toList))

structure Rooted (s : State) : Prop where
  config : s.config.Rooted
  saved : ∀ path ∈ s.saved, Holds s.disk path

theorem Holds.rooted_of_load {d : Disk} {path : String} (h : Holds d path) {c : Config}
    (hload : Config.load d path = .ok c) : c.Rooted := by
  obtain ⟨written, hrooted, hwritable, hstat⟩ := h
  rw [Config.load_of_stat hwritable hstat] at hload
  cases hload
  exact hrooted

section

variable {c : Config} {d d' : Disk} {path : String}

theorem holds_of_save (hrooted : c.Rooted) (h : c.save d path = (d', .ok ())) : Holds d' path := by
  obtain ⟨hwritable, hstat⟩ := Config.stat_save (congrArg Prod.snd h)
  rw [h] at hstat
  exact ⟨c, hrooted, hwritable, hstat⟩

theorem Holds.save {other : String} (hother : Holds d other) (hrooted : c.Rooted)
    (h : c.save d path = (d', .ok ())) : Holds d' other := by
  obtain ⟨held, hheld, hwritable, hstat⟩ := hother
  have hcases := c.stat_save_of_file path hstat
  rw [h] at hcases
  rcases hcases with hkept | ⟨hwritable', hwritten⟩
  · exact ⟨held, hheld, hwritable, hkept⟩
  · exact ⟨c, hrooted, hwritable', hwritten⟩

end

theorem Rooted.step {s s' : State} (h : s.Rooted) (hstep : Step s s') : s'.Rooted := by
  cases hstep with
  | change change => exact ⟨h.config.attempt change, h.saved⟩
  | save hsame hsave =>
    have hrooted := hsame.rooted h.config
    have hothers : ∀ other ∈ s.saved, Holds _ other :=
      fun other hother => (h.saved other hother).save hrooted hsave
    exact ⟨h.config, List.forall_mem_cons.2 ⟨holds_of_save hrooted hsave, hothers⟩⟩
  | @reload path c hpath hload =>
    refine ⟨?_, h.saved⟩
    rcases hpath with hpath | hmissing
    · exact (h.saved path hpath).rooted_of_load hload
    · rw [Config.load, hmissing] at hload
      cases hload
      exact Config.rooted_empty

end State

theorem Reachable.rooted {s : State} (h : Reachable s) : s.Rooted := by
  induction h with
  | start d => exact ⟨Config.rooted_empty, fun path hpath => absurd hpath List.not_mem_nil⟩
  | step _ hstep ih => exact ih.step hstep

end PickupGame.Settings
