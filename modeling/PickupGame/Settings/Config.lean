import PickupGame.Settings.Validation
import PickupGame.Url.Base

/-!
# Settings

Named profiles, each with the address of a service and perhaps a timeout, and the name of the one to
use by default. The order in which profiles are listed has no meaning.
-/

namespace PickupGame.Settings

structure Profile where
  apiUrl : String
  timeout : Option UInt64
  deriving DecidableEq, Repr

/-- The address used while no other is known. -/
def defaultUrl : String := "http://localhost:51515"

/-- The profile used while none is stored, and the one that new profiles start from. -/
def Profile.builtIn : Profile := ⟨defaultUrl, none⟩

/-- Profiles by name, each name once. -/
structure Profiles where
  entries : List (String × Profile)
  nodup : (entries.map Prod.fst).Nodup

namespace Profiles

def empty : Profiles := ⟨[], .nil⟩

def names (ps : Profiles) : List String :=
  ps.entries.map Prod.fst

def isEmpty (ps : Profiles) : Bool :=
  ps.entries.isEmpty

def get? (ps : Profiles) (name : String) : Option Profile :=
  ps.entries.lookup name

/-- Puts a profile under a name: in place of the one that was there, or at the end. -/
def put (name : String) (p : Profile) : List (String × Profile) → List (String × Profile)
  | [] => [(name, p)]
  | (n, q) :: es => if n = name then (n, p) :: es else (n, q) :: put name p es

theorem mem_names_put {name other : String} {p : Profile} {es : List (String × Profile)} :
    other ∈ (put name p es).map Prod.fst ↔ other = name ∨ other ∈ es.map Prod.fst := by
  induction es with
  | nil => simp [put]
  | cons e es ih =>
    obtain ⟨n, q⟩ := e
    unfold put
    split
    · rename_i h; subst h; simp
    · simp only [List.map_cons, List.mem_cons, ih]
      constructor
      · rintro (h | h | h) <;> simp [h]
      · rintro (h | h | h) <;> simp [h]

theorem nodup_put {name : String} {p : Profile} {es : List (String × Profile)}
    (h : (es.map Prod.fst).Nodup) : ((put name p es).map Prod.fst).Nodup := by
  induction es with
  | nil => simp [put]
  | cons e es ih =>
    obtain ⟨n, q⟩ := e
    rw [List.map_cons, List.nodup_cons] at h
    unfold put
    split
    · rw [List.map_cons, List.nodup_cons]; exact h
    · rename_i hn
      rw [List.map_cons, List.nodup_cons]
      refine ⟨fun hm => ?_, ih h.2⟩
      rcases mem_names_put.1 hm with hm | hm
      · exact hn hm
      · exact h.1 hm

def set (ps : Profiles) (name : String) (p : Profile) : Profiles :=
  ⟨put name p ps.entries, nodup_put ps.nodup⟩

@[simp] theorem get?_set_self (ps : Profiles) (name : String) (p : Profile) :
    (ps.set name p).get? name = some p := by
  simp only [get?, set]
  induction ps.entries with
  | nil => simp [put]
  | cons e es ih =>
    obtain ⟨n, q⟩ := e
    unfold put
    split
    · rename_i h; subst h; simp
    · rename_i h
      have hb : (name == n) = false := by simpa using fun e => h e.symm
      rw [List.lookup_cons, hb]
      exact ih

theorem get?_set_of_ne {name other : String} (h : other ≠ name) (ps : Profiles) (p : Profile) :
    (ps.set name p).get? other = ps.get? other := by
  simp only [get?, set]
  induction ps.entries with
  | nil => simp [put, h]
  | cons e es ih =>
    obtain ⟨n, q⟩ := e
    unfold put
    split
    · rename_i hn
      subst hn
      have hb : (other == n) = false := by simpa using h
      simp [List.lookup_cons, hb]
    · by_cases ho : other = n
      · subst ho; simp
      · have hb : (other == n) = false := by simpa using ho
        simp only [List.lookup_cons, hb]
        exact ih

end Profiles

structure Config where
  defaultProfile : Option String
  profiles : Profiles

namespace Config

def empty : Config := ⟨none, .empty⟩

/-- The name used while nothing names a profile. -/
def defaultName : String := "default"

def setProfile (c : Config) (name : String) (p : Profile) : Config :=
  { c with profiles := c.profiles.set name p }

/-- The profile to use: the one asked for, else the default one, else `default`. -/
def resolveName (c : Config) (requested : Option String) : String :=
  (requested.or c.defaultProfile).getD defaultName

/-- The profile to work with under a name. The built-in one serves as `default` only while no
profile is stored. -/
def profile (c : Config) (name : String) : Except Fault Profile :=
  match c.profiles.get? name with
  | some p => .ok p
  | none =>
    if name = defaultName && c.profiles.isEmpty then .ok .builtIn
    else .error (.profileNotFound name)

/-- A profile with one field set from a text. -/
def setField (p : Profile) (key value : String) : Except Fault Profile :=
  if key = "api_url" then
    match validateUrl value with
    | .ok () => .ok { p with apiUrl := Url.trimSlashes value }
    | .error e => .error e
  else if key = "timeout_seconds" then
    match validateTimeout value with
    | .ok n => .ok { p with timeout := some n }
    | .error e => .error e
  else .error (.unknownKey key)

/-- Sets one field of a profile, making the profile if it is not there. The first profile that is
set becomes the default one. -/
def setValue (c : Config) (name key value : String) : Except Fault Config :=
  match setField ((c.profiles.get? name).getD .builtIn) key value with
  | .ok p =>
    .ok { profiles := c.profiles.set name p, defaultProfile := c.defaultProfile.or (some name) }
  | .error e => .error e

end Config

end PickupGame.Settings
