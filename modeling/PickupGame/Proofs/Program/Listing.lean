import PickupGame.Proofs.Settings.File
import PickupGame.Proofs.Text.Order
import PickupGame.Session

/-!
# Listing settings

The lines in which settings are shown have each profile once, in the order of the bytes of their
names and with the values of its own. They are the same in whatever order the profiles are stored,
and profiles that differ in anything are shown by other lines.
-/

namespace PickupGame

namespace Settings

/-! ## Sorting -/

/-- Profiles in ascending order of the bytes of their names. -/
def Ascending (es : List (String × Profile)) : Prop :=
  es.Pairwise fun a b => Text.utf8 a.1.toList < Text.utf8 b.1.toList

/-- Profiles can be put in ascending order in one way only. -/
theorem Ascending.eq_of_perm {es es' : List (String × Profile)} (h : Ascending es)
    (h' : Ascending es') (hperm : es.Perm es') : es = es' :=
  hperm.eq_of_pairwise (fun _ _ _ _ hlt hgt => absurd hgt (List.lt_asymm hlt)) h h'

namespace Profiles

variable (ps : Profiles)

theorem sorted_perm : ps.sorted.Perm ps.entries :=
  List.mergeSort_perm _ _

theorem pairwise_le_sorted : ps.sorted.Pairwise fun a b => a.1 ≤ b.1 := by
  have hiff (a b : String × Profile) : (!decide (b.1 < a.1)) = true ↔ a.1 ≤ b.1 := by
    simp only [Bool.not_eq_true', decide_eq_false_iff_not, not_lt]
  have hsorted : ps.sorted.Pairwise fun a b => (!decide (b.1 < a.1)) = true := by
    refine List.pairwise_mergeSort (fun a b c => ?_) (fun a b => ?_) ps.entries
    · rw [hiff, hiff, hiff]
      exact le_trans
    · rw [Bool.or_eq_true, hiff, hiff]
      exact le_total a.1 b.1
  exact hsorted.imp fun {a b} => (hiff a b).1

theorem ascending_sorted : Ascending ps.sorted := by
  have hne : ps.sorted.Pairwise fun a b => a.1 ≠ b.1 :=
    List.pairwise_map.1 ((ps.sorted_perm.map Prod.fst).nodup_iff.2 ps.nodup)
  refine (ps.pairwise_le_sorted.and hne).imp fun ⟨hle, hne⟩ => ?_
  exact Text.utf8_lt_iff.2 (String.lt_iff_toList_lt.1 (lt_of_le_of_ne hle hne))

theorem mem_sorted {name : String} {p : Profile} :
    (name, p) ∈ ps.sorted ↔ ps.get? name = some p := by
  rw [ps.sorted_perm.mem_iff, mem_entries]

theorem sorted_eq_iff {ps ps' : Profiles} :
    ps.sorted = ps'.sorted ↔ ps.entries.Perm ps'.entries := by
  constructor
  · intro h
    exact ps.sorted_perm.symm.trans (h ▸ ps'.sorted_perm)
  · intro h
    exact ps.ascending_sorted.eq_of_perm ps'.ascending_sorted
      (ps.sorted_perm.trans (h.trans ps'.sorted_perm.symm))

end Profiles

/-! ## Lines -/

def timeoutLines : Option UInt64 → List String
  | some n => ["    Timeout: " ++ toString n.toNat ++ " seconds"]
  | none => []

/-- The lines of profiles one after another, each profile beginning with its name. -/
def shownLines : List (String × Profile) → List String
  | [] => []
  | (name, p) :: es =>
    ("  [" ++ name ++ "]") :: ("    API URL: " ++ p.apiUrl) :: (timeoutLines p.timeout ++ shownLines es)

theorem flatMap_profileLines (es : List (String × Profile)) :
    (es.flatMap fun e => profileLines e.1 e.2) = shownLines es := by
  induction es with
  | nil => rfl
  | cons e es ih =>
    obtain ⟨name, url, timeout⟩ := e
    rw [List.flatMap_cons, ih]
    cases timeout <;> rfl

/-- The third character tells the line of a name from the others. -/
theorem ne_nameLine {line name : String} (h : line.toList[2]? ≠ some '[') :
    line ≠ "  [" ++ name ++ "]" := by
  rintro rfl
  simp at h

theorem timeoutLines_append_inj {t t' : Option UInt64} {es es' : List (String × Profile)}
    (h : timeoutLines t ++ shownLines es = timeoutLines t' ++ shownLines es') :
    t = t' ∧ shownLines es = shownLines es' := by
  have hne (n : UInt64) (ls : List String) (es : List (String × Profile)) :
      timeoutLines (some n) ++ ls ≠ shownLines es := by
    intro h
    cases es with
    | nil => cases h
    | cons e es => exact ne_nameLine (by simp) (List.cons.inj h).1
  cases t with
  | none =>
    cases t' with
    | none => exact ⟨rfl, h⟩
    | some n => exact absurd h.symm (hne n _ _)
  | some m =>
    cases t' with
    | none => exact absurd h (hne m _ _)
    | some n =>
      obtain ⟨hline, hshown⟩ := List.cons.inj h
      have hdigits : m.toNat.repr = n.toNat.repr := by simpa using hline
      have hvalue : Numeral.digits m.toNat = Numeral.digits n.toNat := by
        simpa [Numeral.digits, Nat.repr] using congrArg String.toList hdigits
      rw [UInt64.toNat_inj.1 (Numeral.digits_injective hvalue)]
      exact ⟨rfl, hshown⟩

theorem shownLines_inj {es es' : List (String × Profile)} (h : shownLines es = shownLines es') :
    es = es' := by
  induction es generalizing es' with
  | nil =>
    cases es' with
    | nil => rfl
    | cons e es' => cases h
  | cons e es ih =>
    obtain ⟨name, url, timeout⟩ := e
    cases es' with
    | nil => cases h
    | cons e' es' =>
      obtain ⟨name', url', timeout'⟩ := e'
      obtain ⟨hname, hrest⟩ := List.cons.inj h
      obtain ⟨hurl, hrest⟩ := List.cons.inj hrest
      obtain ⟨rfl, hothers⟩ := timeoutLines_append_inj hrest
      obtain rfl : name = name' := by simpa using hname
      obtain rfl : url = url' := by simpa using hurl
      rw [ih hothers]

/-- The lines for all profiles. -/
def entryLines (es : List (String × Profile)) : List String :=
  if es = [] then ["  No profiles configured"] else shownLines es

theorem Profiles.listing_eq (ps : Profiles) : ps.listing = entryLines ps.sorted := by
  have hempty : ps.isEmpty = true ↔ ps.sorted = [] := by
    rw [isEmpty, List.isEmpty_iff, ← List.length_eq_zero_iff, ← List.length_eq_zero_iff,
      ps.sorted_perm.length_eq]
  simp only [listing, entryLines, hempty, flatMap_profileLines]

theorem entryLines_inj {es es' : List (String × Profile)} :
    entryLines es = entryLines es' ↔ es = es' := by
  refine ⟨fun h => ?_, congrArg entryLines⟩
  have hne (e : String × Profile) (es : List (String × Profile)) :
      entryLines [] ≠ entryLines (e :: es) := fun h => ne_nameLine (by decide) (List.cons.inj h).1
  cases es with
  | nil =>
    cases es' with
    | nil => rfl
    | cons e' es' => exact absurd h (hne e' es')
  | cons e es =>
    cases es' with
    | nil => exact absurd h.symm (hne e es)
    | cons e' es' => exact shownLines_inj h

/-- Listings are the same just if the profiles are, in whatever order they are stored, and so is
what is said besides them. -/
theorem Config.listing_eq_iff {c c' : Config} {active active' : String} {hasKey hasKey' : Bool} :
    c'.listing active' hasKey' = c.listing active hasKey ↔
      c'.profiles.entries.Perm c.profiles.entries ∧
        c'.defaultProfile.getD "(not set)" = c.defaultProfile.getD "(not set)" ∧
        active' = active ∧ hasKey' = hasKey := by
  constructor
  · intro h
    obtain ⟨h, hfoot⟩ := List.append_inj' h rfl
    obtain ⟨hhead, hprofiles⟩ := List.append_inj h rfl
    rw [Profiles.listing_eq, Profiles.listing_eq, entryLines_inj, Profiles.sorted_eq_iff] at hprofiles
    have hkey : hasKey' = hasKey := by
      cases hasKey <;> cases hasKey' <;> first | rfl | exact absurd hfoot (by decide)
    have hnames : c'.defaultProfile.getD "(not set)" = c.defaultProfile.getD "(not set)" ∧
        active' = active := by simpa using hhead
    exact ⟨hprofiles, hnames.1, hnames.2, hkey⟩
  · rintro ⟨hperm, hdefault, rfl, rfl⟩
    rw [listing, listing, hdefault, Profiles.listing_eq, Profiles.listing_eq,
      Profiles.sorted_eq_iff.2 hperm]

end Settings

namespace Session

/-- The lines in which the settings of a session are shown. -/
def lines (s : Session) : List String :=
  s.config.listing s.profile (Api.usableKey? s.apiKey).isSome

/-- What is shown of the settings of a session, line by line: each profile once and in order. -/
structure Shown [Platform] (s : Session) (lines : List String) : Prop where
  output : ∀ d : Storage.Disk, s.perform d .showConfig =
    .done ⟨s, d, Text.unlinesOf lines ++ "\n", [], .ok ()⟩
  profiles : ∃ es, Settings.Ascending es ∧
    (∀ name p, (name, p) ∈ es ↔ s.config.profiles.get? name = some p) ∧
    lines = ["Current Configuration:", "=====================",
      "Default Profile: " ++ s.config.defaultProfile.getD "(not set)", "Active Profile: " ++ s.profile,
      "", "Profiles:"] ++ Settings.entryLines es ++
      ["", if (Api.usableKey? s.apiKey).isSome then "API Key: (set)" else "API Key: (not set)"]
  /-- The same is shown just where the same profiles are stored, in whatever order. -/
  determined : ∀ s' : Session, s'.lines = lines ↔
    s'.config.profiles.entries.Perm s.config.profiles.entries ∧
      s'.config.defaultProfile.getD "(not set)" = s.config.defaultProfile.getD "(not set)" ∧
      s'.profile = s.profile ∧
      (Api.usableKey? s'.apiKey).isSome = (Api.usableKey? s.apiKey).isSome

/-- The settings are shown in full, and the order in which the profiles are stored does not show. -/
theorem shown_lines [Platform] (s : Session) : s.Shown s.lines := by
  constructor
  case output => exact fun d => rfl
  case profiles =>
    refine ⟨s.config.profiles.sorted, s.config.profiles.ascending_sorted,
      fun name p => s.config.profiles.mem_sorted, ?_⟩
    rw [← s.config.profiles.listing_eq]
    rfl
  case determined => exact fun s' => Settings.Config.listing_eq_iff

end Session

end PickupGame
