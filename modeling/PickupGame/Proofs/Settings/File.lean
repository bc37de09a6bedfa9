import PickupGame.Proofs.Settings.Document
import PickupGame.Proofs.Storage.Disk
import PickupGame.Proofs.Text.Utf8

/-!
# Settings in files

Settings that have been saved are loaded again as they were, in whatever order their profiles were
written. They can be saved to a path that can be written to if every timeout fits a TOML integer.
-/

namespace PickupGame.Settings

open PickupGame.Storage

/-! ## Settings without an order -/

theorem Profiles.mem_entries {ps : Profiles} {name : String} {p : Profile} :
    (name, p) ∈ ps.entries ↔ ps.get? name = some p := by
  obtain ⟨es, nodup⟩ := ps
  unfold get?
  induction es with
  | nil => simp
  | cons e es ih =>
    obtain ⟨n, q⟩ := e
    rw [List.map_cons, List.nodup_cons] at nodup
    rw [List.mem_cons, List.lookup_cons]
    by_cases hn : name = n
    · subst hn
      have hmem : (name, p) ∉ es := fun hm => nodup.1 (List.mem_map.2 ⟨_, hm, rfl⟩)
      simp [hmem, eq_comm]
    · have hb : (name == n) = false := by simpa using hn
      simpa [hb, hn] using ih nodup.2

/-- The same settings, however their profiles are listed. -/
structure Config.Same (c c' : Config) : Prop where
  defaultProfile : c.defaultProfile = c'.defaultProfile
  profiles : ∀ name, c.profiles.get? name = c'.profiles.get? name

namespace Config

theorem same_of_perm {c c' : Config} (hdefault : c.defaultProfile = c'.defaultProfile)
    (h : c.profiles.entries.Perm c'.profiles.entries) : c.Same c' := by
  refine ⟨hdefault, fun name => Option.ext fun p => ?_⟩
  rw [← Profiles.mem_entries, ← Profiles.mem_entries, h.mem_iff]

theorem isWritable_iff {c : Config} :
    c.isWritable = true ↔
      ∀ name p n, c.profiles.get? name = some p → p.timeout = some n →
        n.toNat ≤ Numeral.maxI64 := by
  unfold isWritable
  rw [List.all_eq_true]
  constructor
  · intro h name p n hp hn
    have hall := h _ (Profiles.mem_entries.2 hp)
    rw [hn] at hall
    simpa using hall
  · rintro h ⟨name, p⟩ he
    cases hn : p.timeout with
    | none => rfl
    | some n => simpa using h name p n (Profiles.mem_entries.1 he) hn

/-! ## Files -/

theorem load_of_stat {c : Config} (h : c.isWritable = true) {d : Disk} {path : String}
    (hstat : d.stat path = .ok (.file (Text.utf8 c.toText.toList))) :
    Config.load d path = .ok c := by
  have hexists : d.pathExists path = true := by simp [Disk.pathExists, hstat]
  have htext : d.readText path = .ok c.toText := by
    simp [Disk.readText, Disk.read, hstat]
  simp [Config.load, hexists, htext, ofText?_toText h]

theorem load_of_missing {d : Disk} {path : String} (h : d.pathExists path = false) :
    Config.load d path = .ok .empty := by
  rw [load, h, if_neg Bool.false_ne_true]

theorem load_congr {d : Disk} {path path' : String} {c : Config}
    (hstat : d.stat path' = d.stat path) (h : Config.load d path = .ok c) :
    Config.load d path' = .ok c := by
  have hexists : d.pathExists path' = d.pathExists path := by
    rw [Disk.pathExists, Disk.pathExists, hstat]
  have htext : d.readText path' = d.readText path := by
    rw [Disk.readText, Disk.readText, Disk.read, Disk.read, hstat]
  unfold load at h ⊢
  rw [hexists, htext]
  cases hread : d.readText path with
  | error cause =>
    rw [hread] at h
    split at h
    · cases h
    · rename_i hmissing
      rw [if_neg hmissing, h]
  | ok text =>
    rw [hread] at h
    exact h

/-- Saving makes directories, and writes the file if it can. -/
theorem save_cases (c : Config) (d : Disk) (path : String) :
    ((c.save d path).1 = (d.createDirectories (Path.parent path)).1 ∧
        ∃ e, (c.save d path).2 = .error e) ∨
      c.isWritable = true ∧
        (d.createDirectories (Path.parent path)).1.write path (Text.utf8 c.toText.toList) =
          .ok (c.save d path).1 ∧
        (c.save d path).2 = .ok () := by
  unfold save
  simp only
  cases d.createDirectories (Path.parent path) with
  | mk made result =>
    cases result with
    | error cause => exact .inl ⟨rfl, _, rfl⟩
    | ok u =>
      simp only
      split
      · rename_i hwritable
        cases hwrite : made.write path (Text.utf8 c.toText.toList) with
        | ok d' => exact .inr ⟨hwritable, rfl, rfl⟩
        | error cause => exact .inl ⟨rfl, _, rfl⟩
      · exact .inl ⟨rfl, _, rfl⟩

theorem workingDirectory_save (c : Config) (d : Disk) (path : String) :
    (c.save d path).1.workingDirectory = d.workingDirectory := by
  have hgrown := d.grown_createDirectories (Path.parent path)
  rcases c.save_cases d path with ⟨hdisk, -⟩ | ⟨-, hwrite, -⟩
  · rw [hdisk, hgrown.workingDirectory]
  · rw [Disk.workingDirectory_write hwrite, hgrown.workingDirectory]

theorem stat_save {c : Config} {d : Disk} {path : String} (h : (c.save d path).2 = .ok ()) :
    c.isWritable = true ∧
      (c.save d path).1.stat path = .ok (.file (Text.utf8 c.toText.toList)) := by
  rcases c.save_cases d path with ⟨-, e, hfail⟩ | ⟨hwritable, hwrite, -⟩
  · rw [hfail] at h
    cases h
  · exact ⟨hwritable, Disk.stat_write hwrite⟩

/-- Settings that have been saved can be written, and the file holds them. -/
theorem load_save {c : Config} {d : Disk} {path : String} (h : (c.save d path).2 = .ok ()) :
    c.isWritable = true ∧ Config.load (c.save d path).1 path = .ok c := by
  obtain ⟨hwritable, hstat⟩ := stat_save h
  exact ⟨hwritable, load_of_stat hwritable hstat⟩

/-- Saving leaves every file as it was, unless it is the one that is written. -/
theorem stat_save_of_file (c : Config) {d : Disk} (path : String) {other : String}
    {bytes : List UInt8}
    (hstat : d.stat other = .ok (.file bytes)) :
    (c.save d path).1.stat other = .ok (.file bytes) ∨
      c.isWritable = true ∧
        (c.save d path).1.stat other = .ok (.file (Text.utf8 c.toText.toList)) := by
  have hmade := (d.grown_createDirectories (Path.parent path)).stat hstat
  rcases c.save_cases d path with ⟨hdisk, -⟩ | ⟨hwritable, hwrite, -⟩
  · rw [hdisk]
    exact .inl hmade
  · exact (Disk.stat_write_of_file hwrite hmade).imp_right fun h => ⟨hwritable, h⟩

/-- A save that fails leaves all files of a disk, and its path, as they were. -/
theorem kept_save {c : Config} {d : Disk} {path : String} (h : (c.save d path).2 ≠ .ok ()) :
    d.Kept (c.save d path).1 path := by
  rcases c.save_cases d path with ⟨hdisk, -⟩ | ⟨-, -, hsave⟩
  · rw [hdisk]
    exact Disk.kept_createDirectories d path
  · exact absurd hsave h

theorem save_of_isWritable {c : Config} (h : c.isWritable = true) {d : Disk} {path : String}
    (hpath : d.IsWritable path) : (c.save d path).2 = .ok () := by
  obtain ⟨d', hcreate, hwrite⟩ := hpath
  obtain ⟨d'', hwrite⟩ := hwrite (Text.utf8 c.toText.toList)
  simp [save, hcreate, h, hwrite]

/-- Settings listed in any order can be saved just if the timeouts fit a TOML integer, and loading
them gives the same settings again. -/
theorem save_load {c written : Config} (hsame : written.Same c) {d : Disk} {path : String}
    (hpath : d.IsWritable path) :
    ((written.save d path).2 = .ok () ↔
        ∀ name p n, c.profiles.get? name = some p → p.timeout = some n →
          n.toNat ≤ Numeral.maxI64) ∧
      ((written.save d path).2 = .ok () →
        ∃ c', Config.load (written.save d path).1 path = .ok c' ∧ c'.Same c) := by
  have hwritable : written.isWritable = true ↔
      ∀ name p n, c.profiles.get? name = some p → p.timeout = some n →
        n.toNat ≤ Numeral.maxI64 := by
    simp only [isWritable_iff, hsame.profiles]
  constructor
  · constructor
    · intro h
      exact hwritable.1 (load_save h).1
    · intro h
      exact save_of_isWritable (hwritable.2 h) hpath
  · intro h
    exact ⟨written, (load_save h).2, hsame⟩

theorem isName_fileName : Path.IsName fileName := by
  constructor <;> decide +kernel

theorem isWritable_home : Disk.empty.IsWritable (Path.join "/home/a" fileName) := by
  have hnone (names : List String) (n : Node) : Disk.empty.node? names = some n → n = .directory := by
    unfold Disk.node?
    split <;> simp [Disk.empty, eq_comm]
  refine Disk.isWritable_join isName_fileName (by decide +kernel) (by decide +kernel)
    (fun way _ bytes hnode => ?_) (by decide +kernel)
  cases hnone way _ hnode

/-- Two profiles, listed one way and written the other, on a disk without files. -/
theorem save_load_swapped :
    let lan : String × Profile := ("lan", ⟨"http://10.0.0.1", some 5⟩)
    let odd : String × Profile := ("a.\"b\"\n", ⟨"\\'''\t", none⟩)
    let c : Config := ⟨some "lan", [lan, odd], by decide +kernel⟩
    let written : Config := ⟨some "lan", [odd, lan], by decide +kernel⟩
    let path := Path.join "/home/a" fileName
    ∃ c', Config.load (written.save Disk.empty path).1 path = .ok c' ∧ c'.Same c := by
  intro lan odd c written path
  have hsame : written.Same c := same_of_perm rfl (List.Perm.swap lan odd [])
  have hfits : c.isWritable = true := by decide +kernel
  obtain ⟨hiff, hload⟩ := save_load hsame isWritable_home
  exact hload (hiff.2 (isWritable_iff.1 hfits))

end Config

end PickupGame.Settings
