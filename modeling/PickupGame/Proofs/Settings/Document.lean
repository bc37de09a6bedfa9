import PickupGame.Proofs.Toml.Lines
import PickupGame.Proofs.Toml.Tables
import PickupGame.Settings.File

/-!
# Reading back settings

The document of settings is read as the entries it was written for, block by block, and these give
the settings again.
-/

namespace PickupGame.Settings

open PickupGame.Toml (Entries Leads State)

/-! ## Entries of a document -/

/-- The entries of the table of a profile. -/
def Profile.toToml (p : Profile) : Entries :=
  ("api_url", .string p.apiUrl)
    :: (match p.timeout with
        | some n => [("timeout_seconds", .integer n.toNat)]
        | none => [])

def tables (es : List (String × Profile)) : Entries :=
  es.map fun e => (e.1, .table .header e.2.toToml)

theorem tables_append (es es' : List (String × Profile)) :
    tables (es ++ es') = tables es ++ tables es' :=
  List.map_append

def Config.front (c : Config) : Entries :=
  match c.defaultProfile with
  | some name => [("default_profile", .string name)]
  | none => []

/-- Entries with tables of profiles behind them. -/
def withTables (front : Entries) : Entries → Entries
  | [] => front
  | es => front ++ [("profiles", .table .implied es)]

theorem withTables_of_ne_nil {es : Entries} (h : es ≠ []) (front : Entries) :
    withTables front es = front ++ [("profiles", .table .implied es)] := by
  cases es with
  | nil => exact absurd rfl h
  | cons e es => rfl

/-- The entries of the document of settings. -/
def Config.toToml (c : Config) : Entries :=
  if c.profiles.isEmpty then c.front ++ [("profiles", .table .header [])]
  else withTables c.front (tables c.profiles.entries)

theorem get?_tables {es : List (String × Profile)} {name : String}
    (h : name ∉ es.map Prod.fst) : Entries.get? (tables es) name = none := by
  refine List.lookup_eq_none_iff.2 fun p hp => ?_
  obtain ⟨e, he, rfl⟩ := List.mem_map.1 hp
  have hne : name ≠ e.1 := by
    rintro rfl
    exact h (List.mem_map_of_mem he)
  simpa using hne

theorem Config.get?_front_profiles (c : Config) : Entries.get? c.front "profiles" = none := by
  unfold front
  cases c.defaultProfile with
  | none => rfl
  | some name => rfl

/-! ## Lines -/

section Blocks

variable {front : Entries} (hfront : Entries.get? front "profiles" = none)
include hfront

theorem at?_withTables_open {es : Entries} {name : String} (h : es.get? name = none) :
    (withTables front es).at? (Entries.openTable? name) ["profiles"] =
      some (withTables front (es ++ [(name, .table .header [])])) := by
  cases es with
  | nil =>
    rw [withTables, Entries.at?_of_get?_eq_none hfront, Entries.at?,
      Entries.openTable?_of_get?_eq_none rfl]
    rfl
  | cons e es =>
    rw [withTables_of_ne_nil (List.cons_ne_nil e es), Entries.at?_append_self hfront (by decide),
      Entries.at?, Entries.openTable?_of_get?_eq_none h]
    rfl

theorem at?_withTables_add {es sub : Entries} {name k : String} (h : es.get? name = none)
    (hk : sub.get? k = none) (v : Toml.Value) :
    (withTables front (es ++ [(name, .table .header sub)])).at? (fun es => es.add? k v)
        ["profiles", name] =
      some (withTables front (es ++ [(name, .table .header (sub ++ [(k, v)]))])) := by
  have hlast (sub : Entries) : withTables front (es ++ [(name, .table .header sub)]) =
      front ++ [("profiles", .table .implied (es ++ [(name, .table .header sub)]))] :=
    withTables_of_ne_nil (by simp) front
  rw [hlast, hlast, Entries.at?_append_self hfront (by decide),
    Entries.at?_append_self h (by decide), Entries.at?, Entries.add?_of_get?_eq_none hk]
  rfl

theorem leads_profile {done : List (String × Profile)} {name : String} {p : Profile}
    (hname : name ∉ done.map Prod.fst) (hp : ∀ n, p.timeout = some n → n.toNat ≤ Numeral.maxI64)
    (path : List String) (rest : List Char) :
    Leads ⟨path, withTables front (tables done)⟩
      (Toml.headerLine ["profiles", name] ++ p.lines ++ rest)
      ⟨["profiles", name], withTables front (tables (done ++ [(name, p)]))⟩ rest := by
  have hnone := get?_tables hname
  have hopen (rest : List Char) :
      Leads ⟨path, withTables front (tables done)⟩ (Toml.headerLine ["profiles", name] ++ rest)
        ⟨["profiles", name], withTables front (tables done ++ [(name, .table .header [])])⟩ rest :=
    Toml.leads_headerLine ["profiles"] name (by decide) (at?_withTables_open hfront hnone) rest
  have hurl (rest : List Char) :
      Leads ⟨["profiles", name], withTables front (tables done ++ [(name, .table .header [])])⟩
        (Toml.entryLine "api_url" (Toml.stringText p.apiUrl) ++ rest)
        ⟨["profiles", name], withTables front
          (tables done ++ [(name, .table .header [("api_url", .string p.apiUrl)])])⟩ rest :=
    Toml.leads_entryLine (Toml.writes_stringText p.apiUrl)
      (at?_withTables_add hfront hnone rfl _) rest
  obtain ⟨url, timeout⟩ := p
  cases timeout with
  | none =>
    simp only [Profile.lines, List.append_nil, List.append_assoc, tables_append]
    exact (hopen _).trans (hurl _)
  | some n =>
    simp only [Profile.lines, List.append_assoc, tables_append]
    refine ((hopen _).trans (hurl _)).trans ?_
    exact Toml.leads_entryLine (Toml.writes_digits (hp n rfl))
      (at?_withTables_add hfront hnone rfl _) rest

theorem exists_leads_profiles (done : List (String × Profile)) {es : List (String × Profile)}
    (hnodup : ((done ++ es).map Prod.fst).Nodup)
    (hes : ∀ e ∈ es, ∀ n, e.2.timeout = some n → n.toNat ≤ Numeral.maxI64) (path : List String) :
    ∃ path', Leads ⟨path, withTables front (tables done)⟩
      (blocks (es.map fun e => Toml.headerLine ["profiles", e.1] ++ e.2.lines))
      ⟨path', withTables front (tables (done ++ es))⟩ [] := by
  -- The tables of `done` have been read, and each block adds one to them.
  induction es generalizing done path with
  | nil => exact ⟨path, by rw [List.append_nil]; exact .refl _ _⟩
  | cons e es ih =>
    obtain ⟨name, p⟩ := e
    have hname : name ∉ done.map Prod.fst := by
      intro hm
      rw [List.map_append, List.nodup_append] at hnodup
      exact hnodup.2.2 name hm name (by simp) rfl
    have hfirst (rest : List Char) :=
      leads_profile hfront hname (hes _ List.mem_cons_self) path rest
    have hdone : done ++ (name, p) :: es = done ++ [(name, p)] ++ es := by simp
    rw [hdone] at hnodup ⊢
    obtain ⟨path', hlast⟩ := ih (done ++ [(name, p)]) hnodup (fun e he => hes e (List.mem_cons_of_mem _ he))
      ["profiles", name]
    cases es with
    | nil =>
      have hblock := hfirst []
      rw [List.append_nil] at hblock ⊢
      exact ⟨["profiles", name], hblock⟩
    | cons e es => exact ⟨path', (hfirst _).trans ((Toml.leads_blank _ _).trans hlast)⟩

end Blocks

theorem le_of_isWritable {c : Config} (h : c.isWritable = true) :
    ∀ e ∈ c.profiles.entries, ∀ n, e.2.timeout = some n → n.toNat ≤ Numeral.maxI64 := by
  intro e he n hn
  have hall := List.all_eq_true.1 h e he
  rw [hn] at hall
  simpa using hall

def Config.tableBlocks (c : Config) : List (List Char) :=
  if c.profiles.isEmpty then [Toml.headerLine ["profiles"]]
  else c.profiles.entries.map fun e => Toml.headerLine ["profiles", e.1] ++ e.2.lines

theorem Config.exists_tableBlocks (c : Config) : ∃ b bs, c.tableBlocks = ('[' :: b) :: bs := by
  unfold tableBlocks Profiles.isEmpty
  cases c.profiles.entries with
  | nil => exact ⟨_, _, rfl⟩
  | cons e es => exact ⟨_, _, rfl⟩

theorem exists_leads_tableBlocks {c : Config} (h : c.isWritable = true) (path : List String) :
    ∃ path', Leads ⟨path, c.front⟩ (blocks c.tableBlocks) ⟨path', c.toToml⟩ [] := by
  unfold Config.toToml Config.tableBlocks
  split
  · have hopen := Toml.leads_headerLine (s := ⟨path, c.front⟩) [] "profiles" (by decide)
      (Entries.openTable?_of_get?_eq_none c.get?_front_profiles) []
    rw [List.append_nil] at hopen
    exact ⟨_, hopen⟩
  · exact exists_leads_profiles c.get?_front_profiles [] c.profiles.nodup (le_of_isWritable h) path

/-- The text of a document: its tables, behind the default profile and a blank line. -/
theorem blocks_config (c : Config) :
    blocks c.blocks =
      (match c.defaultProfile with
        | some name => Toml.entryLine "default_profile" (Toml.stringText name) ++ ['\n']
        | none => [])
      ++ blocks c.tableBlocks := by
  obtain ⟨b, bs, hb⟩ := c.exists_tableBlocks
  have hblocks : c.blocks =
      (match c.defaultProfile with
        | some name => [Toml.entryLine "default_profile" (Toml.stringText name)]
        | none => [])
      ++ c.tableBlocks := rfl
  rw [hblocks, hb]
  cases c.defaultProfile with
  | none => rfl
  | some name => simp [blocks]

theorem exists_leads_blocks {c : Config} (h : c.isWritable = true) :
    ∃ path, Leads ⟨[], []⟩ (blocks c.blocks) ⟨path, c.toToml⟩ [] := by
  obtain ⟨path, htables⟩ := exists_leads_tableBlocks h []
  refine ⟨path, ?_⟩
  unfold Config.front at htables
  rw [blocks_config]
  cases hdefault : c.defaultProfile with
  | none =>
    rw [hdefault] at htables
    exact htables
  | some name =>
    rw [hdefault] at htables
    simp only [List.append_assoc, List.singleton_append]
    have hname : Leads ⟨[], []⟩
        (Toml.entryLine "default_profile" (Toml.stringText name) ++ '\n' :: blocks c.tableBlocks)
        ⟨[], [("default_profile", .string name)]⟩ ('\n' :: blocks c.tableBlocks) :=
      Toml.leads_entryLine (Toml.writes_stringText name) rfl _
    exact hname.trans ((Toml.leads_blank _ _).trans htables)

theorem skipMark_blocks (c : Config) : Toml.skipMark (blocks c.blocks) = blocks c.blocks := by
  rw [blocks_config]
  cases c.defaultProfile with
  | some name => rfl
  | none =>
    obtain ⟨b, bs, hb⟩ := c.exists_tableBlocks
    rw [hb]
    cases bs with
    | nil => rfl
    | cons b' bs => rfl

theorem parse?_toText {c : Config} (h : c.isWritable = true) :
    Toml.parse? c.toText = some c.toToml := by
  obtain ⟨path, hleads⟩ := exists_leads_blocks h
  rw [Toml.parse?, Config.toText, String.toList_ofList, skipMark_blocks]
  exact hleads.lines_eq

/-! ## Settings -/

theorem Profile.ofToml?_toToml (p : Profile) (form : Toml.Form) :
    Profile.ofToml? (.table form p.toToml) = some p := by
  obtain ⟨url, timeout⟩ := p
  cases timeout with
  | none => rfl
  | some n =>
    have hn : timeoutOfToml? (.integer n.toNat) = some n := by simp [timeoutOfToml?]
    have hurl : Entries.get? (Profile.toToml ⟨url, some n⟩) "api_url" = some (.string url) := rfl
    have htimeout : Entries.get? (Profile.toToml ⟨url, some n⟩) "timeout_seconds" =
      some (.integer n.toNat) := rfl
    simp only [Profile.ofToml?, hurl, htimeout, hn, Option.map_some]

theorem Profiles.put_of_notMem {es : List (String × Profile)} {name : String}
    (h : name ∉ es.map Prod.fst) (p : Profile) : put name p es = es ++ [(name, p)] := by
  induction es with
  | nil => rfl
  | cons e es ih =>
    obtain ⟨n, q⟩ := e
    rw [List.map_cons, List.mem_cons, not_or] at h
    rw [put, if_neg (Ne.symm h.1), ih h.2, List.cons_append]

theorem Profiles.addToml?_tables {ps qs : Profiles} {es : List (String × Profile)}
    (h : qs.entries = ps.entries ++ es) : ps.addToml? (tables es) = some qs := by
  induction es generalizing ps with
  | nil =>
    obtain ⟨entries, nodup⟩ := ps
    obtain ⟨entries', nodup'⟩ := qs
    rw [List.append_nil] at h
    cases h
    rfl
  | cons e es ih =>
    obtain ⟨name, p⟩ := e
    have hname : name ∉ ps.entries.map Prod.fst := by
      intro hm
      have hnodup := qs.nodup
      rw [h, List.map_append, List.nodup_append] at hnodup
      exact hnodup.2.2 name hm name (by simp) rfl
    have hread : Profiles.addToml? ps (tables ((name, p) :: es)) =
        (ps.set name p).addToml? (tables es) := by
      simp only [tables, List.map_cons, addToml?, Profile.ofToml?_toToml]
    have hset : (ps.set name p).entries = ps.entries ++ [(name, p)] := put_of_notMem hname p
    rw [hread]
    refine ih ?_
    rw [h, hset, List.append_assoc, List.singleton_append]

theorem Config.ofToml?_toToml (c : Config) : Config.ofToml? c.toToml = some c := by
  have hfront := c.get?_front_profiles
  have hdefault : Entries.get? c.toToml "default_profile" = Entries.get? c.front "default_profile" := by
    unfold toToml
    split
    · exact Entries.get?_append_of_ne (by decide) _ _
    · cases hes : tables c.profiles.entries with
      | nil => rfl
      | cons e es => exact Entries.get?_append_of_ne (by decide) _ _
  have hprofiles : Profiles.ofToml? (Entries.get? c.toToml "profiles") = some c.profiles := by
    unfold toToml
    split
    · rename_i hempty
      rw [Entries.get?_append_self hfront]
      have hnil : c.profiles.entries = [] := List.isEmpty_iff.1 hempty
      have hread : Profiles.empty.addToml? (tables []) = some c.profiles :=
        Profiles.addToml?_tables hnil
      exact hread
    · rename_i hempty
      have hne : tables c.profiles.entries ≠ [] := fun h =>
        hempty (List.isEmpty_iff.2 (List.map_eq_nil_iff.1 h))
      rw [withTables_of_ne_nil hne, Entries.get?_append_self hfront]
      exact Profiles.addToml?_tables rfl
  obtain ⟨default, profiles⟩ := c
  rw [ofToml?, hdefault, hprofiles]
  cases default with
  | none => rfl
  | some name => rfl

/-- Settings are read back from the text written for them. -/
theorem Config.ofText?_toText {c : Config} (h : c.isWritable = true) :
    Config.ofText? c.toText = some c := by
  rw [Config.ofText?, parse?_toText h, Option.bind_some, Config.ofToml?_toToml]

end PickupGame.Settings
