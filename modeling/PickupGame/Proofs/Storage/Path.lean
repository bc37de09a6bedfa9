import Mathlib.Data.List.DropRight
import PickupGame.Storage.Disk

/-!
# Names of files and of their directories

A file whose path is a directory joined with a name lies in that directory: its parent takes the same
steps as the directory, however many slashes and dots were written at its end.
-/

namespace PickupGame.Storage.Path

variable {base : List String} {cs : List Char}

/-! ## Parts -/

theorem parts_append_slash (cs ds : List Char) : parts (cs ++ '/' :: ds) = parts cs ++ parts ds := by
  simp [parts, List.splitOn_append_cons_self]

theorem parts_of_notMem (h : '/' ∉ cs) : parts cs = [String.ofList cs] := by
  simp [parts, List.splitOn_eq_singleton h]

theorem names_append_slash (cs ds : List Char) :
    names (String.ofList (cs ++ '/' :: ds)) =
      names (String.ofList cs) ++ names (String.ofList ds) := by
  simp only [names, String.toList_ofList, parts_append_slash, List.filter_append]

theorem names_append_slash_nil (cs : List Char) :
    names (String.ofList (cs ++ ['/'])) = names (String.ofList cs) := by
  rw [names_append_slash]
  exact List.append_nil _

/-- Where a path starts is said by its first character. -/
theorem start_append (base : List String) (h : cs ≠ []) (ds : List Char) :
    start base (String.ofList (cs ++ ds)) = start base (String.ofList cs) := by
  simp only [start, String.toList_ofList, List.head?_append_of_ne_nil cs h]

theorem start_of_relative (base : List String) (h : cs.head? ≠ some '/') :
    start base (String.ofList cs) = base := by
  rw [start, String.toList_ofList, if_neg h]

/-! ## Ends of paths -/

theorem dropIdle_suffix (cs : List Char) : dropIdle cs <:+ cs := by
  fun_induction dropIdle cs with
  | case1 cs ih => exact ih.trans (List.suffix_cons '/' cs)
  | case2 cs ih => exact ih.trans ⟨['.', '/'], rfl⟩
  | case3 => exact List.suffix_rfl

theorem names_dropIdle (cs : List Char) :
    names (String.ofList (dropIdle cs).reverse) = names (String.ofList cs.reverse) := by
  fun_induction dropIdle cs with
  | case1 cs ih => rw [ih, List.reverse_cons, names_append_slash_nil]
  | case2 cs ih =>
    have hdot : names (String.ofList ['.']) = [] := by decide +kernel
    have happend : ('.' :: '/' :: cs).reverse = cs.reverse ++ '/' :: ['.'] := by simp
    rw [ih, happend, names_append_slash, hdot, List.append_nil]
  | case3 => rfl

/-- What is left ends with no slash, and with no dot behind one. -/
theorem head?_dropIdle {c : Char} {ds : List Char} (h : dropIdle cs = c :: ds) :
    c ≠ '/' ∧ (c = '.' → ds.head? ≠ some '/') := by
  fun_induction dropIdle cs with
  | case1 cs ih => exact ih h
  | case2 cs ih => exact ih h
  | case3 cs hslash hdot =>
    subst h
    refine ⟨fun hc => hslash ds (by rw [hc]), fun hc hhead => ?_⟩
    obtain ⟨ds, rfl⟩ := List.head?_eq_some_iff.1 hhead
    exact hdot ds (by rw [hc])

/-- A path that is all idle begins at the root, if it is there at all. -/
theorem getLast?_of_dropIdle_eq_nil (h : dropIdle cs = []) : cs = [] ∨ cs.getLast? = some '/' := by
  fun_induction dropIdle cs with
  | case1 cs ih =>
    rcases ih h with rfl | hlast
    · exact .inr rfl
    · exact .inr (by simp [List.getLast?_cons, hlast])
  | case2 cs ih =>
    rcases ih h with rfl | hlast
    · exact .inr rfl
    · exact .inr (by simp [List.getLast?_cons, hlast])
  | case3 => exact .inl h

theorem trimIdle_cases (cs : List Char) :
    (cs = [] ∧ trimIdle cs = []) ∨ (cs.head? = some '/' ∧ dropIdle cs.reverse = [] ∧ trimIdle cs = ['/']) ∨
      (trimIdle cs ≠ [] ∧ trimIdle cs = (dropIdle cs.reverse).reverse) := by
  unfold trimIdle
  simp only
  split
  · rename_i hempty
    have hnil : dropIdle cs.reverse = [] := by simpa using hempty
    rcases getLast?_of_dropIdle_eq_nil hnil with h | h
    · exact .inl (by simp [List.reverse_eq_nil_iff.1 h])
    · rw [List.getLast?_reverse] at h
      obtain ⟨cs, rfl⟩ := List.head?_eq_some_iff.1 h
      exact .inr (.inl ⟨rfl, hnil, rfl⟩)
  · rename_i hne
    exact .inr (.inr ⟨by simpa using hne, rfl⟩)

/-- Slashes and dots at the end of a path have no meaning. -/
theorem names_trimIdle (cs : List Char) :
    names (String.ofList (trimIdle cs)) = names (String.ofList cs) := by
  have hdrop := names_dropIdle cs.reverse
  rw [List.reverse_reverse] at hdrop
  rcases trimIdle_cases cs with ⟨rfl, -⟩ | ⟨-, hnil, htrim⟩ | ⟨-, htrim⟩
  · rfl
  · have hroot : names (String.ofList ['/']) = names (String.ofList []) :=
      names_append_slash_nil []
    rw [← hdrop, hnil, htrim, hroot, List.reverse_nil]
  · rw [htrim, hdrop]

theorem start_trimIdle (base : List String) (cs : List Char) :
    start base (String.ofList (trimIdle cs)) = start base (String.ofList cs) := by
  rcases trimIdle_cases cs with ⟨rfl, -⟩ | ⟨hhead, -, htrim⟩ | ⟨hne, htrim⟩
  · rfl
  · simp [start, htrim, hhead]
  · obtain ⟨ds, hds⟩ := List.reverse_prefix.2 (dropIdle_suffix cs.reverse)
    rw [← htrim, List.reverse_reverse] at hds
    have hstart := start_append base hne ds
    rwa [hds, eq_comm] at hstart

/-! ## Parents -/

/-- The parent is what a path has before the slash in front of its last part. -/
theorem parent_cases (path : String) : ∃ last, '/' ∉ last ∧
    (trimIdle path.toList = last ∧ parent path = "" ∨
      ∃ front, trimIdle path.toList = front ++ '/' :: last ∧
        parent path = String.ofList (trimIdle (front ++ ['/']))) := by
  unfold parent
  generalize trimIdle path.toList = cs
  have happend : (cs.reverse.dropWhile (· ≠ '/')).reverse ++
      (cs.reverse.takeWhile (· ≠ '/')).reverse = cs := by
    rw [← List.reverse_append, List.takeWhile_append_dropWhile, List.reverse_reverse]
  have hhead := List.head?_dropWhile_not (· ≠ '/') cs.reverse
  refine ⟨(cs.reverse.takeWhile (· ≠ '/')).reverse, ?_, ?_⟩
  · intro hmem
    simpa using List.mem_takeWhile_imp (List.mem_reverse.1 hmem)
  · cases hdrop : cs.reverse.dropWhile (· ≠ '/') with
    | nil =>
      rw [hdrop] at happend
      exact .inl ⟨happend.symm, rfl⟩
    | cons c rest =>
      rw [hdrop] at happend hhead
      obtain rfl : c = '/' := by simpa using hhead
      rw [List.reverse_cons, List.append_assoc, List.singleton_append] at happend
      exact .inr ⟨rest.reverse, happend.symm, by rw [List.reverse_cons]⟩

/-- The last part of a path without idle ends is a step. -/
theorem names_last {path : String} (h : names path ≠ []) {front last : List Char}
    (hslash : '/' ∉ last) (htrim : trimIdle path.toList = front ++ '/' :: last) :
    names (String.ofList last) = [String.ofList last] := by
  have hidle : isIdle (String.ofList last) = false := by
    rcases trimIdle_cases path.toList with ⟨-, hnil⟩ | ⟨-, hnil, -⟩ | ⟨-, hdrop⟩
    · rw [hnil] at htrim
      simp at htrim
    · have hnames := names_dropIdle path.toList.reverse
      rw [hnil, List.reverse_reverse, String.ofList_toList] at hnames
      exact absurd hnames.symm h
    · have hleft : dropIdle path.toList.reverse = last.reverse ++ '/' :: front.reverse := by
        rw [htrim, eq_comm, List.reverse_eq_iff] at hdrop
        simpa using hdrop
      rw [← Bool.not_eq_true]
      intro hidle
      obtain rfl | rfl : last = [] ∨ last = ['.'] := by
        simpa [isIdle, ← String.toList_inj] using hidle
      · exact absurd rfl (head?_dropIdle hleft).1
      · exact absurd rfl ((head?_dropIdle hleft).2 rfl)
  rw [names, String.toList_ofList, parts_of_notMem hslash, List.filter_singleton]
  simp [hidle]

/-- A path that leads anywhere has a last step, and its parent takes those before it. -/
theorem exists_names_parent {path : String} (h : names path ≠ []) :
    (∃ name, names path = names (parent path) ++ [name]) ∧
      ∀ base, start base (parent path) = start base path := by
  have hpath := names_trimIdle path.toList
  have hstart (base : List String) := start_trimIdle base path.toList
  rw [String.ofList_toList] at hpath hstart
  obtain ⟨last, hslash, ⟨htrim, hparent⟩ | ⟨front, htrim, hparent⟩⟩ := parent_cases path
  · rw [htrim, names, String.toList_ofList, parts_of_notMem hslash, List.filter_singleton] at hpath
    have hhead : last.head? ≠ some '/' := fun hc => hslash (List.mem_of_mem_head? hc)
    rw [hparent]
    constructor
    · cases hidle : isIdle (String.ofList last) with
      | false => exact ⟨_, by rw [← hpath, hidle]; rfl⟩
      | true =>
        rw [hidle] at hpath
        exact absurd hpath.symm h
    · intro base
      rw [← hstart base, htrim, start_of_relative base hhead]
      rfl
  · rw [htrim, names_append_slash, names_last h hslash htrim] at hpath
    simp only [htrim] at hstart
    constructor
    · rw [hparent, names_trimIdle, names_append_slash_nil]
      exact ⟨_, hpath.symm⟩
    · intro base
      have hlead := start_append base (List.concat_ne_nil '/' front) last
      rw [hparent, start_trimIdle, ← hlead, ← hstart base, List.append_assoc,
        List.singleton_append]

theorem names_parent_of_eq_nil {path : String} (h : names path = []) : names (parent path) = [] := by
  have hpath := names_trimIdle path.toList
  rw [String.ofList_toList, h] at hpath
  obtain ⟨last, -, ⟨-, hparent⟩ | ⟨front, htrim, hparent⟩⟩ := parent_cases path
  · rw [hparent]
    rfl
  · rw [htrim, names_append_slash] at hpath
    rw [hparent, names_trimIdle, names_append_slash_nil]
    exact (List.append_eq_nil_iff.1 hpath).1

/-- A path leads into its parent, unless it stays where it starts. -/
theorem resolve_parent_cases (base : List String) (path : String) :
    names (parent path) = [] ∨
      ∃ name, resolve base path = resolve base (parent path) ++ [name] := by
  by_cases h : names path = []
  · exact .inl (names_parent_of_eq_nil h)
  · obtain ⟨⟨name, hname⟩, hstart⟩ := exists_names_parent h
    exact .inr ⟨name, by rw [resolve, resolve, hstart, hname, List.append_assoc]⟩

/-! ## Names in directories -/

/-- A name that stands for itself. -/
structure IsName (name : String) : Prop where
  noSlash : '/' ∉ name.toList
  ne_empty : name ≠ ""
  ne_dot : name ≠ "."
  ne_dots : name ≠ ".."

namespace IsName

variable {name : String} (h : IsName name)
include h

theorem isIdle_eq_false : isIdle name = false := by
  simp [isIdle, h.ne_empty, h.ne_dot]

theorem parts_eq : parts name.toList = [name] := by
  rw [parts_of_notMem h.noSlash, String.ofList_toList]

theorem names_eq : names name = [name] := by
  rw [names, h.parts_eq, List.filter_singleton]
  simp [h.isIdle_eq_false]

theorem enter_eq (names : List String) : enter names name = names ++ [name] := by
  rw [enter, if_neg h.ne_dots]

end IsName

/-- The text that a directory puts in front of a name. -/
def lead (directory : String) : List Char :=
  if directory = "" then []
  else if directory.toList.getLast? = some '/' then directory.toList
  else directory.toList ++ ['/']

theorem toList_join (directory name : String) :
    (join directory name).toList = lead directory ++ name.toList := by
  unfold join lead
  split
  · rfl
  split
  · rw [String.toList_append]
  · simp

theorem lead_cases (directory : String) :
    lead directory = [] ∧ directory = "" ∨
      ∃ cs, lead directory = cs ++ ['/'] ∧ names (String.ofList cs) = names directory ∧
        ∀ base, start base (String.ofList (cs ++ ['/'])) = start base directory := by
  unfold lead
  split
  · exact .inl ⟨rfl, by assumption⟩
  split
  · rename_i hlast
    obtain ⟨cs, hcs⟩ := List.getLast?_eq_some_iff.1 hlast
    refine .inr ⟨cs, hcs, ?_, fun base => by rw [← hcs, String.ofList_toList]⟩
    rw [← names_append_slash_nil, ← hcs, String.ofList_toList]
  · rename_i hne _
    have hlist : directory.toList ≠ [] := by simpa using hne
    refine .inr ⟨directory.toList, rfl, by rw [String.ofList_toList], fun base => ?_⟩
    rw [start_append base hlist, String.ofList_toList]

section Join

variable {name : String} (h : IsName name) (base : List String) (directory : String)
include h

theorem names_join : names (join directory name) = names directory ++ [name] := by
  rw [← String.ofList_toList (s := join directory name), toList_join]
  rcases lead_cases directory with ⟨hlead, rfl⟩ | ⟨cs, hlead, hdir, -⟩
  · rw [hlead, List.nil_append, String.ofList_toList, h.names_eq]
    rfl
  · rw [hlead, List.append_assoc, List.singleton_append, names_append_slash, hdir,
      String.ofList_toList, h.names_eq]

theorem start_join : start base (join directory name) = start base directory := by
  rw [← String.ofList_toList (s := join directory name), toList_join]
  rcases lead_cases directory with ⟨hlead, rfl⟩ | ⟨cs, hlead, -, hdir⟩
  · have hhead : name.toList.head? ≠ some '/' := fun hc => h.noSlash (List.mem_of_mem_head? hc)
    rw [hlead, List.nil_append, String.ofList_toList, start, if_neg hhead]
    rfl
  · rw [hlead, start_append base (by simp), hdir]

theorem resolve_join : resolve base (join directory name) = resolve base directory ++ [name] := by
  rw [resolve, start_join h, names_join h, resolve, List.append_assoc]

theorem asksDirectory_join : asksDirectory (join directory name) = false := by
  have hlast : (parts (join directory name).toList).getLast? = some name := by
    rw [toList_join]
    rcases lead_cases directory with ⟨hlead, rfl⟩ | ⟨cs, hlead, -, -⟩
    · rw [hlead, List.nil_append, h.parts_eq]
      rfl
    · rw [hlead, List.append_assoc, List.singleton_append, parts_append_slash, h.parts_eq,
        List.getLast?_concat]
  rw [asksDirectory, hlast, Option.any_some, h.isIdle_eq_false]

theorem names_parent_join : names (parent (join directory name)) = names directory := by
  have hnames := names_join h directory
  have hne : names (join directory name) ≠ [] := by simp [hnames]
  obtain ⟨⟨last, hlast⟩, -⟩ := exists_names_parent hne
  rw [hnames] at hlast
  exact (List.append_inj_left' hlast rfl).symm

theorem start_parent_join : start base (parent (join directory name)) = start base directory := by
  have hne : names (join directory name) ≠ [] := by simp [names_join h]
  rw [(exists_names_parent hne).2, start_join h]

theorem resolve_parent_join :
    resolve base (parent (join directory name)) = resolve base directory := by
  rw [resolve, start_parent_join h, names_parent_join h, resolve]

end Join

/-- The empty path stands for no file. -/
theorem ne_empty_of_asksDirectory_eq_false {path : String} (h : asksDirectory path = false) :
    path ≠ "" := by
  rintro rfl
  exact absurd h (by decide +kernel)

end PickupGame.Storage.Path
