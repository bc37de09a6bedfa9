import PickupGame.Proofs.Storage.Path

/-!
# What operations leave of a disk

A file that has been written holds what was written. Making directories changes no node that was
there, and no file appears by it. A path is writable if its directories can be made and then any
content can be written, for which it is enough that no file stands in its way.
-/

namespace PickupGame.Storage.Disk

variable {d d' d'' : Disk} {path : String} {names : List String}

/-- The node that a path leads to, if it leads to one. -/
def at? (d : Disk) (path : String) : Option Node :=
  (d.stat path).toOption

/-! ## Nodes -/

@[simp] theorem node?_root (d : Disk) : d.node? [] = some .directory := rfl

theorem node?_of_ne_nil (h : names ≠ []) : d.node? names = d.nodes.lookup names := by
  rw [node?, if_neg (by simpa using h)]

/-- A node lies in a directory. -/
theorem node?_dropLast {n : Node} (h : d.node? names = some n) :
    d.node? names.dropLast = some .directory := by
  by_cases hne : names = []
  · rw [hne]
    rfl
  · rw [node?_of_ne_nil hne] at h
    have hmem : (names, n) ∈ d.nodes := by
      obtain ⟨front, back, heq, -⟩ := List.lookup_eq_some_iff.1 h
      simp [heq]
    rcases d.rooted _ hmem with hroot | hdir
    · rw [hroot]
      rfl
    · by_cases hroot : names.dropLast = []
      · rw [hroot]
        rfl
      · rwa [node?_of_ne_nil hroot]

theorem lookup_filter_ne {nodes : List (List String × Node)} {other : List String}
    (h : other ≠ names) :
    (nodes.filter (·.1 ≠ names)).lookup other = nodes.lookup other := by
  have hb : (other == names) = false := by simpa using h
  induction nodes with
  | nil => rfl
  | cons e es ih =>
    obtain ⟨k, m⟩ := e
    rw [List.filter_cons]
    by_cases hk : k = names
    · subst hk
      rw [if_neg (by simp), ih, List.lookup_cons, hb]
    · rw [if_pos (by simpa using hk), List.lookup_cons, List.lookup_cons, ih]

theorem node?_set_of_ne {other : List String} (h : other ≠ names) (d : Disk) (n : Node) :
    (d.set names n).node? other = d.node? other := by
  have hb : (other == names) = false := by simpa using h
  unfold set
  simp only
  split
  · simp only [node?, List.lookup_cons, hb, lookup_filter_ne h]
  · rfl

/-- A node can be set in a directory, unless that would turn a directory into a file. -/
theorem isRooted_set {n : Node} (hdir : d.node? names.dropLast = some .directory)
    (hsafe : n = .directory ∨ d.node? names ≠ some .directory) :
    IsRooted ((names, n) :: d.nodes.filter (·.1 ≠ names)) := by
  -- A directory that is looked up stays one, whether it is the one that is set or not.
  have hkept (other : List String) (hne : other ≠ []) (hother : d.node? other = some .directory) :
      ((names, n) :: d.nodes.filter (·.1 ≠ names)).lookup other = some .directory := by
    rw [List.lookup_cons]
    by_cases heq : other = names
    · subst heq
      rcases hsafe with rfl | hsafe
      · simp
      · exact absurd hother hsafe
    · have hb : (other == names) = false := by simpa using heq
      rw [hb, lookup_filter_ne heq, ← node?_of_ne_nil hne]
      exact hother
  rintro ⟨other, m⟩ hmem
  rw [or_iff_not_imp_left]
  intro hroot
  refine hkept _ hroot ?_
  rcases List.mem_cons.1 hmem with heq | hmem
  · cases heq
    exact hdir
  · rcases d.rooted _ (List.mem_of_mem_filter hmem) with h | h
    · exact absurd h hroot
    · rwa [node?_of_ne_nil hroot]

theorem node?_set_self {n : Node} (hne : names ≠ [])
    (hdir : d.node? names.dropLast = some .directory)
    (hsafe : n = .directory ∨ d.node? names ≠ some .directory) :
    (d.set names n).node? names = some n := by
  have hrooted := isRooted_set hdir hsafe
  rw [set, dif_pos hrooted, node?_of_ne_nil hne]
  exact List.lookup_cons_self

@[simp] theorem workingDirectory_set (d : Disk) (names : List String) (n : Node) :
    (d.set names n).workingDirectory = d.workingDirectory := by
  unfold set
  simp only
  split <;> rfl

/-! ## Steps -/

@[simp] theorem locate_nil (d : Disk) (done : List String) : d.locate done [] = .ok done := rfl

theorem locate_cons_eq_ok {done steps : List String} {step : String} :
    d.locate done (step :: steps) = .ok names ↔
      d.node? done = some .directory ∧ d.locate (Path.enter done step) steps = .ok names := by
  rw [locate]
  cases hnode : d.node? done with
  | none => simp
  | some n => cases n <;> simp

theorem locate_append {done front steps : List String} :
    d.locate done (front ++ steps) = .ok names ↔
      ∃ between, d.locate done front = .ok between ∧ d.locate between steps = .ok names := by
  induction front generalizing done with
  | nil => simp
  | cons step front ih =>
    rw [List.cons_append, locate_cons_eq_ok, ih]
    constructor
    · rintro ⟨hnode, between, hfront, hsteps⟩
      exact ⟨between, locate_cons_eq_ok.2 ⟨hnode, hfront⟩, hsteps⟩
    · rintro ⟨between, hfront, hsteps⟩
      obtain ⟨hnode, hfront⟩ := locate_cons_eq_ok.1 hfront
      exact ⟨hnode, between, hfront, hsteps⟩

theorem locate_concat {front : List String} {step : String} :
    d.locate [] (front ++ [step]) = .ok names ↔
      ∃ directory, d.locate [] front = .ok directory ∧ d.node? directory = some .directory ∧
        Path.enter directory step = names := by
  simp only [locate_append, locate_cons_eq_ok, locate_nil, Except.ok.injEq]

theorem isDirectory_iff {steps : List String} :
    d.isDirectory steps = true ↔
      ∃ names, d.locate [] steps = .ok names ∧ d.node? names = some .directory := by
  unfold isDirectory
  cases d.locate [] steps <;> simp

/-- Steps lead to places in directories. -/
theorem node?_dropLast_of_locate {steps : List String} (h : d.locate [] steps = .ok names) :
    d.node? names.dropLast = some .directory := by
  rcases List.eq_nil_or_concat' steps with rfl | ⟨front, step, rfl⟩
  · cases h
    rfl
  · obtain ⟨directory, -, hdir, rfl⟩ := locate_concat.1 h
    unfold Path.enter
    split
    · exact node?_dropLast (node?_dropLast hdir)
    · rwa [List.dropLast_concat]

/-- What leads through directories of one disk leads through those of another that has them. -/
theorem locate_of_kept {done steps : List String}
    (hkept : ∀ other, d.node? other = some .directory → d'.node? other = some .directory)
    (h : d.locate done steps = .ok names) : d'.locate done steps = .ok names := by
  induction steps generalizing done with
  | nil => exact h
  | cons step steps ih =>
    obtain ⟨hnode, hsteps⟩ := locate_cons_eq_ok.1 h
    exact locate_cons_eq_ok.2 ⟨hkept done hnode, ih hsteps⟩

/-- Steps without `..` lead to the names that they are. -/
theorem eq_append_of_locate {done steps : List String} (hplain : ".." ∉ steps)
    (h : d.locate done steps = .ok names) : names = done ++ steps := by
  induction steps generalizing done with
  | nil =>
    cases h
    rw [List.append_nil]
  | cons step steps ih =>
    rw [List.mem_cons, not_or] at hplain
    obtain ⟨-, hsteps⟩ := locate_cons_eq_ok.1 h
    rw [ih hplain.2 hsteps, Path.enter, if_neg (Ne.symm hplain.1), List.append_assoc,
      List.singleton_append]

theorem eq_of_locate {steps : List String} (hplain : ".." ∉ steps)
    (h : d.locate [] steps = .ok names) : names = steps :=
  eq_append_of_locate hplain h

theorem locate_of_node? (hplain : ".." ∉ names) {n : Node} (h : d.node? names = some n) :
    d.locate [] names = .ok names := by
  induction names using List.reverseRecOn generalizing n with
  | nil => rfl
  | append_singleton names name ih =>
    rw [List.mem_append, not_or, List.mem_singleton] at hplain
    have hdir := node?_dropLast h
    rw [List.dropLast_concat] at hdir
    refine locate_concat.2 ⟨names, ih hplain.1 hdir, hdir, ?_⟩
    rw [Path.enter, if_neg (Ne.symm hplain.2)]

/-! ## Reading -/

theorem stat_eq_ok {n : Node} :
    d.stat path = .ok n ↔ path ≠ "" ∧ (n = .directory ∨ Path.asksDirectory path = false) ∧
      ∃ names, d.locate [] (Path.resolve d.workingDirectory path) = .ok names ∧
        d.node? names = some n := by
  unfold stat
  split
  · rename_i hempty
    simp [hempty]
  · rename_i hne
    cases hlocate : d.locate [] (Path.resolve d.workingDirectory path) with
    | error e => simp
    | ok names =>
      cases hnode : d.node? names with
      | none => simp [hnode]
      | some m =>
        cases m with
        | directory => cases n <;> simp [hne, hnode]
        | file content => cases hasks : Path.asksDirectory path <;> cases n <;> simp [hne, hnode]

theorem at?_eq_some {n : Node} : d.at? path = some n ↔ d.stat path = .ok n := by
  unfold at?
  cases d.stat path <;> simp [Except.toOption]

theorem stat_congr {other : String}
    (hresolve : Path.resolve d.workingDirectory path = Path.resolve d.workingDirectory other)
    (hpath : Path.asksDirectory path = false) (hother : Path.asksDirectory other = false) :
    d.stat path = d.stat other := by
  rw [stat, stat, if_neg (Path.ne_empty_of_asksDirectory_eq_false hpath),
    if_neg (Path.ne_empty_of_asksDirectory_eq_false hother), hresolve, hpath, hother]

/-! ## Writing -/

theorem write_eq_ok {content : List UInt8} (h : d.write path content = .ok d') :
    path ≠ "" ∧ Path.asksDirectory path = false ∧
      ∃ names, d.locate [] (Path.resolve d.workingDirectory path) = .ok names ∧
        d.node? names ≠ some .directory ∧ d' = d.set names (.file content) := by
  unfold write at h
  split at h
  · cases h
  · rename_i hne
    split at h
    · cases h
    · rename_i names hlocate
      split at h
      · cases h
      · rename_i hplace
        rw [not_or, Bool.not_eq_true] at hplace
        exact ⟨hne, hplace.1, names, hlocate, hplace.2, (Except.ok.inj h).symm⟩

theorem write_of_locate {content : List UInt8} (hasks : Path.asksDirectory path = false)
    (hlocate : d.locate [] (Path.resolve d.workingDirectory path) = .ok names)
    (hplace : d.node? names ≠ some .directory) :
    d.write path content = .ok (d.set names (.file content)) := by
  have hne := Path.ne_empty_of_asksDirectory_eq_false hasks
  simp [write, hne, hlocate, hasks, hplace]

theorem workingDirectory_write {content : List UInt8} (h : d.write path content = .ok d') :
    d'.workingDirectory = d.workingDirectory := by
  obtain ⟨-, -, names, -, -, rfl⟩ := write_eq_ok h
  exact workingDirectory_set d names _

theorem locate_set_of_ne_directory (hnode : d.node? names ≠ some .directory) {n : Node}
    {done steps other : List String} (h : d.locate done steps = .ok other) :
    (d.set names n).locate done steps = .ok other := by
  refine locate_of_kept (fun directory hdir => ?_) h
  rw [node?_set_of_ne]
  · exact hdir
  · rintro rfl
    exact hnode hdir

/-- What has been written is what the path then holds. -/
theorem stat_write {content : List UInt8} (h : d.write path content = .ok d') :
    d'.stat path = .ok (.file content) := by
  obtain ⟨hne, hasks, names, hlocate, hnode, rfl⟩ := write_eq_ok h
  refine stat_eq_ok.2 ⟨hne, .inr hasks, names, ?_, ?_⟩
  · rw [workingDirectory_set]
    exact locate_set_of_ne_directory hnode hlocate
  · refine node?_set_self ?_ (node?_dropLast_of_locate hlocate) (.inr hnode)
    rintro rfl
    exact hnode (node?_root d)

/-- Writing leaves any file as it was, unless it is the one that is written. -/
theorem stat_write_of_file {content bytes : List UInt8} {other : String}
    (h : d.write path content = .ok d') (hstat : d.stat other = .ok (.file bytes)) :
    d'.stat other = .ok (.file bytes) ∨ d'.stat other = .ok (.file content) := by
  obtain ⟨-, -, names, hpath, hnode, rfl⟩ := write_eq_ok h
  obtain ⟨hne, hasks, others, hother, hfile⟩ := stat_eq_ok.1 hstat
  have hlocate := locate_set_of_ne_directory hnode hother (n := .file content)
  rw [← workingDirectory_set d names (.file content)] at hlocate
  by_cases heq : others = names
  · subst heq
    refine .inr (stat_eq_ok.2 ⟨hne, .inr (hasks.resolve_left nofun), others, hlocate, ?_⟩)
    refine node?_set_self ?_ (node?_dropLast hfile) (.inr hnode)
    rintro rfl
    exact hnode (node?_root d)
  · refine .inl (stat_eq_ok.2 ⟨hne, hasks, others, hlocate, ?_⟩)
    rwa [node?_set_of_ne heq]

/-! ## Directories -/

/-- What making directories on a way leaves of a disk: all that was there, and besides it only
directories that the first steps of the way lead to. -/
structure Grown (d d' : Disk) (way : List String) : Prop where
  workingDirectory : d'.workingDirectory = d.workingDirectory
  kept : ∀ names n, d.node? names = some n → d'.node? names = some n
  added : ∀ names, d.node? names = none → d'.node? names = none ∨
    d'.node? names = some .directory ∧ ∃ steps, steps <+: way ∧ d'.locate [] steps = .ok names

namespace Grown

variable {way : List String}

theorem refl (d : Disk) (way : List String) : Grown d d way :=
  ⟨rfl, fun _ _ h => h, fun _ h => .inl h⟩

theorem locate (h : Grown d d' way) {done steps : List String}
    (hlocate : d.locate done steps = .ok names) : d'.locate done steps = .ok names :=
  locate_of_kept (fun other hother => h.kept other .directory hother) hlocate

theorem trans (h : Grown d d' way) (h' : Grown d' d'' way) : Grown d d'' way where
  workingDirectory := h'.workingDirectory.trans h.workingDirectory
  kept names n hn := h'.kept names n (h.kept names n hn)
  added names hnone := by
    rcases h.added names hnone with hnone | ⟨hdir, steps, hsteps, hlocate⟩
    · exact h'.added names hnone
    · exact .inr ⟨h'.kept names _ hdir, steps, hsteps, h'.locate hlocate⟩

theorem mono {way' : List String} (h : Grown d d' way) (hway : way <+: way') : Grown d d' way' where
  workingDirectory := h.workingDirectory
  kept := h.kept
  added names hnone := (h.added names hnone).imp_right
    fun ⟨hdir, steps, hsteps, hlocate⟩ => ⟨hdir, steps, hsteps.trans hway, hlocate⟩

theorem stat (h : Grown d d' way) {other : String} {n : Node} (hstat : d.stat other = .ok n) :
    d'.stat other = .ok n := by
  obtain ⟨hne, hasks, names, hlocate, hnode⟩ := stat_eq_ok.1 hstat
  refine stat_eq_ok.2 ⟨hne, hasks, names, ?_, h.kept names n hnode⟩
  rw [h.workingDirectory]
  exact h.locate hlocate

/-- No file appears, vanishes or changes. -/
theorem file_iff (h : Grown d d' way) (names : List String) (bytes : List UInt8) :
    d'.node? names = some (.file bytes) ↔ d.node? names = some (.file bytes) := by
  refine ⟨fun hfile => ?_, h.kept names _⟩
  cases hnode : d.node? names with
  | none => rcases h.added names hnode with hnone | ⟨hdir, -⟩ <;> simp_all
  | some n => rw [← h.kept names n hnode, hfile]

/-- A node apart from the way is as it was. -/
theorem node?_eq (h : Grown d d' way) (hplain : ".." ∉ way) (hapart : ¬ names <+: way) :
    d'.node? names = d.node? names := by
  cases hnode : d.node? names with
  | some n => exact h.kept names n hnode
  | none =>
    rcases h.added names hnode with hnone | ⟨-, steps, hsteps, hlocate⟩
    · exact hnone
    · have hplain' : ".." ∉ steps := fun hmem => hplain (hsteps.subset hmem)
      rw [← eq_of_locate hplain' hlocate] at hsteps
      exact absurd hsteps hapart

end Grown

theorem makeDirectory_eq_ok {steps : List String} (h : d.makeDirectory steps = .ok d') :
    ∃ names, d.locate [] steps = .ok names ∧ d.node? names = none ∧ d' = d.set names .directory := by
  unfold makeDirectory at h
  split at h
  · cases h
  · rename_i names hlocate
    split at h
    · cases h
    · rename_i hnode
      exact ⟨names, hlocate, hnode, (Except.ok.inj h).symm⟩

theorem grown_makeDirectory {steps : List String} (h : d.makeDirectory steps = .ok d') :
    Grown d d' steps ∧ d'.isDirectory steps = true := by
  obtain ⟨names, hlocate, hnone, rfl⟩ := makeDirectory_eq_ok h
  have hne : names ≠ [] := by
    rintro rfl
    cases hnone
  have hlocate' : (d.set names .directory).locate [] steps = .ok names :=
    locate_set_of_ne_directory (by simp [hnone]) hlocate
  have hself : (d.set names .directory).node? names = some .directory :=
    node?_set_self hne (node?_dropLast_of_locate hlocate) (.inl rfl)
  refine ⟨⟨workingDirectory_set d names _, fun other n hother => ?_, fun other hother => ?_⟩,
    isDirectory_iff.2 ⟨names, hlocate', hself⟩⟩
  · rw [node?_set_of_ne]
    · exact hother
    · rintro rfl
      rw [hnone] at hother
      cases hother
  · by_cases heq : other = names
    · subst heq
      exact .inr ⟨hself, steps, List.prefix_refl steps, hlocate'⟩
    · rw [node?_set_of_ne heq]
      exact .inl hother

theorem grown_ensureDirectory (d : Disk) (steps : List String) :
    Grown d (d.ensureDirectory steps).1 steps ∧
      ((d.ensureDirectory steps).2 = .ok () →
        (d.ensureDirectory steps).1.isDirectory steps = true) := by
  unfold ensureDirectory
  split
  · rename_i d' h
    exact ⟨(grown_makeDirectory h).1, fun _ => (grown_makeDirectory h).2⟩
  · refine ⟨.refl d steps, fun h => ?_⟩
    by_contra hdir
    rw [if_neg hdir] at h
    cases h

theorem makeDirectories_cons_of_found {front back : List String} {step : String}
    (h : d.makeDirectory (front ++ (step :: back).reverse) ≠ .error .notFound) :
    d.makeDirectories front (step :: back) =
      d.ensureDirectory (front ++ (step :: back).reverse) := by
  unfold makeDirectories
  simp only

theorem makeDirectories_cons_of_notFound {front back : List String} {step : String}
    (h : d.makeDirectory (front ++ (step :: back).reverse) = .error .notFound) :
    d.makeDirectories front (step :: back) =
      match d.makeDirectories front back with
      | (d, .ok ()) => d.ensureDirectory (front ++ (step :: back).reverse)
      | (d, .error e) => (d, .error e) := by
  cases hmade : d.makeDirectories front back with
  | mk d' result => cases result <;> simp only [makeDirectories, h, hmade]

theorem front_prefix (front back : List String) (step : String) :
    front ++ back.reverse <+: front ++ (step :: back).reverse := by
  rw [List.reverse_cons, ← List.append_assoc]
  exact List.prefix_append _ _

theorem grown_makeDirectories (d : Disk) (front back : List String) :
    Grown d (d.makeDirectories front back).1 (front ++ back.reverse) := by
  induction back with
  | nil => exact .refl d _
  | cons step back ih =>
    have hbelow := front_prefix front back step
    by_cases hfound : d.makeDirectory (front ++ (step :: back).reverse) = .error .notFound
    · rw [makeDirectories_cons_of_notFound hfound]
      split
      · rename_i d' hmade
        rw [hmade] at ih
        exact (ih.mono hbelow).trans (d'.grown_ensureDirectory _).1
      · rename_i d' e hmade
        rw [hmade] at ih
        exact ih.mono hbelow
    · rw [makeDirectories_cons_of_found hfound]
      exact (d.grown_ensureDirectory _).1

theorem grown_createDirectories (d : Disk) (path : String) :
    Grown d (d.createDirectories path).1 (Path.resolve d.workingDirectory path) := by
  have h := d.grown_makeDirectories (Path.start d.workingDirectory path) (Path.names path).reverse
  rwa [List.reverse_reverse] at h

/-- Nothing is made where there is a directory already. -/
theorem makeDirectories_of_isDirectory {front back : List String}
    (h : d.isDirectory (front ++ back.reverse) = true) :
    d.makeDirectories front back = (d, .ok ()) := by
  cases back with
  | nil => rfl
  | cons step back =>
    obtain ⟨names, hlocate, hnode⟩ := isDirectory_iff.1 h
    have hmade : d.makeDirectory (front ++ (step :: back).reverse) = .error .alreadyExists := by
      simp only [makeDirectory, hlocate, hnode]
    simp only [makeDirectories, hmade, ensureDirectory, h, if_pos]

theorem createDirectories_of_isDirectory
    (h : d.isDirectory (Path.resolve d.workingDirectory path) = true) :
    d.createDirectories path = (d, .ok ()) :=
  makeDirectories_of_isDirectory (by rwa [List.reverse_reverse])

/-! ## What stays while directories are made -/

/-- Making directories does not change where a path leads if it has no `..`, or else if the
directory that it lies in is there. -/
def Settled (d : Disk) (path : String) : Prop :=
  ".." ∈ Path.resolve d.workingDirectory path →
    d.isDirectory (Path.resolve d.workingDirectory path).dropLast = true

/-- What making the directories of a path leaves of a disk: every file, all that the path leads to,
and no more than that if its steps are settled. -/
structure Kept (d d' : Disk) (path : String) : Prop where
  file_iff : ∀ names bytes,
    d'.node? names = some (.file bytes) ↔ d.node? names = some (.file bytes)
  found : ∀ n, d.at? path = some n → d'.at? path = some n
  same : d.Settled path → d'.at? path = d.at? path

theorem Kept.refl (d : Disk) (path : String) : d.Kept d path :=
  ⟨fun _ _ => Iff.rfl, fun _ h => h, fun _ => rfl⟩

theorem Kept.congr {other : String} (h : d.Kept d' path)
    (hsteps : Path.resolve d.workingDirectory path = Path.resolve d.workingDirectory other)
    (hstat : d.stat path = d.stat other) (hstat' : d'.stat path = d'.stat other) :
    d.Kept d' other where
  file_iff := h.file_iff
  found n hn := by
    rw [at?, ← hstat] at hn
    rw [at?, ← hstat']
    exact h.found n hn
  same hsettled := by
    rw [Settled, ← hsteps] at hsettled
    rw [at?, at?, ← hstat, ← hstat']
    exact h.same hsettled

theorem at?_createDirectories (h : d.Settled path) :
    (d.createDirectories (Path.parent path)).1.at? path = d.at? path := by
  rcases Path.resolve_parent_cases d.workingDirectory path with hnames | ⟨name, hname⟩
  · rw [createDirectories, hnames]
    rfl
  have hgrown := d.grown_createDirectories (Path.parent path)
  by_cases hplain : ".." ∈ Path.resolve d.workingDirectory path
  · have hdir := h hplain
    rw [hname, List.dropLast_concat] at hdir
    rw [createDirectories_of_isDirectory hdir]
  · refine Option.ext fun n => ?_
    rw [at?_eq_some, at?_eq_some]
    refine ⟨fun hstat => ?_, hgrown.stat⟩
    obtain ⟨hne, hasks, names, hlocate, hnode⟩ := stat_eq_ok.1 hstat
    rw [hgrown.workingDirectory] at hlocate
    obtain rfl := eq_of_locate hplain hlocate
    have hparent : ".." ∉ Path.resolve d.workingDirectory (Path.parent path) := fun hmem =>
      hplain (hname ▸ List.mem_append_left _ hmem)
    have hapart : ¬ Path.resolve d.workingDirectory path <+:
        Path.resolve d.workingDirectory (Path.parent path) := by
      rw [hname]
      exact fun hprefix => absurd hprefix.length_le (by simp)
    rw [hgrown.node?_eq hparent hapart] at hnode
    exact stat_eq_ok.2 ⟨hne, hasks, _, locate_of_node? hplain hnode, hnode⟩

theorem kept_createDirectories (d : Disk) (path : String) :
    d.Kept (d.createDirectories (Path.parent path)).1 path where
  file_iff := (d.grown_createDirectories _).file_iff
  found _ h := at?_eq_some.2 ((d.grown_createDirectories _).stat (at?_eq_some.1 h))
  same := at?_createDirectories

/-! ## Paths that can be written to -/

/-- The directories of a path can be made, and then any content can be written. -/
def IsWritable (d : Disk) (path : String) : Prop :=
  ∃ d', d.createDirectories (Path.parent path) = (d', .ok ()) ∧
    ∀ content, ∃ d'', d'.write path content = .ok d''

section Plain

variable {front back : List String}

/-- While no file stands in the way, steps without `..` lead to their names or to nothing. -/
theorem locate_of_noFile (d : Disk) (done : List String) {steps : List String} (hplain : ".." ∉ steps)
    (hfile : ∀ way, way <+: steps → ∀ bytes, d.node? (done ++ way) ≠ some (.file bytes)) :
    d.locate done steps = .ok (done ++ steps) ∨ d.locate done steps = .error .notFound := by
  induction steps generalizing done with
  | nil =>
    rw [List.append_nil]
    exact .inl rfl
  | cons step steps ih =>
    rw [List.mem_cons, not_or] at hplain
    have henter : Path.enter done step = done ++ [step] := by
      rw [Path.enter, if_neg (Ne.symm hplain.1)]
    have happend (way : List String) : done ++ step :: way = done ++ [step] ++ way := by simp
    rw [locate]
    cases hnode : d.node? done with
    | none => exact .inr rfl
    | some n =>
      cases n with
      | file bytes => exact absurd hnode (by simpa using hfile [] List.nil_prefix bytes)
      | directory =>
        simp only [henter]
        rw [happend steps]
        refine ih _ hplain.2 fun way hway bytes => ?_
        rw [← happend]
        exact hfile (step :: way) (List.cons_prefix_cons.2 ⟨rfl, hway⟩) bytes

/-- A directory can be made in one that is there, unless a file stands in its place. -/
theorem exists_ensureDirectory {way : List String} {step : String}
    (hway : d.isDirectory way = true) (hplain : ".." ∉ way ++ [step])
    (hfile : ∀ bytes, d.node? (way ++ [step]) ≠ some (.file bytes)) :
    ∃ d', d.ensureDirectory (way ++ [step]) = (d', .ok ()) ∧ d'.isDirectory (way ++ [step]) = true := by
  rw [List.mem_append, not_or, List.mem_singleton] at hplain
  obtain ⟨names, hlocate, hdir⟩ := isDirectory_iff.1 hway
  obtain rfl := eq_of_locate hplain.1 hlocate
  have hstep : d.locate [] (names ++ [step]) = .ok (names ++ [step]) :=
    locate_concat.2 ⟨names, hlocate, hdir, if_neg (Ne.symm hplain.2)⟩
  have hmade : (d.ensureDirectory (names ++ [step])).2 = .ok () := by
    cases hnode : d.node? (names ++ [step]) with
    | none => simp [ensureDirectory, makeDirectory, hstep, hnode]
    | some n =>
      cases n with
      | file bytes => exact absurd hnode (hfile bytes)
      | directory => simp [ensureDirectory, makeDirectory, isDirectory, hstep, hnode]
  exact ⟨_, Prod.ext rfl hmade, (d.grown_ensureDirectory _).2 hmade⟩

/-- Directories can be made as long as no file stands in the way. -/
theorem exists_makeDirectories (hplain : ".." ∉ front ++ back.reverse)
    (hfront : d.isDirectory front = true)
    (hfile : ∀ way, way <+: front ++ back.reverse → ∀ bytes, d.node? way ≠ some (.file bytes)) :
    ∃ d', d.makeDirectories front back = (d', .ok ()) ∧
      d'.isDirectory (front ++ back.reverse) = true := by
  induction back with
  | nil => exact ⟨d, rfl, by rwa [List.reverse_nil, List.append_nil]⟩
  | cons step back ih =>
    have hself := hfile _ (List.prefix_refl _)
    -- The last directory is made in the one before it, now or once that one is there.
    have hlast (d' : Disk) (hway : d'.isDirectory (front ++ back.reverse) = true)
        (hnode : ∀ bytes, d'.node? (front ++ (step :: back).reverse) ≠ some (.file bytes)) :
        ∃ d'', d'.ensureDirectory (front ++ (step :: back).reverse) = (d'', .ok ()) ∧
          d''.isDirectory (front ++ (step :: back).reverse) = true := by
      rw [List.reverse_cons, ← List.append_assoc] at hplain hnode ⊢
      exact exists_ensureDirectory hway hplain hnode
    rcases d.locate_of_noFile [] hplain hfile with hlocate | hlocate
    · rw [List.nil_append] at hlocate
      have hfound : d.makeDirectory (front ++ (step :: back).reverse) ≠ .error .notFound := by
        cases hnode : d.node? (front ++ (step :: back).reverse) <;>
          simp only [makeDirectory, hlocate, hnode] <;> simp
      have hway : d.isDirectory (front ++ back.reverse) = true := by
        rw [List.reverse_cons, ← List.append_assoc] at hlocate
        obtain ⟨names, hnames, hdir, -⟩ := locate_concat.1 hlocate
        exact isDirectory_iff.2 ⟨names, hnames, hdir⟩
      rw [makeDirectories_cons_of_found hfound]
      exact hlast d hway hself
    · have hmissing : d.makeDirectory (front ++ (step :: back).reverse) = .error .notFound := by
        simp only [makeDirectory, hlocate]
      have hbelow := front_prefix front back step
      obtain ⟨d', hmade, hway⟩ := ih (fun hmem => hplain (hbelow.subset hmem))
        fun way hway => hfile way (hway.trans hbelow)
      have hgrown := d.grown_makeDirectories front back
      rw [makeDirectories_cons_of_notFound hmissing, hmade]
      rw [hmade] at hgrown
      refine hlast d' hway fun bytes hnode => ?_
      exact hself bytes ((hgrown.file_iff _ bytes).1 hnode)

theorem exists_createDirectories (hplain : ".." ∉ Path.resolve d.workingDirectory path)
    (hstart : d.isDirectory (Path.start d.workingDirectory path) = true)
    (hfile : ∀ way, way <+: Path.resolve d.workingDirectory path →
      ∀ bytes, d.node? way ≠ some (.file bytes)) :
    ∃ d', d.createDirectories path = (d', .ok ()) ∧
      d'.isDirectory (Path.resolve d.workingDirectory path) = true := by
  have hmade := @exists_makeDirectories d (Path.start d.workingDirectory path)
    (Path.names path).reverse
  rw [List.reverse_reverse] at hmade
  exact hmade hplain hstart hfile

/-- A name in a directory without `..` can be written to if no file stands on the way there and no
directory in its place. -/
theorem isWritable_join {directory name : String} (h : Path.IsName name)
    (hplain : ".." ∉ Path.resolve d.workingDirectory directory)
    (hstart : d.isDirectory (Path.start d.workingDirectory directory) = true)
    (hfile : ∀ way, way <+: Path.resolve d.workingDirectory directory →
      ∀ bytes, d.node? way ≠ some (.file bytes))
    (hplace : d.node? (Path.resolve d.workingDirectory directory ++ [name]) ≠ some .directory) :
    d.IsWritable (Path.join directory name) := by
  have hparent := Path.resolve_parent_join h d.workingDirectory directory
  have hgrown := d.grown_createDirectories (Path.parent (Path.join directory name))
  rw [hparent] at hgrown
  obtain ⟨d', hmade, hdir⟩ := d.exists_createDirectories (hparent.symm ▸ hplain)
    ((Path.start_parent_join h d.workingDirectory directory).symm ▸ hstart) (hparent.symm ▸ hfile)
  rw [hparent] at hdir
  rw [hmade] at hgrown
  refine ⟨d', hmade, fun content => ?_⟩
  obtain ⟨names, hlocate, hnode⟩ := isDirectory_iff.1 hdir
  obtain rfl := eq_of_locate hplain hlocate
  have hstep := locate_concat.2 ⟨_, hlocate, hnode, h.enter_eq _⟩
  have hapart : ¬ Path.resolve d.workingDirectory directory ++ [name] <+:
      Path.resolve d.workingDirectory directory :=
    fun hprefix => absurd hprefix.length_le (by simp)
  rw [← hgrown.node?_eq hplain hapart] at hplace
  have hasks := Path.asksDirectory_join h directory
  exact ⟨_, write_of_locate hasks (by rwa [hgrown.workingDirectory, Path.resolve_join h]) hplace⟩

end Plain

end PickupGame.Storage.Disk
