import PickupGame.Proofs.CommandLine.Environment
import PickupGame.Proofs.CommandLine.Scan

/-!
# Reading what was written

Every invocation has a command line, and is read from each of its command lines, wherever the options
stand and whatever their values and the operands are. The environment adds to it what it has for an
API key or an address that is not given.
-/

namespace PickupGame.CommandLine

/-! ## Commands and their parts -/

theorem Verb.notMem_general (v : Verb) : ∀ o ∈ v.options, o ∉ Opt.general := by
  cases v <;> decide

namespace Command

theorem holds_operands (c : Command) :
    List.Forall₂ (fun p d => p.kind.Holds d) c.verb.operands c.operands := by
  have hnumber (n : UInt64) : Kind.number64.Holds (.number n.toNat) :=
    .number64 (Nat.le_of_lt_succ n.toNat_lt)
  cases c with
  | call c =>
    cases c with
    | addPlayer steamId name _ _ => exact .cons (hnumber steamId) (.cons (.text name) .nil)
    | removePlayer steamId => exact .cons (hnumber steamId) .nil
    | createPug steamId name _ _ => exact .cons (hnumber steamId) (.cons (.text name) .nil)
    | endPug pugId => exact .cons (hnumber pugId) .nil
    | listPugs => exact .nil
    | pugStatus pugId => exact .cons (hnumber pugId) .nil
    | listPugPlayers pugId => exact .cons (hnumber pugId) .nil
    | addMapVote steamId map => exact .cons (hnumber steamId) (.cons (.text map) .nil)
    | forceMap pugId map => exact .cons (hnumber pugId) (.cons (.text map) .nil)
  | showConfig => exact .nil
  | setConfig key value => exact .cons (.text key) (.cons (.text value) .nil)

/-- Only options of the verb have a value with a command, and it is one that they take. -/
theorem of_option? {c : Command} {o : Opt} {d : Datum} (h : c.option? o = some d) :
    o ∈ c.verb.options ∧ o.Takes d := by
  have hsize (n : UInt32) : Opt.size.Takes (.number n.toNat) :=
    Kind.Holds.number32 (Nat.le_of_lt_succ n.toNat_lt)
  unfold option? at h
  split at h
  · cases h
    exact ⟨List.mem_cons_self, hsize _⟩
  · obtain ⟨n, -, rfl⟩ := Option.map_eq_some_iff.1 h
    exact ⟨List.mem_cons_of_mem _ List.mem_cons_self,
      Kind.Holds.number64 (Nat.le_of_lt_succ n.toNat_lt)⟩
  · cases h
    exact ⟨List.mem_cons_self, hsize _⟩
  · obtain ⟨map, -, rfl⟩ := Option.map_eq_some_iff.1 h
    exact ⟨List.mem_cons_of_mem _ List.mem_cons_self, Kind.Holds.text map⟩
  · cases h

theorem option?_eq_none (c : Command) {o : Opt} (h : o ∈ Opt.general) : c.option? o = none := by
  cases hd : c.option? o with
  | none => rfl
  | some d => exact absurd h (c.verb.notMem_general o (of_option? hd).1)

@[simp] theorem size_number (n : UInt32) : size (some (.number n.toNat)) = n :=
  UInt32.ofNat_toNat

@[simp] theorem number?_number (n : Option UInt64) :
    number? (n.map fun n => .number n.toNat) = n := by
  cases n with
  | none => rfl
  | some n => exact congrArg some UInt64.ofNat_toNat

@[simp] theorem text?_text (s : Option String) : text? (s.map .text) = s := by
  cases s <;> rfl

@[simp] theorem id_toNat (n : UInt64) : id n.toNat = n :=
  UInt64.ofNat_toNat

/-- A command is made of its operands and options; the usual size need not be given. -/
theorem ofParts?_operands {c : Command} {option : Opt → Option Datum}
    (h : ∀ o, o ∉ Opt.general → option o = c.option? o ∨
      o = .size ∧ option o = none ∧ c.option? o = some (.number Api.defaultPugSize.toNat)) :
    ofParts? option c.verb c.operands = some c := by
  have hsize : size (option .size) = size (c.option? .size) := by
    rcases h .size (by decide) with h | ⟨-, hnone, hsome⟩
    · rw [h]
    · rw [hnone, hsome]
      decide
  have hpug : option .pug = c.option? .pug := by simpa using h .pug (by decide)
  have hmap : option .map = c.option? .map := by simpa using h .map (by decide)
  clear h
  cases c with
  | call c =>
    cases c <;> simp [ofParts?, verb, operands, hsize, hpug, hmap, option?]
  | showConfig => rfl
  | setConfig key value => rfl

end Command

/-! ## Settings -/

theorem Options.of_value? {os : Options} {o : Opt} {d : Datum} (h : os.value? o = some d) :
    o ∈ Opt.general ∧ o.Takes d := by
  have hflag {b : Bool} (h : (if b then some (Datum.text "") else none) = some d) :
      d = .text "" := by
    split at h
    · exact (Option.some.inj h).symm
    · cases h
  have htext {s : Option String} (h : s.map Datum.text = some d) : Kind.text.Holds d := by
    obtain ⟨s, -, rfl⟩ := Option.map_eq_some_iff.1 h
    exact .text s
  unfold value? at h
  split at h
  · exact ⟨by decide, hflag h, by decide⟩
  · exact ⟨by decide, hflag h, by decide⟩
  · exact ⟨by decide, htext h⟩
  · exact ⟨by decide, htext h⟩
  · exact ⟨by decide, htext h⟩
  · exact ⟨by decide, htext h⟩
  · cases h

namespace Invocation

variable (i : Invocation) (os : List Opt) (o : Opt)

theorem value?_of_mem {o : Opt} (h : o ∈ Opt.general) : i.value? o = i.options.value? o := by
  rw [value?, i.command.option?_eq_none h, Option.or_none]

theorem value?_of_notMem {o : Opt} (h : o ∉ Opt.general) : i.value? o = i.command.option? o := by
  have hnone : i.options.value? o = none := by
    cases hd : i.options.value? o with
    | none => rfl
    | some d => exact absurd (Options.of_value? hd).1 h
  rw [value?, hnone, Option.none_or]

/-- What an invocation gives is an option of its last level, with a value that it takes. -/
theorem of_value? {i : Invocation} {o : Opt} {d : Datum} (h : i.value? o = some d) :
    o ∈ (verbLevel i.command.verb).options ∧ o.Takes d := by
  rw [value?, Option.or_eq_some_iff] at h
  rcases h with h | ⟨-, h⟩
  · obtain ⟨hmem, htakes⟩ := Options.of_value? h
    exact ⟨List.mem_append_left _ hmem, htakes⟩
  · obtain ⟨hmem, htakes⟩ := Command.of_option? h
    exact ⟨List.mem_append_right _ hmem, htakes⟩

theorem settings_cons : i.settings (o :: os) =
    ((i.value? o).map fun d => (o, d)).toList ++ i.settings os := by
  rw [settings, List.filterMap_cons]
  cases i.value? o <;> rfl

theorem lookup_settings : (i.settings os).lookup o = if o ∈ os then i.value? o else none := by
  induction os with
  | nil => rfl
  | cons o' os ih =>
    rw [settings_cons, List.lookup_append, ih]
    by_cases ho : o = o'
    · subst ho
      cases hd : i.value? o <;> simp
    · have hb : (o == o') = false := by simpa using ho
      cases i.value? o' <;> simp [List.lookup_cons, ho, hb]

theorem map_fst_settings :
    (i.settings os).map Prod.fst = os.filter fun o => (i.value? o).isSome := by
  induction os with
  | nil => rfl
  | cons o os ih =>
    rw [settings_cons, List.map_append, ih]
    cases hd : i.value? o <;> simp [hd]

theorem mem_settings {e : Opt × Datum} (h : e ∈ i.settings os) :
    e.1 ∈ os ∧ i.value? e.1 = some e.2 := by
  obtain ⟨o, ho, he⟩ := List.mem_filterMap.1 h
  obtain ⟨d, hd, rfl⟩ := Option.map_eq_some_iff.1 he
  exact ⟨ho, hd⟩

end Invocation

/-! ## Levels -/

theorem plain_programLevel : programLevel.Plain := by
  unfold Level.Plain
  decide

theorem plain_topicLevel (t : Topic) : (topicLevel t).Plain := by
  unfold Level.Plain
  cases t <;> decide

theorem plain_verbLevel (v : Verb) : (verbLevel v).Plain := nofun

theorem lookup_topic (t : Topic) : programLevel.words.lookup t.word = some t := by
  cases t <;> decide

theorem lookup_verb (v : Verb) : (topicLevel v.topic).words.lookup v.word = some v := by
  cases v <;> decide

/-- What is found at a level whose arguments are options that an invocation gives. -/
def Invocation.found (i : Invocation) (os : List Opt) : Found :=
  { Found.empty with options := i.settings os }

theorem Level.scan_optionArguments {σ : Type} {l : Level σ} (h : l.Plain) {i : Invocation}
    {os : List Opt} (hnodup : os.Nodup) (hos : ∀ o ∈ os, i.value? o ≠ none → o ∈ l.options)
    (args : List String) :
    l.scan .empty (Layout.optionArguments i os ++ args) = l.scan (i.found os) args := by
  have htakes : ∀ e ∈ i.settings os, e.1 ∈ l.options ∧ e.1.Takes e.2 := by
    intro e he
    obtain ⟨hmem, hvalue⟩ := i.mem_settings os he
    exact ⟨hos _ hmem (by simp [hvalue]), (Invocation.of_value? hvalue).2⟩
  have hfresh : ((Found.empty.options ++ i.settings os).map Prod.fst).Nodup := by
    rw [Found.empty, List.nil_append, i.map_fst_settings]
    exact hnodup.filter _
  exact l.scan_options h htakes hfresh rfl args

namespace Layout

variable {l : Layout} {i : Invocation} (h : l.Fits i)
include h

/-- What is left out is an option that the invocation does not give, or the usual size. -/
theorem Fits.of_notMem {o : Opt} (ho : o ∉ l.outer ++ l.middle ++ l.inner) :
    i.value? o = none ∨ o = .size ∧ i.value? o = some (.number Api.defaultPugSize.toNat) := by
  by_contra! hne
  rcases h.complete o hne.1 with hmem | ⟨hsize, hvalue⟩
  · exact ho hmem
  · exact hne.2 hsize hvalue

theorem Fits.ofParts?_inner :
    Command.ofParts? (fun o => (i.settings l.inner).lookup o) i.command.verb i.command.operands =
      some i.command := by
  apply Command.ofParts?_operands
  intro o ho
  simp only [i.lookup_settings, ← i.value?_of_notMem ho]
  by_cases hmem : o ∈ l.inner
  · exact .inl (if_pos hmem)
  · have hout : o ∉ l.outer ++ l.middle ++ l.inner := by
      rw [List.mem_append, not_or]
      exact ⟨fun hfront => ho (h.general o hfront), hmem⟩
    rw [if_neg hmem]
    rcases h.of_notMem hout with hnone | ⟨hsize, hvalue⟩
    · exact .inl hnone.symm
    · exact .inr ⟨hsize, rfl, hvalue⟩

theorem Fits.parseVerb_arguments : ∃ f, parseVerb i.command.verb
      (optionArguments i l.inner ++ "--" :: i.command.operands.map Datum.written) =
        .ok (i.command, f) ∧ f.options = i.settings l.inner := by
  have hgiven : ∀ o ∈ l.inner, i.value? o ≠ none → o ∈ (verbLevel i.command.verb).options := by
    intro o _ hvalue
    obtain ⟨d, hd⟩ := Option.ne_none_iff_exists'.1 hvalue
    exact (Invocation.of_value? hd).1
  have hscan := Level.scan_optionArguments (plain_verbLevel i.command.verb) h.nodup.2.2 hgiven
    ("--" :: i.command.operands.map Datum.written)
  rw [Level.scan_dashes (plain_verbLevel _) rfl] at hscan
  have hall : (verbLevel i.command.verb).operands = [] ++ i.command.verb.operands := rfl
  obtain ⟨f, rest, htake, hflush, hoptions, hoperands⟩ :=
    Level.takeOperands_written (f := i.found l.inner) i.command.holds_operands hall rfl rfl
  refine ⟨rest, ?_, hoptions⟩
  have hparts : Command.ofParts? rest.get? i.command.verb rest.operands = some i.command := by
    unfold Found.get?
    rw [hoptions, hoperands]
    exact h.ofParts?_inner
  rw [parseVerb, hscan, htake]
  simp only [bind, Except.bind, Except.map, hflush, hparts]
  rfl

theorem Fits.parseTopic_arguments (env : Environment) : ∃ f, parseTopic env i.command.verb.topic
      (optionArguments i l.middle ++ i.command.verb.word ::
        (optionArguments i l.inner ++ "--" :: i.command.operands.map Datum.written)) =
        .ok (i.command, [f, i.found l.middle]) ∧ f.options = i.settings l.inner := by
  obtain ⟨f, hverb, hoptions⟩ := h.parseVerb_arguments
  refine ⟨f, ?_, hoptions⟩
  have hgeneral : ∀ o ∈ l.middle, i.value? o ≠ none → o ∈ Opt.general := fun o ho _ =>
    h.general o (List.mem_append_right _ ho)
  rw [parseTopic, Level.scan_optionArguments (plain_topicLevel _) h.nodup.2.1 hgeneral,
    Level.scan_word (lookup_verb i.command.verb) rfl]
  simp only [bind, Except.bind, hverb]
  rfl

theorem Fits.parseProgram_arguments (env : Environment) : ∃ f, parseProgram env (l.arguments i) =
      .ok (i.command, [f, i.found l.middle, i.found l.outer]) ∧
        f.options = i.settings l.inner := by
  obtain ⟨f, htopic, hoptions⟩ := h.parseTopic_arguments env
  refine ⟨f, ?_, hoptions⟩
  have hgeneral : ∀ o ∈ l.outer, i.value? o ≠ none → o ∈ programLevel.options := fun o ho _ =>
    List.mem_append_left _ (h.general o (List.mem_append_left _ ho))
  rw [parseProgram, arguments, Level.scan_optionArguments plain_programLevel h.nodup.1 hgeneral,
    Level.scan_word (lookup_topic i.command.verb.topic) rfl]
  simp only [bind, Except.bind, htopic]
  rfl

/-! ## Options -/

section Found

variable {f : Found} (hf : f.options = i.settings l.inner)
include hf

/-- What the levels have of a general option is its value, or nothing where it does not stand. -/
theorem Fits.get?_levels {o : Opt} (ho : o ∈ Opt.general) :
    (∀ f' ∈ [f, i.found l.middle, i.found l.outer],
        f'.get? o = none ∨ f'.get? o = i.options.value? o) ∧
      ∃ f' ∈ [f, i.found l.middle, i.found l.outer], f'.get? o = i.options.value? o := by
  have hlevel (f' : Found) (os : List Opt) (hf' : f'.options = i.settings os) :
      f'.get? o = if o ∈ os then i.options.value? o else none := by
    rw [Found.get?, hf', i.lookup_settings, i.value?_of_mem ho]
  have hinner := hlevel f l.inner hf
  have hmiddle := hlevel (i.found l.middle) l.middle rfl
  have houter := hlevel (i.found l.outer) l.outer rfl
  simp only [List.forall_mem_cons, List.exists_mem_cons_iff, hinner, hmiddle, houter]
  refine ⟨⟨?_, ?_, ?_, List.forall_mem_nil _⟩, ?_⟩
  · split <;> simp
  · split <;> simp
  · split <;> simp
  · by_cases hmem : o ∈ l.outer ++ l.middle ++ l.inner
    · simp only [List.mem_append] at hmem
      rcases hmem with (hmem | hmem) | hmem <;> simp [hmem]
    · -- An option that stands nowhere is not given.
      have hnone : i.options.value? o = none := by
        rw [← i.value?_of_mem ho]
        rcases h.of_notMem hmem with hnone | ⟨rfl, -⟩
        · exact hnone
        · exact absurd ho (by decide)
      simp [hnone]

theorem Fits.optionText_levels (env : Environment) {o : Opt} (ho : o ∈ Opt.general) :
    optionText env [f, i.found l.middle, i.found l.outer] o =
      (Command.text? (i.options.value? o)).or (env.value? o) := by
  obtain ⟨hall, f', hmem, hf'⟩ := h.get?_levels hf ho
  rw [optionText]
  congr 1
  cases hvalue : Command.text? (i.options.value? o) with
  | none =>
    rw [List.findSome?_eq_none_iff]
    intro f'' hf''
    rcases hall f'' hf'' with hget | hget
    · rw [hget]
      rfl
    · rw [hget, hvalue]
  | some s =>
    cases hfind : [f, i.found l.middle, i.found l.outer].findSome?
        fun f => Command.text? (f.get? o) with
    | none =>
      rw [List.findSome?_eq_none_iff] at hfind
      rw [← hf', hfind f' hmem] at hvalue
      cases hvalue
    | some s' =>
      obtain ⟨f'', hf'', htext⟩ := List.exists_of_findSome?_eq_some hfind
      rcases hall f'' hf'' with hget | hget
      · rw [hget] at htext
        cases htext
      · rw [← htext, hget, hvalue]

theorem Fits.any_has_levels {o : Opt} (ho : o ∈ Opt.general) :
    [f, i.found l.middle, i.found l.outer].any (·.has o) = (i.options.value? o).isSome := by
  obtain ⟨hall, f', hmem, hf'⟩ := h.get?_levels hf ho
  rw [Bool.eq_iff_iff, List.any_eq_true]
  constructor
  · rintro ⟨f'', hf'', hhas⟩
    rcases hall f'' hf'' with hget | hget
    · rw [Found.has, hget] at hhas
      cases hhas
    · rwa [Found.has, hget] at hhas
  · intro hsome
    exact ⟨f', hmem, by rwa [Found.has, hf']⟩

end Found

/-- The options of all levels are those of the invocation, and what the environment adds to them. -/
theorem Fits.ofFound_levels (env : Environment) {f : Found} (hf : f.options = i.settings l.inner) :
    Options.ofFound env [f, i.found l.middle, i.found l.outer] = i.options.within env := by
  have hunnamed {o : Opt} (ho : o.environmentName? = none) : env.value? o = none := by
    rw [Environment.value?, ho]
  have hflag (b : Bool) : (if b then some (Datum.text "") else none).isSome = b := by
    cases b <;> rfl
  unfold Options.ofFound Options.within
  rw [h.any_has_levels hf (o := .verbose) (by decide), h.any_has_levels hf (o := .json) (by decide),
    h.optionText_levels hf env (o := .profile) (by decide),
    h.optionText_levels hf env (o := .configDir) (by decide),
    h.optionText_levels hf env (o := .apiKey) (by decide),
    h.optionText_levels hf env (o := .url) (by decide),
    hunnamed (o := .profile) rfl, hunnamed (o := .configDir) rfl]
  simp [Options.value?, hflag]

end Layout

namespace Invocation

/-- The options may all stand behind the verb. -/
theorem exists_fits (i : Invocation) : ∃ l : Layout, l.Fits i := by
  refine ⟨⟨[], [], Opt.general ++ [.size, .pug, .map]⟩, ⟨by decide, nofun, ?_⟩⟩
  intro o hvalue
  obtain ⟨d, hd⟩ := Option.ne_none_iff_exists'.1 hvalue
  have hmem := (of_value? hd).1
  generalize i.command.verb = v at hmem
  left
  revert hmem
  cases v <;> cases o <;> decide

/-- Every invocation has command lines. Each of them is read as the invocation where the environment
has no API key and no address, and else these are added if they are not given. -/
theorem parse_arguments (i : Invocation) :
    (∃ l : Layout, l.Fits i) ∧ ∀ l : Layout, l.Fits i → ∀ env : Environment,
      (env.bindings.lookup "PUG_API_KEY" = none → env.bindings.lookup "PUG_API_URL" = none →
        parse env (l.arguments i) = .ok i) ∧
      parse env (l.arguments i) = .ok { i with options := { i.options with
        apiKey := i.options.apiKey.or (env.bindings.lookup "PUG_API_KEY")
        url := i.options.url.or (env.bindings.lookup "PUG_API_URL") } } := by
  refine ⟨i.exists_fits, fun l h env => ?_⟩
  obtain ⟨f, hprogram, hoptions⟩ := h.parseProgram_arguments env
  have hparse : parse env (l.arguments i) = .ok (i.within env) := by
    rw [parse, hprogram]
    simp only [h.ofFound_levels env hoptions]
    rfl
  refine ⟨fun hkey hurl => ?_, hparse⟩
  have hunset : env.value? .apiKey = none ∧ env.value? .url = none := ⟨hkey, hurl⟩
  rw [hparse, within, Options.within, hunset.1, hunset.2, Option.or_none, Option.or_none]

/-- Options at all three levels, an empty one among them, and a name that looks like an option. -/
theorem parse_arguments_odd :
    let i : Invocation := ⟨⟨true, some "-x=y", none, none, some "", true⟩,
      .call (.addPlayer 18446744073709551615 "--help" 12 (some 0))⟩
    let l : Layout := ⟨[.profile], [.verbose], [.pug, .url, .json]⟩
    let env : Environment := ⟨[("PUG_API_KEY", "k"), ("PUG_API_URL", "http://pug.example.test")]⟩
    l.arguments i = ["--profile=-x=y", "player", "--verbose", "add", "--pug=0", "--url=", "--json",
        "--", "18446744073709551615", "--help"] ∧
      l.Fits i ∧
      parse env (l.arguments i) = .ok { i with options := { i.options with apiKey := some "k" } } := by
  intro i l env
  have hfits : l.Fits i := by
    refine ⟨by decide, by decide, fun o => ?_⟩
    cases o <;> decide
  exact ⟨by decide, hfits, (i.parse_arguments.2 l hfits env).2⟩

end Invocation

end PickupGame.CommandLine
