import Mathlib.Data.List.Forall2
import PickupGame.CommandLine.Layout
import PickupGame.Proofs.Numeral.Decimal

/-!
# Scanning one level

What is found at a level whose arguments are options with their values attached, and then the word
of the next level or, behind two dashes, all operands of this one. Options are recorded as they come,
an operand when the next one is there or the arguments end.
-/

namespace PickupGame.CommandLine

/-! ## Values -/

/-- The values of a kind, within its limits. -/
inductive Kind.Holds : Kind → Datum → Prop
  | text (s : String) : Holds .text (.text s)
  | number32 {n : Nat} (h : n ≤ Numeral.maxU32) : Holds .number32 (.number n)
  | number64 {n : Nat} (h : n ≤ Numeral.maxU64) : Holds .number64 (.number n)

theorem Kind.read_written {k : Kind} {d : Datum} (h : k.Holds d) : k.read d.written = .ok d := by
  cases h with
  | text s => rfl
  | @number32 n h =>
    have hle : n ≤ Numeral.maxI64 := Nat.le_trans h (by decide)
    simp [read, Datum.written, Api.decimal, Numeral.readInt_digits _ hle, Int.ofNat_le.2 h]
  | number64 h => simp [read, Datum.written, Api.decimal, Numeral.readNat_digits h]

/-! ## Shapes -/

/-- The name of an option ends at the first equals sign. -/
theorem Shape.ofLong_append {name value : List Char} (h : '=' ∉ name)
    (hvalue : value.takeWhile (· ≠ '=') = []) :
    ofLong (name ++ value) = .long (String.ofList name) (value.tail?.map String.ofList) := by
  have hall : ∀ c ∈ name, decide (c ≠ '=') = true := by
    intro c hc
    exact decide_eq_true fun he => h (he ▸ hc)
  unfold ofLong
  rw [List.takeWhile_append_of_pos hall, List.dropWhile_append_of_pos hall, hvalue]
  cases value with
  | nil => simp
  | cons c cs =>
    have hc : c = '=' := by
      by_contra hne
      simp [hne] at hvalue
    simp [hc]

namespace Opt

theorem long_injective {o o' : Opt} (h : o.long = o'.long) : o = o' := by
  revert h
  cases o <;> cases o' <;> decide

theorem toList_argument (o : Opt) (d : Datum) :
    (o.argument d).toList = '-' :: '-' :: (o.long.toList ++
      match o.value? with
      | some _ => '=' :: d.written.toList
      | none => []) := by
  unfold argument
  cases o.value? <;> simp

theorem ofChars_argument (o : Opt) (d : Datum) :
    Shape.ofChars (o.argument d).toList = .long o.long (o.value?.map fun _ => d.written) := by
  have hmark : '=' ∉ o.long.toList := by cases o <;> decide
  have hname : ∃ c cs, o.long.toList = c :: cs := by cases o <;> exact ⟨_, _, rfl⟩
  obtain ⟨c, cs, hname⟩ := hname
  have hlong (back : List Char) : Shape.ofChars ('-' :: '-' :: (o.long.toList ++ back)) =
      .ofLong (o.long.toList ++ back) := by
    rw [hname]
    rfl
  rw [toList_argument, hlong]
  cases o.value? with
  | some v =>
    have hvalue : ('=' :: d.written.toList).takeWhile (· ≠ '=') = [] := rfl
    simp [Shape.ofLong_append hmark hvalue]
  | none =>
    rw [Shape.ofLong_append hmark rfl]
    simp

/-- The values that an option can be written with. Asking for help or for the version is no option
of a command. -/
def Takes (o : Opt) (d : Datum) : Prop :=
  match o.value? with
  | some (kind, _) => kind.Holds d
  | none => d = .text "" ∧ o ≠ .help ∧ o ≠ .version

end Opt

/-! ## Options and words -/

namespace Found

theorem flush_of_nothing {f : Found} (h : f.pending = .nothing) : f.flush = .ok f := by
  obtain ⟨options, operands, begun, pending⟩ := f
  cases h
  rfl

theorem begun_flush {f rest : Found} (h : f.flush = .ok rest) : rest.begun = f.begun := by
  unfold flush addOption addOperand at h
  grind

theorem addOption_written {f : Found} {o : Opt} {d : Datum} (hfresh : f.has o = false)
    (htakes : o.Takes d) :
    f.addOption o (if o.value?.isSome then d.written else "") =
      .ok { f with options := f.options ++ [(o, d)] } := by
  unfold Opt.Takes at htakes
  unfold addOption
  rw [hfresh, if_neg Bool.false_ne_true]
  split at htakes
  · rename_i kind name hvalue
    simp [hvalue, Kind.read_written htakes]
  · rename_i hvalue
    simp [hvalue, htakes.1]

end Found

namespace Level

variable {σ : Type} {l : Level σ} {f : Found}

theorem long?_of_mem {o : Opt} (h : o ∈ l.options) : l.long? o.long = some o := by
  unfold long?
  cases hfind : l.options.find? (·.long = o.long) with
  | none => simpa using List.find?_eq_none.1 hfind o h
  | some o' =>
    have hlong : o'.long = o.long := by simpa using List.find?_some hfind
    rw [Opt.long_injective hlong]

theorem takeLong_argument {o : Opt} {d : Datum} (hmem : o ∈ l.options) (htakes : o.Takes d)
    (hfresh : f.has o = false) (hpending : f.pending = .nothing) :
    l.takeLong f o.long (o.value?.map fun _ => d.written) =
      .ok { f with options := f.options ++ [(o, d)] } := by
  have hadd := Found.addOption_written hfresh htakes
  simp only [takeLong, long?_of_mem hmem]
  cases hvalue : o.value? with
  | some v =>
    rw [hvalue] at hadd
    simp only [Option.map_some, Found.giveOption, Found.flush_of_nothing hpending]
    exact hadd
  | none =>
    rw [hvalue] at hadd
    have hflag : o ≠ .help ∧ o ≠ .version := by
      rw [Opt.Takes, hvalue] at htakes
      exact htakes.2
    simp only [Option.map_none, Found.giveFlag, Found.flush_of_nothing hpending]
    split
    · exact absurd rfl hflag.1
    · exact absurd rfl hflag.2
    · exact hadd

/-- No word of the level looks like an option. -/
def Plain (l : Level σ) : Prop :=
  ∀ w ∈ l.words, w.1.toList.head? ≠ some '-'

theorem Plain.isWord_eq_false (h : l.Plain) {arg : String} (harg : arg.toList.head? = some '-') :
    l.isWord arg = false := by
  have hhelp : arg ≠ "help" := by
    rintro rfl
    exact absurd harg (by decide)
  have hlookup : l.words.lookup arg = none := by
    rw [List.lookup_eq_none_iff]
    intro w hw
    have hne : arg ≠ w.1 := by
      rintro rfl
      exact h w hw harg
    simpa using hne
  simp [isWord, hhelp, hlookup]

theorem Plain.word?_eq_none (h : l.Plain) {arg : String} (harg : arg.toList.head? = some '-')
    (hpending : f.pending = .nothing) : l.word? f arg = none := by
  rw [word?, hpending]
  simp [h.isWord_eq_false harg]

theorem scan_argument (h : l.Plain) {o : Opt} {d : Datum} (hmem : o ∈ l.options)
    (htakes : o.Takes d) (hfresh : f.has o = false) (hpending : f.pending = .nothing)
    (args : List String) :
    l.scan f (o.argument d :: args) =
      l.scan { f with options := f.options ++ [(o, d)] } args := by
  have hdash : (o.argument d).toList.head? = some '-' := by
    rw [Opt.toList_argument]
    rfl
  rw [scan, h.word?_eq_none hdash hpending, Opt.ofChars_argument]
  simp only [takeLong_argument hmem htakes hfresh hpending]

/-- Options are taken one by one, whatever stands behind them. -/
theorem scan_options (h : l.Plain) {es : List (Opt × Datum)}
    (hes : ∀ e ∈ es, e.1 ∈ l.options ∧ e.1.Takes e.2)
    (hnodup : ((f.options ++ es).map Prod.fst).Nodup) (hpending : f.pending = .nothing)
    (args : List String) :
    l.scan f ((es.map fun e => e.1.argument e.2) ++ args) =
      l.scan { f with options := f.options ++ es } args := by
  induction es generalizing f with
  | nil => simp
  | cons e es ih =>
    obtain ⟨o, d⟩ := e
    obtain ⟨hmem, htakes⟩ := hes _ List.mem_cons_self
    have hfresh : f.has o = false := by
      have hnot : o ∉ f.options.map Prod.fst := by
        rw [List.map_append, List.map_cons] at hnodup
        exact fun hin => (List.nodup_append.1 hnodup).2.2 o hin o List.mem_cons_self rfl
      rw [Found.has, Found.get?, Option.isSome_eq_false_iff, Option.isNone_iff_eq_none,
        List.lookup_eq_none_iff]
      intro e he
      have hne : o ≠ e.1 := fun heq => hnot (List.mem_map.2 ⟨e, he, heq.symm⟩)
      simpa using hne
    rw [List.append_cons] at hnodup
    have hrest := ih (f := { f with options := f.options ++ [(o, d)] })
      (fun e he => hes e (List.mem_cons_of_mem _ he)) hnodup hpending
    rw [List.map_cons, List.cons_append, scan_argument h hmem htakes hfresh hpending, hrest,
      ← List.append_cons]

theorem scan_word {word : String} {next : σ} (hword : l.words.lookup word = some next)
    (hpending : f.pending = .nothing) (args : List String) :
    l.scan f (word :: args) = .ok (f, some (next, args)) := by
  have hwords : l.words ≠ [] := by
    rintro hnil
    rw [hnil] at hword
    cases hword
  have his : l.isWord word = true := by simp [isWord, hword, hwords]
  rw [scan, word?, hpending]
  simp [his, hword]

theorem scan_dashes (h : l.Plain) (hpending : f.pending = .nothing) (args : List String) :
    l.scan f ("--" :: args) = (l.takeOperands f args).map (·, none) := by
  rw [scan, h.word?_eq_none rfl hpending]
  rfl

/-! ## Operands -/

/-- As many arguments as there are operands left are taken, the last of them being recorded when
the level is done. -/
theorem takeOperands_written {done ps : List Operand} {ds : List Datum} {rest : Found}
    (hds : List.Forall₂ (fun p d => p.kind.Holds d) ps ds) (hoperands : l.operands = done ++ ps)
    (hbegun : rest.begun = done.length) (hflush : f.flush = .ok rest) :
    ∃ f' rest', l.takeOperands f (ds.map Datum.written) = .ok f' ∧ f'.flush = .ok rest' ∧
      rest'.options = rest.options ∧ rest'.operands = rest.operands ++ ds := by
  induction hds generalizing done f rest with
  | nil => exact ⟨f, rest, rfl, hflush, rfl, (List.append_nil _).symm⟩
  | @cons p d ps ds hd hds ih =>
    have hnext : l.operands[f.begun]? = some p := by
      rw [← Found.begun_flush hflush, hbegun, hoperands]
      simp
    have htake : l.takeOperand true f d.written =
        .ok { rest with pending := .ready (.operand p) d.written, begun := rest.begun + 1 } := by
      simp [takeOperand, hnext, hflush]
    have hdone : l.operands = (done ++ [p]) ++ ps := by rw [hoperands, List.append_cons]
    let next : Found :=
      { rest with operands := rest.operands ++ [d], begun := rest.begun + 1, pending := .nothing }
    have hnextBegun : next.begun = (done ++ [p]).length := by simp [next, hbegun]
    have hnextFlush : Found.flush { rest with
        pending := .ready (.operand p) d.written, begun := rest.begun + 1 } = .ok next := by
      simp [next, Found.flush, Found.addOperand, Kind.read_written hd]
    obtain ⟨f', rest', htakes, hflushed, hoptions, hread⟩ := ih hdone hnextBegun hnextFlush
    refine ⟨f', rest', by simp [takeOperands, htake, htakes], hflushed, hoptions, ?_⟩
    rw [hread, List.append_assoc]
    rfl

end Level

end PickupGame.CommandLine
