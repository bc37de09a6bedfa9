import Mathlib.Tactic.IntervalCases
import PickupGame.Toml.Writer

/-!
# Reading back strings and keys

In whatever style a text is written, reading the string gives the text. For strings over several
lines a relation says how a text may be spelled between the triple quotes: its own quotes stand at
most two in a row, so that the closing ones are found.
-/

namespace PickupGame.Toml

/-! ## Escapes -/

theorem isText_of_not_isControl {c : Char} (h : isControl c = false) (hn : c ≠ '\n') :
    isText c = true := by
  simp only [isControl, Bool.or_eq_false_iff, Bool.and_eq_false_iff, decide_eq_false_iff_not] at h
  simp only [isText, Bool.or_eq_true, Bool.and_eq_true, decide_eq_true_eq]
  by_cases ht : c = '\t'
  · exact .inl ht
  · refine .inr ⟨?_, h.2⟩
    simp [ht, hn] at h
    omega

theorem toNat_of_isControl {c : Char} (h : isControl c = true) :
    c.toNat < 0x20 ∨ c.toNat = 0x7F := by
  simp only [isControl, Bool.or_eq_true, Bool.and_eq_true, decide_eq_true_eq] at h
  rcases h with ⟨⟨h, -⟩, -⟩ | h
  · exact .inl h
  · exact .inr h

/-- What stands behind a backslash for a character. -/
def Escapes (t : List Char) (c : Char) : Prop :=
  ∀ rest, escape (t ++ rest) = some (c, rest)

theorem exists_hexEscape {c : Char} (h : isControl c = true) :
    ∃ t, hexEscape c = '\\' :: t ∧ Escapes t c := by
  obtain ⟨n, hn, rfl⟩ : ∃ n, (n < 0x20 ∨ n = 0x7F) ∧ Char.ofNat n = c :=
    ⟨c.toNat, toNat_of_isControl h, Char.ofNat_toNat c⟩
  rcases hn with hn | rfl
  · interval_cases n <;> exact ⟨_, rfl, fun _ => rfl⟩
  · exact ⟨_, rfl, fun _ => rfl⟩

theorem exists_escape {c : Char} {e : List Char} (h : escape? c = some e) :
    ∃ t, e = '\\' :: t ∧ Escapes t c := by
  unfold escape? at h
  split at h
  · cases h; rename_i hc; subst hc; exact ⟨_, rfl, fun _ => rfl⟩
  split at h
  · cases h; rename_i hc; subst hc; exact ⟨_, rfl, fun _ => rfl⟩
  split at h
  · cases h; rename_i hc; subst hc; exact ⟨_, rfl, fun _ => rfl⟩
  split at h
  · cases h; rename_i hc; subst hc; exact ⟨_, rfl, fun _ => rfl⟩
  split at h
  · cases h; rename_i hc; subst hc; exact ⟨_, rfl, fun _ => rfl⟩
  split at h
  · cases h; exact exists_hexEscape (by assumption)
  · exact absurd h (by simp)

theorem plain_of_escape? {c : Char} (h : escape? c = none) (hn : c ≠ '\n') :
    isText c = true ∧ c ≠ '\\' := by
  have hcontrol : isControl c = false := by grind [escape?]
  have hback : c ≠ '\\' := by grind [escape?]
  exact ⟨isText_of_not_isControl hcontrol hn, hback⟩

theorem escaped_cons (multiline : Bool) (run : Nat) (c : Char) (cs : List Char) :
    (c = '"' ∧ multiline = true ∧ run < 2 ∧
        escaped multiline run (c :: cs) = '"' :: escaped multiline (run + 1) cs) ∨
      (c = '\n' ∧ multiline = true ∧
        escaped multiline run (c :: cs) = '\n' :: escaped multiline 0 cs) ∨
      (∃ t, Escapes t c ∧
        escaped multiline run (c :: cs) = '\\' :: (t ++ escaped multiline 0 cs)) ∨
      (isText c = true ∧ c ≠ '"' ∧ c ≠ '\\' ∧
        escaped multiline run (c :: cs) = c :: escaped multiline 0 cs) := by
  by_cases hq : c = '"'
  · by_cases hm : multiline = true ∧ run < 2
    · exact .inl ⟨hq, hm.1, hm.2, by simp [escaped, hq, hm]⟩
    · refine .inr (.inr (.inl ⟨['"'], by subst hq; exact fun _ => rfl, ?_⟩))
      rw [escaped, if_pos hq, if_neg (by simpa using hm)]
      rfl
  by_cases hn : c = '\n'
  · cases multiline with
    | true => exact .inr (.inl ⟨hn, rfl, by simp [escaped, hn]⟩)
    | false =>
      exact .inr (.inr (.inl ⟨['n'], by subst hn; exact fun _ => rfl, by simp [escaped, hn]⟩))
  cases he : escape? c with
  | some e =>
    obtain ⟨t, rfl, ht⟩ := exists_escape he
    exact .inr (.inr (.inl ⟨t, ht, by simp [escaped, hq, hn, he]⟩))
  | none =>
    obtain ⟨htext, hback⟩ := plain_of_escape? he hn
    exact .inr (.inr (.inr ⟨htext, hq, hback, by simp [escaped, hq, hn, he]⟩))

/-! ## Strings on one line -/

/-- A text with escapes is read up to the closing quote. -/
theorem basicBody_escaped (cs rest : List Char) {fuel run : Nat} (acc : List Char)
    (h : (escaped false run cs).length < fuel) :
    basicBody fuel acc (escaped false run cs ++ '"' :: rest) = some (acc.reverse ++ cs, rest) := by
  induction cs generalizing fuel run acc with
  | nil =>
    obtain ⟨fuel, rfl⟩ := Nat.exists_eq_add_one_of_ne_zero (Nat.ne_zero_of_lt h)
    simp [escaped, basicBody]
  | cons c cs ih =>
    obtain ⟨fuel, rfl⟩ := Nat.exists_eq_add_one_of_ne_zero (Nat.ne_zero_of_lt h)
    rcases escaped_cons false run c cs with
      ⟨-, hm, -⟩ | ⟨-, hm, -⟩ | ⟨t, ht, he⟩ | ⟨htext, hq, hback, he⟩
    · exact absurd hm (by decide)
    · exact absurd hm (by decide)
    · rw [he] at h ⊢
      simp only [List.length_cons, List.length_append] at h
      have hread := ht (escaped false 0 cs ++ '"' :: rest)
      simp only [List.cons_append, List.append_assoc, basicBody, hread]
      simpa using ih (c :: acc) (by omega)
    · rw [he] at h ⊢
      simp only [List.length_cons] at h
      simp only [List.cons_append, basicBody, hq, hback, htext, if_true, if_false]
      simpa using ih (c :: acc) (by omega)

theorem literalBody_append {cs : List Char} (h : ∀ c ∈ cs, isText c = true ∧ c ≠ '\'')
    (acc rest : List Char) :
    literalBody acc (cs ++ '\'' :: rest) = some (acc.reverse ++ cs, rest) := by
  induction cs generalizing acc with
  | nil => simp [literalBody]
  | cons c cs ih =>
    obtain ⟨htext, hq⟩ := h c List.mem_cons_self
    simp only [List.cons_append, literalBody, hq, htext, if_true, if_false]
    simpa using ih (fun d hd => h d (List.mem_cons_of_mem c hd)) (c :: acc)

/-! ## Strings over several lines -/

/-- How a text may stand between triple quotes, behind `run` quotes of their kind. -/
inductive Spelled (quote : Char) (escapes : Bool) : Nat → List Char → List Char → Prop
  | nil (run : Nat) : Spelled quote escapes run [] []
  | quote {run : Nat} {cs t : List Char} (h : run < 2) (ht : Spelled quote escapes (run + 1) cs t) :
      Spelled quote escapes run (quote :: cs) (quote :: t)
  | newline {run : Nat} {cs t : List Char} (ht : Spelled quote escapes 0 cs t) :
      Spelled quote escapes run ('\n' :: cs) ('\n' :: t)
  | escape {run : Nat} {c : Char} {e cs t : List Char} (h : escapes = true) (he : Escapes e c)
      (ht : Spelled quote escapes 0 cs t) : Spelled quote escapes run (c :: cs) ('\\' :: (e ++ t))
  | plain {run : Nat} {c : Char} {cs t : List Char} (h : isText c = true) (hq : c ≠ quote)
      (hb : escapes = true → c ≠ '\\') (ht : Spelled quote escapes 0 cs t) :
      Spelled quote escapes run (c :: cs) (c :: t)

/-- The characters that strings stand between. -/
def isQuote (c : Char) : Bool := c = '"' || c = '\''

variable {quote : Char} {escapes : Bool}

theorem takeWhile_quotes (n : Nat) {rest : List Char} (h : rest.head? ≠ some quote) :
    (List.replicate n quote ++ rest).takeWhile (· = quote) = List.replicate n quote := by
  rw [List.takeWhile_append_of_pos (by simp)]
  cases rest with
  | nil => simp
  | cons c rest => simp_all

theorem dropWhile_quotes (n : Nat) {rest : List Char} (h : rest.head? ≠ some quote) :
    (List.replicate n quote ++ rest).dropWhile (· = quote) = rest := by
  rw [List.dropWhile_append_of_pos (by simp)]
  cases rest with
  | nil => rfl
  | cons c rest => simp_all

theorem multilineBody_quotes (fuel n : Nat) (acc : List Char) {rest : List Char}
    (h : rest.head? ≠ some quote) :
    multilineBody quote escapes (fuel + 1) acc (List.replicate (n + 1) quote ++ rest) =
      if n + 1 < 3 then
        multilineBody quote escapes fuel (List.replicate (n + 1) quote ++ acc) rest
      else if n + 1 ≤ 5 then some ((List.replicate (n + 1 - 3) quote ++ acc).reverse, rest)
      else none := by
  have ht := takeWhile_quotes (n + 1) h
  have hd := dropWhile_quotes (n + 1) h
  rw [List.replicate_succ, List.cons_append] at ht hd ⊢
  rw [multilineBody, if_pos rfl, ht, hd, ← List.replicate_succ, List.length_replicate]

/-- Up to two quotes stand for themselves in front of a character that is read from `w`. -/
theorem exists_multilineBody_step {run fuel : Nat} (hrun : run ≤ 2) (hfuel : run + 1 < fuel)
    {c : Char} {w rest : List Char} (hhead : (w ++ rest).head? ≠ some quote)
    (hstep : ∀ fuel acc, multilineBody quote escapes (fuel + 1) acc (w ++ rest) =
      multilineBody quote escapes fuel (c :: acc) rest) (acc : List Char) :
    ∃ fuel', fuel ≤ fuel' + run + 1 ∧
      multilineBody quote escapes fuel acc (List.replicate run quote ++ (w ++ rest)) =
        multilineBody quote escapes fuel' (c :: (List.replicate run quote ++ acc)) rest := by
  cases run with
  | zero =>
    obtain ⟨fuel, rfl⟩ := Nat.exists_eq_add_one_of_ne_zero (Nat.ne_zero_of_lt hfuel)
    exact ⟨fuel, by omega, hstep fuel acc⟩
  | succ run =>
    obtain ⟨fuel, rfl⟩ : ∃ k, fuel = k + 1 + 1 := ⟨fuel - 2, by omega⟩
    refine ⟨fuel, by omega, ?_⟩
    rw [multilineBody_quotes (fuel + 1) run acc hhead, if_pos (by omega), hstep]

theorem continuation?_of_escapes {e : List Char} {c : Char} (h : Escapes e c) (rest : List Char) :
    continuation? (e ++ rest) = none := by
  have h := h rest
  generalize e ++ rest = cs at h
  unfold escape at h
  split at h <;> first | rfl | contradiction

theorem newline?_cons {c : Char} (hn : c ≠ '\n') (hr : c ≠ '\r') (rest : List Char) :
    newline? (c :: rest) = none := by
  unfold newline?
  split
  · rename_i h
    exact absurd (List.cons.inj h).1 hn
  · rename_i h
    exact absurd (List.cons.inj h).1 hr
  · rfl

section Steps

variable (hquote : isQuote quote = true)
include hquote

theorem multilineBody_newline (fuel : Nat) (acc rest : List Char) :
    multilineBody quote escapes (fuel + 1) acc ('\n' :: rest) =
      multilineBody quote escapes fuel ('\n' :: acc) rest := by
  have hq : '\n' ≠ quote := by rintro rfl; simp [isQuote] at hquote
  simp [multilineBody, hq, newline?]

theorem multilineBody_escape (hesc : escapes = true) {c : Char} {e : List Char} (he : Escapes e c)
    (fuel : Nat) (acc rest : List Char) :
    multilineBody quote escapes (fuel + 1) acc ('\\' :: (e ++ rest)) =
      multilineBody quote escapes fuel (c :: acc) rest := by
  have hq : '\\' ≠ quote := by rintro rfl; simp [isQuote] at hquote
  simp [multilineBody, hq, hesc, continuation?_of_escapes he rest, he rest]

omit hquote in
theorem multilineBody_plain {c : Char} (hc : isText c = true) (hq : c ≠ quote)
    (hb : escapes = true → c ≠ '\\') (fuel : Nat) (acc rest : List Char) :
    multilineBody quote escapes (fuel + 1) acc (c :: rest) =
      multilineBody quote escapes fuel (c :: acc) rest := by
  have hb' : (escapes && decide (c = '\\')) = false := by simpa using hb
  have hn : newline? (c :: rest) = none := by
    refine newline?_cons ?_ ?_ rest <;> rintro rfl <;> exact absurd hc (by decide)
  simp only [multilineBody, hq, hb', hn, hc, if_true, if_false, Bool.false_eq_true]

end Steps

/-- A text spelled between triple quotes is read up to the closing ones. -/
theorem multilineBody_spelled (hquote : isQuote quote = true) {run : Nat} {cs t rest : List Char}
    (h : Spelled quote escapes run cs t) (hrun : run ≤ 2) (hrest : rest.head? ≠ some quote)
    {fuel : Nat} (hfuel : run + t.length < fuel) (acc : List Char) :
    multilineBody quote escapes fuel acc
        (List.replicate run quote ++ (t ++ quote :: quote :: quote :: rest)) =
      some (acc.reverse ++ List.replicate run quote ++ cs, rest) := by
  -- The reader takes quotes a run at a time, so those already spelled stay in front as `run`.
  induction h generalizing fuel acc with
  | nil run =>
    obtain ⟨fuel, rfl⟩ := Nat.exists_eq_add_one_of_ne_zero (Nat.ne_zero_of_lt hfuel)
    have hq : List.replicate run quote ++ quote :: quote :: quote :: rest =
        List.replicate (run + 2 + 1) quote ++ rest := by
      simp [List.replicate_succ', List.append_assoc]
    rw [List.nil_append, hq, multilineBody_quotes fuel (run + 2) acc hrest, if_neg (by omega),
      if_pos (by omega)]
    simp
  | @quote run cs t hlt ht ih =>
    have hq : List.replicate run quote ++ (quote :: t ++ quote :: quote :: quote :: rest) =
        List.replicate (run + 1) quote ++ (t ++ quote :: quote :: quote :: rest) := by
      simp [List.replicate_succ', List.append_assoc]
    rw [hq, ih (by omega) (by simp only [List.length_cons] at hfuel; omega)]
    simp [List.replicate_succ', List.append_assoc]
  | @newline run cs t ht ih =>
    have hhead : ('\n' :: (t ++ quote :: quote :: quote :: rest)).head? ≠ some quote := by
      rintro ⟨⟩
      simp [isQuote] at hquote
    simp only [List.length_cons] at hfuel
    have hlt : run + 1 < fuel := by omega
    obtain ⟨fuel', hle, hstep⟩ := exists_multilineBody_step hrun hlt (w := ['\n']) hhead
      (fun fuel acc => multilineBody_newline hquote fuel acc _) acc
    rw [List.cons_append]
    refine hstep.trans ?_
    simpa using ih (by omega) (by omega) ('\n' :: (List.replicate run quote ++ acc))
  | @escape run c e cs t hesc he ht ih =>
    have hhead : ('\\' :: (e ++ (t ++ quote :: quote :: quote :: rest))).head? ≠ some quote := by
      rintro ⟨⟩
      simp [isQuote] at hquote
    simp only [List.length_cons, List.length_append] at hfuel
    have hlt : run + 1 < fuel := by omega
    obtain ⟨fuel', hle, hstep⟩ := exists_multilineBody_step hrun hlt (w := '\\' :: e) hhead
      (fun fuel acc => multilineBody_escape hquote hesc he fuel acc _) acc
    rw [List.cons_append, List.append_assoc]
    refine hstep.trans ?_
    simpa using ih (by omega) (by omega) (c :: (List.replicate run quote ++ acc))
  | @plain run c cs t hc hq hb ht ih =>
    have hhead : (c :: (t ++ quote :: quote :: quote :: rest)).head? ≠ some quote := by
      simpa using hq
    simp only [List.length_cons] at hfuel
    have hlt : run + 1 < fuel := by omega
    obtain ⟨fuel', hle, hstep⟩ := exists_multilineBody_step hrun hlt (w := [c]) hhead
      (fun fuel acc => multilineBody_plain hc hq hb fuel acc _) acc
    rw [List.cons_append]
    refine hstep.trans ?_
    simpa using ih (by omega) (by omega) (c :: (List.replicate run quote ++ acc))

theorem spelled_escaped (run : Nat) (cs : List Char) :
    Spelled '"' true run cs (escaped true run cs) := by
  induction cs generalizing run with
  | nil => exact .nil run
  | cons c cs ih =>
    rcases escaped_cons true run c cs with
      ⟨rfl, -, hrun, he⟩ | ⟨rfl, -, he⟩ | ⟨t, ht, he⟩ | ⟨htext, hq, hback, he⟩
    · exact he ▸ .quote hrun (ih (run + 1))
    · exact he ▸ .newline (ih 0)
    · exact he ▸ .escape rfl ht (ih 0)
    · exact he ▸ .plain htext hq (fun _ => hback) (ih 0)

theorem le_longestRun (c : Char) (best run : Nat) (cs : List Char) :
    best ≤ longestRun c best run cs := by
  induction cs generalizing best run with
  | nil => exact Nat.le_refl best
  | cons d cs ih =>
    unfold longestRun
    split
    · exact (Nat.le_max_left _ _).trans (ih _ _)
    · exact ih _ _

theorem notMem_of_longestRun {c : Char} {best run : Nat} {cs : List Char}
    (h : longestRun c best run cs = 0) : c ∉ cs := by
  induction cs generalizing best run with
  | nil => simp
  | cons d cs ih =>
    unfold longestRun at h
    split at h
    · have hle := le_longestRun c (max best (run + 1)) (run + 1) cs
      omega
    · rename_i hd
      simpa [Ne.symm hd] using ih h

/-- A text without controls stands for itself where backslashes do, if its quotes are few. -/
theorem spelled_self {best run : Nat} {cs : List Char} (hquote : isQuote quote = true)
    (h : ∀ c ∈ cs, isControl c = false) (hrun : longestRun quote best run cs ≤ 2) :
    Spelled quote false run cs cs := by
  induction cs generalizing best run with
  | nil => exact .nil run
  | cons c cs ih =>
    have hcs : ∀ d ∈ cs, isControl d = false := fun d hd => h d (List.mem_cons_of_mem c hd)
    unfold longestRun at hrun
    split at hrun
    · rename_i hc
      subst hc
      have hle := le_longestRun c (max best (run + 1)) (run + 1) cs
      exact .quote (by omega) (ih hcs hrun)
    · rename_i hc
      by_cases hn : c = '\n'
      · subst hn
        exact .newline (ih hcs hrun)
      · exact .plain (isText_of_not_isControl (h c List.mem_cons_self) hn) hc (by simp) (ih hcs hrun)

theorem newline?_spelled (hquote : isQuote quote = true) {run : Nat} {cs t : List Char}
    (h : Spelled quote escapes run cs t) (hn : '\n' ∉ cs) (rest : List Char) :
    newline? (t ++ quote :: rest) = none := by
  have hq (ds : List Char) : newline? (quote :: ds) = none := by
    simp only [isQuote, Bool.or_eq_true, decide_eq_true_eq] at hquote
    rcases hquote with rfl | rfl <;> rfl
  cases h with
  | nil => exact hq rest
  | quote h ht => exact hq _
  | newline ht => simp at hn
  | escape h he ht => rfl
  | plain h hq hb ht =>
    refine newline?_cons ?_ ?_ _ <;> rintro rfl <;> exact absurd h (by decide)

theorem multiline_spelled (hquote : isQuote quote = true) {cs t rest : List Char}
    (h : Spelled quote escapes 0 cs t) (hrest : rest.head? ≠ some quote) {lineBreak : Bool}
    (hn : lineBreak = false → '\n' ∉ cs) :
    multiline quote escapes ((if lineBreak then ['\n'] else []) ++ t ++
        quote :: quote :: quote :: rest) =
      some (cs, rest) := by
  have hbody (fuel : Nat) (hfuel : t.length < fuel) :
      multilineBody quote escapes fuel [] (t ++ quote :: quote :: quote :: rest) =
        some (cs, rest) := by
    simpa using multilineBody_spelled hquote h (Nat.zero_le 2) hrest (by omega) []
  have hskip : skipFirstNewline ((if lineBreak then ['\n'] else []) ++ t ++
      quote :: quote :: quote :: rest) = t ++ quote :: quote :: quote :: rest := by
    cases lineBreak with
    | true => rfl
    | false => simp [skipFirstNewline, newline?_spelled hquote h (hn rfl)]
  rw [multiline, hskip]
  refine hbody _ ?_
  simp only [List.length_append, List.length_cons]
  omega

/-! ## Styles -/

theorem not_isControl_of_traits {cs : List Char} (h : (Traits.of cs).controls = false) :
    ∀ c ∈ cs, isControl c = false := by
  simpa [Traits.of] using h

theorem notMem_of_traits {cs : List Char} (h : (Traits.of cs).lineBreak = false) : '\n' ∉ cs := by
  intro hn
  simp only [Traits.of, List.any_eq_false, decide_eq_true_eq] at h
  exact h '\n' hn rfl

theorem isText_of_traits {cs : List Char} (hcontrol : (Traits.of cs).controls = false)
    (hbreak : (Traits.of cs).lineBreak = false) (hsingle : (Traits.of cs).singleQuotes = 0) :
    ∀ c ∈ cs, isText c = true ∧ c ≠ '\'' := by
  refine fun c hc => ⟨isText_of_not_isControl (not_isControl_of_traits hcontrol c hc) ?_, ?_⟩
  · rintro rfl
    exact notMem_of_traits hbreak hc
  · rintro rfl
    exact notMem_of_longestRun hsingle hc

theorem traits_of_literal {cs : List Char} (h : Style.of (Traits.of cs) = .literal) :
    (∀ c ∈ cs, isText c = true ∧ c ≠ '\'') ∧ cs ≠ [] := by
  have hne : cs ≠ [] := by rintro rfl; exact absurd h (by decide)
  have ht : (Traits.of cs).controls = false ∧ (Traits.of cs).singleQuotes = 0 ∧
      (Traits.of cs).lineBreak = false := by grind [Style.of]
  exact ⟨isText_of_traits ht.1 ht.2.2 ht.2.1, hne⟩

theorem traits_of_multilineLiteral {cs : List Char}
    (h : Style.of (Traits.of cs) = .multilineLiteral) :
    (∀ c ∈ cs, isControl c = false) ∧ longestRun '\'' 0 0 cs ≤ 2 := by
  have ht : (Traits.of cs).controls = false ∧ (Traits.of cs).singleQuotes ≤ 2 := by
    grind [Style.of]
  exact ⟨not_isControl_of_traits ht.1, ht.2⟩

theorem string_basic {cs : List Char} (h : ∀ t, cs ≠ '"' :: '"' :: t) :
    string ('"' :: cs) = basicBody (cs.length + 1) [] cs := by
  unfold string
  split
  · rename_i t ht
    exact absurd (List.cons.inj ht).2 (h t)
  · rename_i ht
    exact absurd (List.cons.inj ht).1 (by decide)
  · rename_i ht
    rw [(List.cons.inj ht).2]
  · rename_i ht
    exact absurd (List.cons.inj ht).1 (by decide)
  · rename_i ht _
    exact absurd rfl (ht cs)

theorem string_literal {cs : List Char} (h : ∀ t, cs ≠ '\'' :: '\'' :: t) :
    string ('\'' :: cs) = literalBody [] cs := by
  unfold string
  split
  · rename_i ht
    exact absurd (List.cons.inj ht).1 (by decide)
  · rename_i t ht
    exact absurd (List.cons.inj ht).2 (h t)
  · rename_i ht
    exact absurd (List.cons.inj ht).1 (by decide)
  · rename_i ht
    rw [(List.cons.inj ht).2]
  · rename_i ht
    exact absurd rfl (ht cs)

/-- A string is read back in whatever style it has been written. -/
theorem string_stringText (s : String) {rest : List Char}
    (hrest : ∀ c, isQuote c = true → rest.head? ≠ some c) :
    string (stringText s ++ rest) = some (s.toList, rest) := by
  generalize hcs : s.toList = cs
  have hn : (Traits.of cs).lineBreak = false → '\n' ∉ cs := notMem_of_traits
  unfold stringText
  simp only [hcs]
  cases hstyle : Style.of (Traits.of cs) with
  | basic =>
    have hfirst : ∀ t, escaped false 0 cs ++ '"' :: rest ≠ '"' :: '"' :: t := by
      intro t ht
      cases cs with
      | nil => exact hrest '"' rfl (by rw [(List.cons.inj ht).2]; rfl)
      | cons c cs =>
        rcases escaped_cons false 0 c cs with
          ⟨-, hm, -⟩ | ⟨-, hm, -⟩ | ⟨e, he, heq⟩ | ⟨htext, hq, hback, heq⟩
        · exact absurd hm (by decide)
        · exact absurd hm (by decide)
        · rw [heq] at ht
          exact absurd (List.cons.inj ht).1 (by decide)
        · rw [heq] at ht
          exact hq (List.cons.inj ht).1
    have hlt : (escaped false 0 cs).length < (escaped false 0 cs ++ '"' :: rest).length + 1 := by
      simp only [List.length_append]
      omega
    simpa [string_basic hfirst] using basicBody_escaped cs rest [] hlt
  | literal =>
    obtain ⟨htext, hne⟩ := traits_of_literal hstyle
    have hfirst : ∀ t, cs ++ '\'' :: rest ≠ '\'' :: '\'' :: t := by
      intro t ht
      cases cs with
      | nil => exact hne rfl
      | cons c cs => exact (htext c List.mem_cons_self).2 (List.cons.inj ht).1
    simpa [string_literal hfirst] using literalBody_append htext [] rest
  | multilineBasic =>
    have hread := multiline_spelled rfl (spelled_escaped 0 cs) (hrest '"' rfl) hn
    simpa [tripled, string] using hread
  | multilineLiteral =>
    obtain ⟨hcontrol, hrun⟩ := traits_of_multilineLiteral hstyle
    have hread := multiline_spelled rfl (spelled_self rfl hcontrol hrun) (hrest '\'' rfl) hn
    simpa [tripled, string] using hread

/-! ## Keys -/

theorem simpleKey_quoted (cs rest : List Char) :
    simpleKey ('"' :: escaped false 0 cs ++ '"' :: rest) = some (String.ofList cs, rest) := by
  have hlt : (escaped false 0 cs).length < (escaped false 0 cs ++ '"' :: rest).length + 1 := by
    simp only [List.length_append]
    omega
  simp only [List.cons_append, simpleKey, basicBody_escaped cs rest [] hlt]
  rfl

theorem simpleKey_bare {cs rest : List Char} (hne : cs ≠ []) (hcs : ∀ c ∈ cs, isBareChar c = true)
    (hrest : ∀ c, rest.head? = some c → isBareChar c = false) :
    simpleKey (cs ++ rest) = some (String.ofList cs, rest) := by
  have htake : (cs ++ rest).takeWhile isBareChar = cs := by
    rw [List.takeWhile_append_of_pos hcs]
    cases rest with
    | nil => simp
    | cons c rest => simp [hrest c rfl]
  have hdrop : (cs ++ rest).dropWhile isBareChar = rest := by
    rw [List.dropWhile_append_of_pos hcs]
    cases rest with
    | nil => rfl
    | cons c rest => simp [hrest c rfl]
  unfold simpleKey
  rw [htake, hdrop]
  cases cs with
  | nil => exact absurd rfl hne
  | cons c cs =>
    have hc := hcs c List.mem_cons_self
    split
    · rename_i h
      exact absurd hc (by rw [(List.cons.inj h).1]; decide)
    · rename_i h
      exact absurd hc (by rw [(List.cons.inj h).1]; decide)
    · rfl

/-- A key is read back in whatever form it has been written. -/
theorem simpleKey_keyText (s : String) {rest : List Char}
    (hrest : ∀ c, rest.head? = some c → isBareChar c = false) :
    simpleKey (keyText s ++ rest) = some (s, rest) := by
  generalize hcs : s.toList = cs
  have hs : String.ofList cs = s := by rw [← hcs, String.ofList_toList]
  unfold keyText
  simp only [hcs]
  split
  · rename_i h
    simp only [Bool.and_eq_true, Bool.not_eq_true', List.isEmpty_eq_false_iff,
      List.all_eq_true] at h
    rw [simpleKey_bare h.1 h.2 hrest, hs]
  split
  · rename_i h
    simp only [Bool.and_eq_true, Bool.not_eq_true', decide_eq_true_eq] at h
    obtain ⟨⟨⟨hcontrol, hbreak⟩, hsingle⟩, -⟩ := h
    have htext := isText_of_traits hcontrol hbreak hsingle
    simp only [List.cons_append, List.append_assoc, List.nil_append, simpleKey,
      literalBody_append htext [] rest]
    simp [hs]
  · rw [List.append_assoc, List.singleton_append, simpleKey_quoted, hs]

end PickupGame.Toml
