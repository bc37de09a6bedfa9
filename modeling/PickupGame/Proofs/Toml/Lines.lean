import PickupGame.Proofs.Toml.Integers
import PickupGame.Proofs.Toml.Strings

/-!
# Reading back lines

A line with a key and a value, and the header of a table, are read as what they were written for:
each leads from a state of the reader to the state with that entry or that table. A document is read
by going from line to line.
-/

namespace PickupGame.Toml

/-! ## Beginnings -/

theorem skipSpace_cons {c : Char} (h : isSpace c = false) (cs : List Char) :
    skipSpace (c :: cs) = c :: cs := by
  simp [skipSpace, h]

def startsKey (c : Char) : Bool := isBareChar c || isQuote c

theorem isSpace_of_startsKey {c : Char} (h : startsKey c = true) : isSpace c = false := by
  refine Bool.eq_false_iff.2 fun hs => ?_
  simp only [isSpace, Bool.or_eq_true, decide_eq_true_eq] at hs
  rcases hs with rfl | rfl <;> exact absurd h (by decide)

theorem exists_keyText (s : String) : ∃ c t, keyText s = c :: t ∧ startsKey c = true := by
  unfold keyText
  cases hcs : s.toList with
  | nil => exact ⟨_, _, rfl, rfl⟩
  | cons c cs =>
    simp only
    split
    · rename_i h
      simp only [Bool.and_eq_true, List.all_eq_true] at h
      have hc : isBareChar c = true := h.2 c List.mem_cons_self
      exact ⟨c, cs, rfl, by simp [startsKey, hc]⟩
    split
    · exact ⟨_, _, rfl, rfl⟩
    · exact ⟨_, _, rfl, rfl⟩

theorem exists_stringText (s : String) : ∃ c t, stringText s = c :: t ∧ isQuote c = true := by
  unfold stringText
  simp only
  split <;> exact ⟨_, _, rfl, rfl⟩

/-! ## Values -/

/-- A text that a line may end with to give a value. -/
structure Writes (t : List Char) (v : Value) : Prop where
  starts : ∃ c t', t = c :: t' ∧ isSpace c = false
  reads : ∀ rest, value maxLevels (t ++ '\n' :: rest) = some (v, '\n' :: rest)

theorem value_quote {c : Char} (h : isQuote c = true) (levels : Nat) (cs : List Char) :
    value levels (c :: cs) =
      (string (c :: cs)).map fun p => (.string (String.ofList p.1), p.2) := by
  simp only [isQuote, Bool.or_eq_true, decide_eq_true_eq] at h
  unfold value
  rcases h with rfl | rfl <;> rfl

theorem writes_stringText (s : String) : Writes (stringText s) (.string s) := by
  obtain ⟨c, t, ht, hc⟩ := exists_stringText s
  refine ⟨⟨c, t, ht, isSpace_of_startsKey (by simp [startsKey, hc])⟩, fun rest => ?_⟩
  have hread : string (stringText s ++ '\n' :: rest) = some (s.toList, '\n' :: rest) := by
    refine string_stringText s fun d hd hn => ?_
    cases hn
    exact absurd hd (by decide)
  rw [ht, List.cons_append] at hread ⊢
  rw [value_quote hc, hread, Option.map_some, String.ofList_toList]

theorem writes_digits {n : Nat} (h : n ≤ Numeral.maxI64) :
    Writes (Numeral.digits n) (.integer n) := by
  refine ⟨?_, value_digits maxLevels h⟩
  cases hd : Numeral.digits n with
  | nil => exact absurd hd (Numeral.digits_ne_nil n)
  | cons c cs =>
    have hc : c.isDigit = true := Numeral.isDigit_of_mem_digits (hd ▸ List.mem_cons_self)
    have hkey : startsKey c = true := by simp [startsKey, isBareChar, Char.isAlphanum, hc]
    exact ⟨c, cs, rfl, isSpace_of_startsKey hkey⟩

/-! ## Keys -/

theorem skipSpace_keyText (s : String) (rest : List Char) :
    skipSpace (keyText s ++ rest) = keyText s ++ rest := by
  obtain ⟨c, t, ht, hc⟩ := exists_keyText s
  rw [ht, List.cons_append, skipSpace_cons (isSpace_of_startsKey hc)]

/-- The keys of a path with dots between them. -/
def dotted (ks : List String) : List Char :=
  ['.'].intercalate (ks.map keyText)

theorem dotted_singleton (k : String) : dotted [k] = keyText k := by
  simp [dotted, List.intercalate]

theorem dotted_cons_cons (k l : String) (ks : List String) :
    dotted (k :: l :: ks) = keyText k ++ '.' :: dotted (l :: ks) := by
  simp [dotted, List.intercalate]

theorem exists_dotted (k : String) (ks : List String) :
    ∃ c t, dotted (k :: ks) = c :: t ∧ startsKey c = true := by
  obtain ⟨c, t, ht, hc⟩ := exists_keyText k
  cases ks with
  | nil => exact ⟨c, t, by rw [dotted_singleton, ht], hc⟩
  | cons l ks => exact ⟨c, _, by rw [dotted_cons_cons, ht, List.cons_append], hc⟩

theorem keyParts_dotted (k : String) (ks : List String) {levels : Nat} (hlen : ks.length < levels)
    {rest : List Char} (hrest : ∀ c, rest.head? = some c → isBareChar c = false)
    (hdot : ∀ t, skipSpace rest ≠ '.' :: t) :
    keyParts levels (dotted (k :: ks) ++ rest) = some (k :: ks, skipSpace rest) := by
  induction ks generalizing k levels with
  | nil =>
    obtain ⟨levels, rfl⟩ := Nat.exists_eq_add_one_of_ne_zero (Nat.ne_zero_of_lt hlen)
    rw [dotted_singleton, keyParts, skipSpace_keyText, simpleKey_keyText k hrest]
    simp only
  | cons l ks ih =>
    obtain ⟨levels, rfl⟩ := Nat.exists_eq_add_one_of_ne_zero (Nat.ne_zero_of_lt hlen)
    have hnext : keyParts levels (dotted (l :: ks) ++ rest) = some (l :: ks, skipSpace rest) :=
      ih l (by simpa using hlen)
    have hfirst : simpleKey (keyText k ++ '.' :: (dotted (l :: ks) ++ rest)) =
        some (k, '.' :: (dotted (l :: ks) ++ rest)) := by
      refine simpleKey_keyText k fun c hc => ?_
      cases hc
      rfl
    rw [dotted_cons_cons, List.append_assoc, List.cons_append, keyParts, skipSpace_keyText, hfirst]
    simp only [skipSpace_cons (show isSpace '.' = false from rfl), hnext]

theorem key_dotted (path : List String) (k : String) (hlen : path.length < maxLevels)
    {rest : List Char} (hrest : ∀ c, rest.head? = some c → isBareChar c = false)
    (hdot : ∀ t, skipSpace rest ≠ '.' :: t) :
    key (dotted (path ++ [k]) ++ rest) = some ((path, k), skipSpace rest) := by
  cases hks : path ++ [k] with
  | nil => simp at hks
  | cons l ks =>
    have hlt : ks.length < maxLevels := by
      have hlength := congrArg List.length hks
      simp only [List.length_append, List.length_cons, List.length_nil] at hlength
      omega
    rw [key, keyParts_dotted l ks hlt hrest hdot, ← hks]
    simp

/-! ## Lines -/

/-- From a line to a later one, whatever the loop has left of its bound. -/
def Leads (s : State) (cs : List Char) (s' : State) (rest : List Char) : Prop :=
  ∃ n, n + rest.length ≤ cs.length ∧ ∀ fuel, lines (fuel + n) s cs = lines fuel s' rest

namespace Leads

variable {s s' s'' : State} {cs rest rest' : List Char}

theorem refl (s : State) (cs : List Char) : Leads s cs s cs :=
  ⟨0, by omega, fun _ => rfl⟩

theorem trans (h : Leads s cs s' rest) (h' : Leads s' rest s'' rest') : Leads s cs s'' rest' := by
  obtain ⟨n, hn, hlines⟩ := h
  obtain ⟨n', hn', hlines'⟩ := h'
  refine ⟨n' + n, by omega, fun fuel => ?_⟩
  rw [← Nat.add_assoc, hlines, hlines']

theorem of_line {c : Char} {t : List Char} (hc : isSpace c = false) (hlt : rest.length ≤ t.length)
    (h : line s (c :: t) = some (s', rest)) : Leads s (c :: t) s' rest := by
  refine ⟨1, by rw [List.length_cons]; omega, fun fuel => ?_⟩
  rw [lines, skipSpace_cons hc]
  simp only [h]

theorem lines_eq (h : Leads s cs s' []) : lines cs.length s cs = some s'.root := by
  obtain ⟨n, hn, hlines⟩ := h
  obtain ⟨fuel, hfuel⟩ := Nat.exists_eq_add_of_le' hn
  rw [List.length_nil, Nat.add_zero] at hfuel
  rw [hfuel, hlines]
  cases fuel <;> rfl

end Leads

theorem leads_blank (s : State) (rest : List Char) : Leads s ('\n' :: rest) s rest :=
  .of_line rfl (Nat.le_refl _) rfl

theorem line_key {c : Char} (h : startsKey c = true) (s : State) (t : List Char) :
    line s (c :: t) = entry s (c :: t) := by
  unfold line
  split
  all_goals first | rfl | (rename_i he; cases he; exact absurd h (by decide))

theorem leads_entryLine {s : State} {k : String} {t : List Char} {v : Value} {root : Entries}
    (ht : Writes t v) (hroot : s.root.at? (fun es => es.add? k v) s.path = some root)
    (rest : List Char) : Leads s (entryLine k t ++ rest) ⟨s.path, root⟩ rest := by
  obtain ⟨d, t', rfl, hd⟩ := ht.starts
  have hkey : key (keyText k ++ ' ' :: '=' :: ' ' :: (d :: t' ++ '\n' :: rest)) =
      some (([], k), '=' :: ' ' :: (d :: t' ++ '\n' :: rest)) := by
    rw [← dotted_singleton]
    exact key_dotted [] k (by decide) (fun c hc => by cases hc; rfl) (fun t ht => by cases ht)
  have hspace : skipSpace (' ' :: (d :: t' ++ '\n' :: rest)) = d :: t' ++ '\n' :: rest := by
    rw [List.cons_append]
    exact skipSpace_cons hd _
  have hpair : pair (value maxLevels) (keyText k ++ ' ' :: '=' :: ' ' :: (d :: t' ++ '\n' :: rest)) =
      some ((([], k), v), '\n' :: rest) := by
    simp only [pair, hkey, hspace, ht.reads rest]
  have hentry : entry s (keyText k ++ ' ' :: '=' :: ' ' :: (d :: t' ++ '\n' :: rest)) =
      some (⟨s.path, root⟩, rest) := by
    have hput : Entries.put? k v [] .header = fun es => es.add? k v := rfl
    simp only [entry, hpair, hput, hroot]
    rfl
  have htext : entryLine k (d :: t') ++ rest =
      keyText k ++ ' ' :: '=' :: ' ' :: (d :: t' ++ '\n' :: rest) := by
    simp [entryLine, List.append_assoc]
  obtain ⟨c, u, hu, hc⟩ := exists_keyText k
  rw [htext]
  rw [hu, List.cons_append] at hentry ⊢
  refine .of_line (isSpace_of_startsKey hc) ?_ ((line_key hc s _).trans hentry)
  simp only [List.length_append, List.length_cons]
  omega

theorem leads_headerLine {s : State} {root : Entries} (path : List String) (k : String)
    (hlen : path.length < maxLevels) (hroot : s.root.at? (Entries.openTable? k) path = some root)
    (rest : List Char) :
    Leads s (headerLine (path ++ [k]) ++ rest) ⟨path ++ [k], root⟩ rest := by
  have hkey : key (dotted (path ++ [k]) ++ ']' :: '\n' :: rest) =
      some ((path, k), ']' :: '\n' :: rest) :=
    key_dotted path k hlen (fun c hc => by cases hc; rfl) (fun t ht => by cases ht)
  have hheader : header s (dotted (path ++ [k]) ++ ']' :: '\n' :: rest) =
      some (⟨path ++ [k], root⟩, rest) := by
    simp only [header, hkey, hroot]
    rfl
  have htext : headerLine (path ++ [k]) ++ rest =
      '[' :: (dotted (path ++ [k]) ++ ']' :: '\n' :: rest) := by
    simp [headerLine, dotted, List.append_assoc]
  have hline : line s ('[' :: (dotted (path ++ [k]) ++ ']' :: '\n' :: rest)) =
      header s (dotted (path ++ [k]) ++ ']' :: '\n' :: rest) := by
    obtain ⟨l, ks, hks⟩ : ∃ l ks, path ++ [k] = l :: ks := List.exists_cons_of_ne_nil (by simp)
    obtain ⟨c, t, ht, hc⟩ := exists_dotted l ks
    rw [hks, ht, List.cons_append]
    unfold line
    split
    · rename_i h
      cases h
      exact absurd hc (by decide)
    all_goals first | rfl | simp_all
  rw [htext]
  refine .of_line rfl ?_ (hline.trans hheader)
  simp only [List.length_append, List.length_cons]
  omega

end PickupGame.Toml
