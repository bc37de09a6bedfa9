import Mathlib.Tactic.IntervalCases
import PickupGame.Proofs.Text.Utf8
import PickupGame.Url.Form

/-!
# Reading back form data

What percent-encoding and form encoding write is read as what was written. No separator stands in
an encoded name or value, so the pairs come apart where they were joined.
-/

namespace PickupGame.Url

/-! ## Percent-encoding -/

theorem hexDigit?_upperHex {n : Nat} (h : n < 16) : Numeral.hexDigit? (upperHex n) = some n := by
  interval_cases n <;> rfl

theorem isAlphanum_upperHex {n : Nat} (h : n < 16) : (upperHex n).isAlphanum = true := by
  interval_cases n <;> rfl

theorem percentDecode_cons {c : Char} (h : c ≠ '%') (cs : List Char) :
    percentDecode (c :: cs) = String.utf8EncodeChar c ++ percentDecode cs :=
  percentDecode.eq_3 c cs fun _ _ _ hc _ => h hc

@[simp] theorem percentDecode_percentByte (b : UInt8) (cs : List Char) :
    percentDecode (percentByte b ++ cs) = b :: percentDecode cs := by
  have hb : b.toNat < 256 := b.toNat_lt
  have hn : 16 * (b.toNat / 16) + b.toNat % 16 = b.toNat := by omega
  simp only [percentByte, List.cons_append, List.nil_append, percentDecode,
    hexDigit?_upperHex (show b.toNat / 16 < 16 by omega),
    hexDigit?_upperHex (show b.toNat % 16 < 16 by omega), hn, UInt8.ofNat_toNat]

theorem percentDecode_flatMap_percentByte (bs : List UInt8) (cs : List Char) :
    percentDecode (bs.flatMap percentByte ++ cs) = bs ++ percentDecode cs := by
  induction bs with
  | nil => rfl
  | cons b bs ih =>
    rw [List.flatMap_cons, List.append_assoc, percentDecode_percentByte, ih, List.cons_append]

theorem mem_percentChar {x c : Char} (h : x ∈ percentChar c) : x = '%' ∨ x.isAlphanum = true := by
  obtain ⟨b, -, hx⟩ := List.mem_flatMap.1 h
  have hb : b.toNat < 256 := b.toNat_lt
  simp only [percentByte, List.mem_cons, List.not_mem_nil, or_false] at hx
  rcases hx with rfl | rfl | rfl
  · exact .inl rfl
  · exact .inr (isAlphanum_upperHex (by omega))
  · exact .inr (isAlphanum_upperHex (by omega))

namespace Form

/-! ## Names and values -/

/-- A plus sign stands for a blank. -/
def blankOf (c : Char) : Char :=
  if c = '+' then ' ' else c

theorem ne_of_isPlain {c d : Char} (hc : isPlain c = true) (hd : isPlain d = false) : c ≠ d := by
  rintro rfl
  exact Bool.noConfusion (hc.symm.trans hd)

theorem isPlain_of_isAlphanum {c : Char} (h : c.isAlphanum = true) : isPlain c = true := by
  simp [isPlain, h]

theorem blankOf_of_ne {c : Char} (h : c ≠ '+') : blankOf c = c :=
  if_neg h

theorem map_blankOf_percentChar (c : Char) : (percentChar c).map blankOf = percentChar c := by
  refine (List.map_congr_left fun x hx => ?_).trans (List.map_id _)
  rcases mem_percentChar hx with rfl | hx
  · rfl
  · exact blankOf_of_ne (ne_of_isPlain (isPlain_of_isAlphanum hx) rfl)

theorem percentDecode_encodeChar (c : Char) (cs : List Char) :
    percentDecode ((encodeChar c).map blankOf ++ cs) =
      String.utf8EncodeChar c ++ percentDecode cs := by
  unfold encodeChar
  split
  · rename_i h
    subst h
    exact percentDecode_cons (by decide) cs
  split
  · rename_i h
    rw [List.map_singleton, blankOf_of_ne (ne_of_isPlain h rfl)]
    exact percentDecode_cons (ne_of_isPlain h rfl) cs
  · rw [map_blankOf_percentChar]
    exact percentDecode_flatMap_percentByte _ cs

theorem percentDecode_encode (cs : List Char) :
    percentDecode ((encode cs).map blankOf) = Text.utf8 cs := by
  induction cs with
  | nil => rfl
  | cons c cs ih =>
    rw [encode_cons, List.map_append, percentDecode_encodeChar, ih, Text.utf8_cons]

@[simp] theorem decode_encode (s : String) : decode (encode s.toList) = s := by
  change String.ofList (Text.ofUtf8Lossy (percentDecode ((encode s.toList).map blankOf))) = s
  rw [percentDecode_encode, Text.ofUtf8Lossy_utf8, String.ofList_toList]

/-! ## Pairs -/

theorem mem_encode {x : Char} {cs : List Char} (h : x ∈ encode cs) :
    x = '+' ∨ x = '%' ∨ isPlain x = true := by
  obtain ⟨c, -, hx⟩ := List.mem_flatMap.1 h
  unfold encodeChar at hx
  split at hx
  · exact .inl (List.mem_singleton.1 hx)
  split at hx
  · rename_i hc
    exact .inr (.inr (List.mem_singleton.1 hx ▸ hc))
  · exact .inr ((mem_percentChar hx).imp_right isPlain_of_isAlphanum)

theorem notMem_encode {d : Char} (hd : isPlain d = false) (hplus : d ≠ '+') (hpercent : d ≠ '%')
    (cs : List Char) : d ∉ encode cs := by
  intro h
  rcases mem_encode h with h | h | h
  · exact hplus h
  · exact hpercent h
  · exact ne_of_isPlain h hd rfl

theorem ampersand_notMem_pair (p : String × String) : '&' ∉ pair p := by
  have h (cs : List Char) : '&' ∉ encode cs := notMem_encode rfl (by decide) (by decide) cs
  simp [pair, h]

theorem pair_ne_nil (p : String × String) : pair p ≠ [] := by
  simp [pair]

@[simp] theorem readPair_pair (p : String × String) : readPair (pair p) = p := by
  have h : ∀ x ∈ encode p.1.toList, decide (x ≠ '=') = true := fun x hx => by
    simpa using fun (hx' : x = '=') =>
      notMem_encode (d := '=') rfl (by decide) (by decide) _ (hx' ▸ hx)
  rw [readPair, pair, List.takeWhile_append_of_pos h, List.dropWhile_append_of_pos h]
  simp

theorem pieces_of_notMem {cs : List Char} (h : '&' ∉ cs) : pieces cs = [cs] := by
  induction cs with
  | nil => rfl
  | cons c cs ih =>
    obtain ⟨hc, hcs⟩ := List.ne_and_not_mem_of_not_mem_cons h
    simp only [pieces, if_neg (Ne.symm hc), ih hcs]

theorem pieces_ne_nil (cs : List Char) : pieces cs ≠ [] := by
  cases cs with
  | nil => exact List.cons_ne_nil _ _
  | cons c cs =>
    unfold pieces
    split
    · exact List.cons_ne_nil _ _
    · split <;> exact List.cons_ne_nil _ _

theorem pieces_append (cs ds : List Char) : pieces (cs ++ '&' :: ds) = pieces cs ++ pieces ds := by
  induction cs with
  | nil => rfl
  | cons c cs ih =>
    by_cases hc : c = '&'
    · simp only [List.cons_append, pieces, if_pos hc, ih]
    · obtain ⟨p, ps, hps⟩ := List.exists_cons_of_ne_nil (pieces_ne_nil cs)
      simp only [List.cons_append, pieces, if_neg hc, ih, hps]

theorem read_append (cs ds : List Char) : read (cs ++ '&' :: ds) = read cs ++ read ds := by
  simp only [read, pieces_append, List.filter_append, List.map_append]

theorem pieces_write {ps : List (String × String)} (h : ps ≠ []) :
    pieces (write ps) = ps.map pair := by
  induction ps with
  | nil => exact absurd rfl h
  | cons p ps ih =>
    cases ps with
    | nil => exact pieces_of_notMem (ampersand_notMem_pair p)
    | cons q qs =>
      change pieces (pair p ++ '&' :: write (q :: qs)) = _
      rw [pieces_append, pieces_of_notMem (ampersand_notMem_pair p), ih (List.cons_ne_nil q qs)]
      rfl

/-- Form data is read as the pairs that were written. -/
@[simp] theorem read_write (ps : List (String × String)) : read (write ps) = ps := by
  cases ps with
  | nil => rfl
  | cons p ps =>
    have hfull : ∀ cs ∈ (p :: ps).map pair, (!cs.isEmpty) = true := by
      intro cs hcs
      obtain ⟨q, -, rfl⟩ := List.mem_map.1 hcs
      simpa using pair_ne_nil q
    rw [read, pieces_write (List.cons_ne_nil p ps), List.filter_eq_self.2 hfull, List.map_map]
    exact (List.map_congr_left fun q _ => readPair_pair q).trans (List.map_id _)

theorem write_ne_nil {ps : List (String × String)} (h : ps ≠ []) : write ps ≠ [] := by
  intro hw
  have hr := read_write ps
  rw [hw] at hr
  exact h hr.symm

end Form

end PickupGame.Url
