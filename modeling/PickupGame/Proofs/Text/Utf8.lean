import Mathlib.Tactic.IntervalCases
import PickupGame.Text.Utf8

/-!
# Reading back UTF-8

The bytes of a character are read as that character, whatever follows them. So the bytes of a text
are well formed, and both ways of reading them give the text.
-/

namespace PickupGame.Text

namespace Utf8

theorem toNat_ofNat {n : Nat} (h : n < 256) : (UInt8.ofNat n).toNat = n := by
  simp [Nat.mod_eq_of_lt h]

theorem tail_cons (acc more : Nat) {m : Nat} (hm : m < 64) (bs : List UInt8) :
    tail acc (more + 1) (UInt8.ofNat (m + 0x80) :: bs) = tail (acc * 64 + m) more bs := by
  have hb : (UInt8.ofNat (m + 0x80)).toNat = m + 0x80 := toNat_ofNat (by omega)
  have hr : 0x80 ≤ UInt8.ofNat (m + 0x80) ∧ UInt8.ofNat (m + 0x80) ≤ 0xBF := by
    simp only [UInt8.le_iff_toNat_le, hb]
    exact ⟨by simp, by simp; omega⟩
  simp only [tail, hr, hb, and_self, if_true, Nat.add_sub_cancel]

/-- The second byte of a sequence gives six bits to those of the first one, which says in what range
it may lie. -/
theorem next_of_lead {b : UInt8} {l : Lead} (hb : 0x80 ≤ b.toNat) (hl : lead? b = some l)
    {m : Nat} (hm : m < 64) (hlow : l.low.toNat ≤ m + 0x80) (hhigh : m + 0x80 ≤ l.high.toNat)
    (bs : List UInt8) :
    next b (UInt8.ofNat (m + 0x80) :: bs) = tail (l.bits * 64 + m) l.more bs := by
  have hc : (UInt8.ofNat (m + 0x80)).toNat = m + 0x80 := toNat_ofNat (by omega)
  have hr : l.low ≤ UInt8.ofNat (m + 0x80) ∧ UInt8.ofNat (m + 0x80) ≤ l.high := by
    simpa only [UInt8.le_iff_toNat_le, hc] using ⟨hlow, hhigh⟩
  have hn : ¬ b < 0x80 := by
    rw [UInt8.lt_iff_toNat_lt]
    simpa using hb
  simp only [next, hn, hl, hr, hc, and_self, if_true, if_false, Nat.add_sub_cancel]

theorem lead?_two {n : Nat} (h : 2 ≤ n) (h' : n < 32) :
    lead? (UInt8.ofNat (n + 0xC0)) = some ⟨n, 0x80, 0xBF, 0⟩ := by
  have hb : (UInt8.ofNat (n + 0xC0)).toNat = n + 0xC0 := toNat_ofNat (by omega)
  have hr : 0xC2 ≤ n + 0xC0 ∧ n + 0xC0 ≤ 0xDF := by omega
  simp only [lead?, hb, hr, and_self, if_true, Nat.add_sub_cancel]

theorem lead?_three {n : Nat} (h : n < 16) : lead? (UInt8.ofNat (n + 0xE0)) =
    some ⟨n, if n = 0 then 0xA0 else 0x80, if n = 13 then 0x9F else 0xBF, 1⟩ := by
  interval_cases n <;> rfl

theorem lead?_four {n : Nat} (h : n < 5) : lead? (UInt8.ofNat (n + 0xF0)) =
    some ⟨n, if n = 0 then 0x90 else 0x80, if n = 4 then 0x8F else 0xBF, 2⟩ := by
  interval_cases n <;> rfl

/-- The code points that characters have: none of them is a surrogate or past U+10FFFF. -/
theorem toNat_range (c : Char) : c.toNat < 0xD800 ∨ (0xDFFF < c.toNat ∧ c.toNat < 0x110000) := by
  simpa [UInt32.isValidChar, Nat.isValidChar] using c.valid

theorem next_ascii {c : Char} (h : c.toNat ≤ 0x7F) (bs : List UInt8) :
    next (UInt8.ofNat c.toNat) bs = (some c, bs) := by
  have hb : (UInt8.ofNat c.toNat).toNat = c.toNat := toNat_ofNat (by omega)
  have hlt : UInt8.ofNat c.toNat < 0x80 := by
    rw [UInt8.lt_iff_toNat_lt, hb]
    simpa using Nat.lt_succ_of_le h
  simp only [next, hlt, if_true, hb, Char.ofNat_toNat]

theorem next_two {c : Char} (h : 0x7F < c.toNat) (h' : c.toNat ≤ 0x7FF) (bs : List UInt8) :
    next (UInt8.ofNat (c.toNat / 64 + 0xC0)) (UInt8.ofNat (c.toNat % 64 + 0x80) :: bs) =
      (some c, bs) := by
  have hb : (UInt8.ofNat (c.toNat / 64 + 0xC0)).toNat = c.toNat / 64 + 0xC0 :=
    toNat_ofNat (by omega)
  have hn : c.toNat / 64 * 64 + c.toNat % 64 = c.toNat := by omega
  rw [next_of_lead (by omega) (lead?_two (by omega) (by omega)) (by omega) (by simp) (by simp; omega)]
  simp only [tail, hn, Char.ofNat_toNat]

theorem next_three {c : Char} (h : 0x7FF < c.toNat) (h' : c.toNat ≤ 0xFFFF) (bs : List UInt8) :
    next (UInt8.ofNat (c.toNat / 4096 + 0xE0))
        (UInt8.ofNat (c.toNat / 64 % 64 + 0x80) :: UInt8.ofNat (c.toNat % 64 + 0x80) :: bs) =
      (some c, bs) := by
  have hb : (UInt8.ofNat (c.toNat / 4096 + 0xE0)).toNat = c.toNat / 4096 + 0xE0 :=
    toNat_ofNat (by omega)
  have hn : (c.toNat / 4096 * 64 + c.toNat / 64 % 64) * 64 + c.toNat % 64 = c.toNat := by omega
  have hrange := toNat_range c
  rw [next_of_lead (by omega) (lead?_three (by omega)) (by omega)
    (by dsimp only; split <;> simp; omega) (by dsimp only; split <;> simp <;> omega)]
  rw [tail_cons _ _ (by omega)]
  simp only [tail, hn, Char.ofNat_toNat]

theorem next_four {c : Char} (h : 0xFFFF < c.toNat) (bs : List UInt8) :
    next (UInt8.ofNat (c.toNat / 262144 + 0xF0))
        (UInt8.ofNat (c.toNat / 4096 % 64 + 0x80) :: UInt8.ofNat (c.toNat / 64 % 64 + 0x80) ::
          UInt8.ofNat (c.toNat % 64 + 0x80) :: bs) =
      (some c, bs) := by
  have hrange := toNat_range c
  have hb : (UInt8.ofNat (c.toNat / 262144 + 0xF0)).toNat = c.toNat / 262144 + 0xF0 :=
    toNat_ofNat (by omega)
  have hn : ((c.toNat / 262144 * 64 + c.toNat / 4096 % 64) * 64 + c.toNat / 64 % 64) * 64
      + c.toNat % 64 = c.toNat := by omega
  rw [next_of_lead (by omega) (lead?_four (by omega)) (by omega)
    (by dsimp only; split <;> simp; omega) (by dsimp only; split <;> simp <;> omega)]
  rw [tail_cons _ _ (by omega), tail_cons _ _ (by omega)]
  simp only [tail, hn, Char.ofNat_toNat]

theorem pieces_utf8EncodeChar (c : Char) (bs : List UInt8) :
    pieces (String.utf8EncodeChar c ++ bs) = some c :: pieces bs := by
  have hrange := toNat_range c
  have hval : c.val.toNat = c.toNat := rfl
  unfold String.utf8EncodeChar
  simp only [hval]
  split
  · rw [List.cons_append, pieces, next_ascii (by assumption)]
    rfl
  split
  · rw [Nat.mod_eq_of_lt (show c.toNat / 64 < 32 by omega), List.cons_append, pieces,
      List.cons_append, next_two (by omega) (by assumption)]
    rfl
  split
  · rw [Nat.mod_eq_of_lt (show c.toNat / 4096 < 16 by omega), List.cons_append, pieces,
      List.cons_append, List.cons_append, next_three (by omega) (by assumption)]
    rfl
  · rw [Nat.mod_eq_of_lt (show c.toNat / 262144 < 8 by omega), List.cons_append, pieces,
      List.cons_append, List.cons_append, List.cons_append, next_four (by omega)]
    rfl

theorem pieces_utf8 (cs : List Char) : pieces (utf8 cs) = cs.map some := by
  induction cs with
  | nil => rw [utf8_nil, pieces, List.map_nil]
  | cons c cs ih => rw [utf8_cons, pieces_utf8EncodeChar, ih, List.map_cons]

end Utf8

@[simp] theorem ofUtf8?_utf8 (cs : List Char) : ofUtf8? (utf8 cs) = some cs := by
  rw [ofUtf8?, Utf8.pieces_utf8]
  induction cs with
  | nil => rfl
  | cons c cs ih => simp [ih]

@[simp] theorem ofUtf8Lossy_utf8 (cs : List Char) : ofUtf8Lossy (utf8 cs) = cs := by
  rw [ofUtf8Lossy, Utf8.pieces_utf8, List.map_map]
  exact List.map_id cs

end PickupGame.Text
