import Mathlib.Data.String.Basic
import PickupGame.Proofs.Numeral.Order
import PickupGame.Proofs.Text.Utf8

/-!
# The order of texts

Texts compare by their bytes as they do by their characters: where two texts differ first, the
greater character has the greater byte at the place where the bytes differ first.
-/

namespace PickupGame.Text

namespace Utf8

/-! ## The bytes of a character -/

/-- How many bytes of a character follow its first one. -/
def more (n : Nat) : Nat :=
  if n ≤ 0x7F then 0 else if n ≤ 0x7FF then 1 else if n ≤ 0xFFFF then 2 else 3

/-- The least first byte of a character whose first byte is followed by so many others. -/
def mark : Nat → Nat
  | 0 => 0
  | 1 => 0xC0
  | 2 => 0xE0
  | 3 => 0xF0
  | _ => 0xF8

def first (n : Nat) : Nat :=
  mark (more n) + n / 64 ^ more n

/-- The last bytes of a character, each with six bits of it. -/
def continuation : Nat → Nat → List UInt8
  | 0, _ => []
  | k + 1, n => UInt8.ofNat (n / 64 ^ k % 64 + 0x80) :: continuation k n

theorem utf8EncodeChar_eq (c : Char) : String.utf8EncodeChar c =
    UInt8.ofNat (first c.toNat) :: continuation (more c.toNat) c.toNat := by
  have hrange := toNat_range c
  have hval : c.val.toNat = c.toNat := rfl
  unfold String.utf8EncodeChar first more
  simp only [hval]
  split
  · simp [mark, continuation]
  split
  · rw [Nat.mod_eq_of_lt (show c.toNat / 64 < 32 by omega)]
    simp [mark, continuation, Nat.add_comm]
  split
  · rw [Nat.mod_eq_of_lt (show c.toNat / 4096 < 16 by omega)]
    simp [mark, continuation, Nat.add_comm]
  · rw [Nat.mod_eq_of_lt (show c.toNat / 262144 < 8 by omega)]
    simp [mark, continuation, Nat.add_comm]

theorem more_mono : Monotone more := by
  intro m n h
  unfold more
  split_ifs <;> omega

theorem mark_mono : Monotone mark := by
  refine monotone_nat_of_le_succ fun k => ?_
  match k with
  | 0 | 1 | 2 | 3 => decide
  | k + 4 => exact Nat.le_refl _

/-- The first byte tells how many others there are. -/
theorem first_lt_mark (c : Char) : first c.toNat < mark (more c.toNat + 1) := by
  have hrange := toNat_range c
  unfold first more
  split_ifs <;> simp only [mark] <;> omega

theorem first_lt (c : Char) : first c.toNat < 256 := by
  have hmore : more c.toNat + 1 ≤ 4 := by
    unfold more
    split_ifs <;> omega
  calc first c.toNat < mark (more c.toNat + 1) := first_lt_mark c
    _ ≤ mark 4 := mark_mono hmore
    _ < 256 := by decide

/-! ## Comparing characters -/

theorem cons_lt_cons_iff {m n : Nat} (hm : m < 256) (hn : n < 256) {xs ys : List UInt8} :
    UInt8.ofNat m :: xs < UInt8.ofNat n :: ys ↔ m < n ∨ m = n ∧ xs < ys := by
  rw [List.cons_lt_cons_iff, UInt8.lt_iff_toNat_lt, ← UInt8.toNat_inj, toNat_ofNat hm, toNat_ofNat hn]

theorem continuation_append_lt {m n : Nat} (k : Nat) (h : m % 64 ^ k < n % 64 ^ k)
    (xs ys : List UInt8) : continuation k m ++ xs < continuation k n ++ ys := by
  induction k with
  | zero => simp [Nat.mod_one] at h
  | succ k ih =>
    have hpos : 0 < 64 ^ k := Nat.pow_pos (by decide)
    have hmono : Monotone (64 ^ k * ·) := fun a b hab => Nat.mul_le_mul_left _ hab
    have hrest (a r : Nat) : 64 ^ k * a + r % 64 ^ k < 64 ^ k * (a + 1) :=
      Nat.add_lt_add_left (Nat.mod_lt r hpos) _
    rw [Nat.pow_succ, Nat.mod_mul, Nat.mod_mul, Nat.add_comm (m % _), Nat.add_comm (n % _),
      Numeral.add_lt_add_iff hmono (hrest _ m) (hrest _ n)] at h
    rw [continuation, continuation, List.cons_append, List.cons_append,
      cons_lt_cons_iff (by omega) (by omega), Nat.add_lt_add_iff_right, Nat.add_right_cancel_iff]
    exact h.imp_right fun ⟨hsame, hlt⟩ => ⟨hsame, ih hlt⟩

theorem first_lt_or_eq {c d : Char} (h : c < d) : first c.toNat < first d.toNat ∨
    first c.toNat = first d.toNat ∧ more c.toNat = more d.toNat ∧
      c.toNat % 64 ^ more d.toNat < d.toNat % 64 ^ more d.toNat := by
  have hlt : c.toNat < d.toNat := h
  rcases (more_mono hlt.le).lt_or_eq with hmore | hmore
  · left
    calc first c.toNat < mark (more c.toNat + 1) := first_lt_mark c
      _ ≤ mark (more d.toNat) := mark_mono hmore
      _ ≤ first d.toNat := Nat.le_add_right _ _
  · simp only [first, hmore, true_and, Nat.add_lt_add_iff_left, Nat.add_left_cancel_iff]
    have hc := Nat.div_add_mod c.toNat (64 ^ more d.toNat)
    have hd := Nat.div_add_mod d.toNat (64 ^ more d.toNat)
    rcases (Nat.div_le_div_right (c := 64 ^ more d.toNat) hlt.le).lt_or_eq with hdiv | hdiv
    · exact .inl hdiv
    · rw [hdiv] at hc
      exact .inr ⟨hdiv, by omega⟩

theorem encode_append_lt {c d : Char} (h : c < d) (xs ys : List UInt8) :
    String.utf8EncodeChar c ++ xs < String.utf8EncodeChar d ++ ys := by
  rw [utf8EncodeChar_eq, utf8EncodeChar_eq, List.cons_append, List.cons_append,
    cons_lt_cons_iff (first_lt c) (first_lt d)]
  refine (first_lt_or_eq h).imp_right ?_
  rintro ⟨hfirst, hmore, hrest⟩
  rw [hmore]
  exact ⟨hfirst, continuation_append_lt _ hrest xs ys⟩

end Utf8

/-! ## Comparing texts -/

theorem utf8_lt_of_lt {cs ds : List Char} (h : cs < ds) : utf8 cs < utf8 ds := by
  induction h with
  | @nil d ds =>
    rw [utf8_nil, utf8_cons, Utf8.utf8EncodeChar_eq]
    exact List.nil_lt_cons _ _
  | cons _ ih => exact List.append_left_lt ih
  | rel hlt => exact Utf8.encode_append_lt hlt _ _

theorem utf8_lt_iff {cs ds : List Char} : utf8 cs < utf8 ds ↔ cs < ds := by
  refine ⟨fun h => ?_, utf8_lt_of_lt⟩
  rcases lt_trichotomy cs ds with hlt | rfl | hgt
  · exact hlt
  · exact absurd h (List.lt_irrefl _)
  · exact absurd (utf8_lt_of_lt hgt) (List.lt_asymm h)

end PickupGame.Text
