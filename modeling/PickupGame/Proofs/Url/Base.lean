import Mathlib.Data.List.DropRight
import PickupGame.Url.Base

/-!
# Slashes at the end of an address

What is left of an address ends in no slash, and an address that ends in none is left as it is.
-/

namespace PickupGame.Url

theorem withoutSlashes_eq (cs : List Char) : withoutSlashes cs = cs.rdropWhile (· = '/') := rfl

theorem getLast?_withoutSlashes (cs : List Char) : (withoutSlashes cs).getLast? ≠ some '/' := by
  intro h
  have hne : cs.rdropWhile (· = '/') ≠ [] := by
    intro hnil
    rw [withoutSlashes_eq, hnil] at h
    cases h
  have hlast := List.rdropWhile_last_not (· = '/') cs hne
  rw [withoutSlashes_eq, List.getLast?_eq_getLast_of_ne_nil hne] at h
  apply hlast
  rw [Option.some.inj h]
  rfl

theorem withoutSlashes_of_getLast? {cs : List Char} (h : cs.getLast? ≠ some '/') :
    withoutSlashes cs = cs := by
  rw [withoutSlashes_eq, List.rdropWhile_eq_self_iff]
  intro hne hlast
  apply h
  rw [List.getLast?_eq_getLast_of_ne_nil hne]
  simpa using hlast

theorem withoutSlashes_append_of_ne_nil {ds : List Char} (h : withoutSlashes ds ≠ [])
    (cs : List Char) : withoutSlashes (cs ++ ds) = cs ++ withoutSlashes ds := by
  have hne : ds.reverse.dropWhile (· = '/') ≠ [] := by
    intro hnil
    apply h
    rw [withoutSlashes, hnil]
    rfl
  obtain ⟨e, es, hes⟩ := List.exists_cons_of_ne_nil hne
  rw [withoutSlashes, withoutSlashes, List.reverse_append, List.dropWhile_append, hes]
  simp

theorem withoutSlashes_append_replicate (cs : List Char) (n : Nat) :
    withoutSlashes (cs ++ List.replicate n '/') = withoutSlashes cs := by
  induction n with
  | zero => rw [List.replicate_zero, List.append_nil]
  | succ n ih =>
    rw [List.replicate_succ', ← List.append_assoc, withoutSlashes_eq,
      List.rdropWhile_concat_pos _ _ _ (by rfl)]
    exact ih

theorem trimSlashes_of_getLast? {base : String} (h : base.toList.getLast? ≠ some '/') :
    trimSlashes base = base := by
  rw [trimSlashes, withoutSlashes_of_getLast? h, String.ofList_toList]

theorem getLast?_trimSlashes (base : String) : (trimSlashes base).toList.getLast? ≠ some '/' := by
  rw [trimSlashes, String.toList_ofList]
  exact getLast?_withoutSlashes base.toList

end PickupGame.Url
