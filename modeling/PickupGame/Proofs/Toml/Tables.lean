import PickupGame.Toml.Value

/-!
# Entries at the end of a table

A document grows at its end. What is done to the last entry of a table, or to the table at the end
of a path of last entries, leaves the entries in front as they are.
-/

namespace PickupGame.Toml.Entries

variable {es : Entries} {k : String}

theorem get?_append_self (h : es.get? k = none) (v : Value) :
    (es ++ [(k, v)] : Entries).get? k = some v := by
  unfold get? at h ⊢
  rw [List.lookup_append, h, Option.none_or, List.lookup_cons_self]

theorem get?_append_of_ne {l : String} (h : l ≠ k) (es : Entries) (v : Value) :
    (es ++ [(k, v)] : Entries).get? l = es.get? l := by
  have hl : (l == k) = false := by simpa using h
  simp [get?, List.lookup_append, List.lookup_cons, hl]

theorem add?_of_get?_eq_none (h : es.get? k = none) (v : Value) :
    es.add? k v = some (es ++ [(k, v)]) := by
  rw [add?, h]

theorem alter?_append_self (h : es.get? k = none) (f : Value → Option Value) (v : Value) :
    (es ++ [(k, v)] : Entries).alter? f k = (f v).map fun w => es ++ [(k, w)] := by
  induction es with
  | nil => simp [alter?]
  | cons e es ih =>
    obtain ⟨l, u⟩ := e
    have hl : ¬ l = k := by
      rintro rfl
      simp [get?] at h
    have hes : Entries.get? es k = none := by
      have hb : (k == l) = false := by simpa using fun e : k = l => hl e.symm
      simpa [get?, List.lookup_cons, hb] using h
    rw [List.cons_append, alter?, if_neg hl, ih hes]
    cases f v <;> rfl

/-- A header goes into the last table on its way. -/
theorem at?_append_self (h : es.get? k = none) {form : Form} (hform : form ≠ .inline)
    (f : Entries → Option Entries) (path : List String) (sub : Entries) :
    at? f (k :: path) (es ++ [(k, .table form sub)]) =
      (at? f path sub).map fun sub => es ++ [(k, .table form sub)] := by
  rw [at?, get?_append_self h]
  split
  · rename_i he
    exact absurd he (by simp)
  · rename_i he
    cases he
    exact absurd rfl hform
  · rename_i he
    cases he
    cases hsub : at? f path sub with
    | none => rfl
    | some sub' => simp [alter?_append_self h]
  · rename_i he
    cases he
  · rename_i htable _ he
    exact absurd (Option.some.inj he).symm (htable form sub)

theorem at?_of_get?_eq_none (h : es.get? k = none) (f : Entries → Option Entries)
    (path : List String) :
    at? f (k :: path) es = (at? f path []).map fun sub => es ++ [(k, .table .implied sub)] := by
  rw [at?, h]

theorem openTable?_of_get?_eq_none (h : es.get? k = none) :
    es.openTable? k = some (es ++ [(k, .table .header [])]) := by
  rw [openTable?, h, add?_of_get?_eq_none h]

end PickupGame.Toml.Entries
