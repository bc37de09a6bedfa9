import PickupGame.Text.Lines

/-!
# Lines of texts put together

Cutting a text at its line feeds is splitting it there, so lines without line feeds are found again
in the text that is made of them.
-/

namespace PickupGame.Text

theorem lines_cons (c : Char) (cs : List Char) :
    lines (c :: cs) = if c = '\n' then [] :: lines cs else (lines cs).modifyHead (c :: ·) := by
  rw [lines]
  cases h : lines cs with
  | nil => exact absurd h (lines_ne_nil cs)
  | cons l ls => rfl

theorem lines_eq_splitOn (cs : List Char) : lines cs = cs.splitOn '\n' := by
  induction cs with
  | nil => rfl
  | cons c cs ih => simp [lines_cons, List.splitOn_cons_eq_if_modifyHead, ih]

theorem unlines_eq_intercalate (ls : List (List Char)) : unlines ls = ['\n'].intercalate ls := by
  induction ls with
  | nil => rfl
  | cons l ls ih =>
    cases ls with
    | nil => simp [unlines]
    | cons m ms => simp [unlines, List.intercalate_cons_cons, ih]

theorem mem_intercalate {α : Type} {x between : α} {parts : List (List α)}
    (h : x ∈ [between].intercalate parts) : x = between ∨ ∃ part ∈ parts, x ∈ part := by
  induction parts with
  | nil => simp at h
  | cons part parts ih =>
    cases parts with
    | nil => exact .inr ⟨part, List.mem_cons_self, by simpa using h⟩
    | cons next parts =>
      rw [List.intercalate_cons_cons, List.append_assoc, List.mem_append, List.mem_append,
        List.mem_singleton] at h
      rcases h with h | h | h
      · exact .inr ⟨part, List.mem_cons_self, h⟩
      · exact .inl h
      · exact (ih h).imp_right fun ⟨m, hm, hx⟩ => ⟨m, List.mem_cons_of_mem part hm, hx⟩

theorem newline_notMem_of_mem_lines {cs l : List Char} (h : l ∈ lines cs) : '\n' ∉ l := by
  induction cs generalizing l with
  | nil =>
    rw [lines_nil, List.mem_singleton] at h
    simp [h]
  | cons c cs ih =>
    rw [lines_cons] at h
    split at h
    · rcases List.mem_cons.1 h with rfl | h
      · exact List.not_mem_nil
      · exact ih h
    · rename_i hc
      cases hls : lines cs with
      | nil => exact absurd hls (lines_ne_nil cs)
      | cons m ms =>
        rw [hls] at h ih
        rcases List.mem_cons.1 h with rfl | h
        · have hm := ih List.mem_cons_self
          simpa [Ne.symm hc] using hm
        · exact ih (List.mem_cons_of_mem m h)

theorem lines_of_notMem {cs : List Char} (h : '\n' ∉ cs) : lines cs = [cs] := by
  rw [lines_eq_splitOn, List.splitOn_eq_singleton h]

theorem lines_append_newline (cs ds : List Char) :
    lines (cs ++ '\n' :: ds) = lines cs ++ lines ds := by
  simp only [lines_eq_splitOn, List.splitOn_append_cons_self]

theorem lines_unlines {ls : List (List Char)} (h : ∀ l ∈ ls, '\n' ∉ l) (hne : ls ≠ []) :
    lines (unlines ls) = ls := by
  rw [unlines_eq_intercalate, lines_eq_splitOn, List.splitOn_intercalate '\n' h hne]

/-- Of texts with line feeds between them, each keeps its lines. -/
theorem lines_intercalate {ss : List String} (h : ss ≠ []) :
    lines ("\n".intercalate ss).toList = ss.flatMap fun s => lines s.toList := by
  induction ss with
  | nil => exact absurd rfl h
  | cons s ss ih =>
    cases ss with
    | nil => simp
    | cons t ts =>
      have hnewline : ("\n".intercalate (s :: t :: ts)).toList =
          s.toList ++ '\n' :: ("\n".intercalate (t :: ts)).toList := by
        simp [String.intercalate_cons_cons]
      rw [hnewline, lines_append_newline, ih (List.cons_ne_nil t ts)]
      rfl

end PickupGame.Text
