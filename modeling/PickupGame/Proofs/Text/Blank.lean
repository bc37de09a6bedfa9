import PickupGame.Text.Blank

/-!
# Texts without white space at their ends

A text has exactly one part that white space stands around and that has none at its own ends. That
part is what trimming leaves.
-/

namespace PickupGame.Text

/-- A text without the white space at its ends. -/
structure Stripped (cs core : List Char) : Prop where
  around : ∃ front back, cs = front ++ (core ++ back) ∧ (∀ c ∈ front, isBlank c = true) ∧
    ∀ c ∈ back, isBlank c = true
  head : ∀ c ∈ core.head?, isBlank c = false
  last : ∀ c ∈ core.getLast?, isBlank c = false

theorem trimEnd_eq (cs : List Char) : trimEnd cs = (trimStart cs.reverse).reverse := rfl

theorem trimStart_append {front cs : List Char} (hfront : ∀ c ∈ front, isBlank c = true)
    (hhead : ∀ c ∈ cs.head?, isBlank c = false) : trimStart (front ++ cs) = cs := by
  rw [trimStart, List.dropWhile_append_of_pos hfront]
  cases cs with
  | nil => rfl
  | cons c cs => exact List.dropWhile_cons_of_neg (by simp [hhead c rfl])

theorem trimEnd_append {back cs : List Char} (hback : ∀ c ∈ back, isBlank c = true)
    (hlast : ∀ c ∈ cs.getLast?, isBlank c = false) : trimEnd (cs ++ back) = cs := by
  rw [trimEnd_eq, List.reverse_append, trimStart_append, List.reverse_reverse]
  · exact fun c hc => hback c (List.mem_reverse.1 hc)
  · rwa [List.head?_reverse]

theorem exists_trimStart (cs : List Char) :
    ∃ front, cs = front ++ trimStart cs ∧ (∀ c ∈ front, isBlank c = true) ∧
      ∀ c ∈ (trimStart cs).head?, isBlank c = false := by
  induction cs with
  | nil => exact ⟨[], rfl, nofun, nofun⟩
  | cons c cs ih =>
    cases hc : isBlank c with
    | true =>
      obtain ⟨front, hcs, hfront, hhead⟩ := ih
      have hskip : trimStart (c :: cs) = trimStart cs := List.dropWhile_cons_of_pos hc
      rw [hskip]
      exact ⟨c :: front, congrArg (c :: ·) hcs, List.forall_mem_cons.2 ⟨hc, hfront⟩, hhead⟩
    | false =>
      have hself : trimStart (c :: cs) = c :: cs := List.dropWhile_cons_of_neg (by simp [hc])
      rw [hself]
      exact ⟨[], rfl, nofun, fun d hd => Option.some.inj hd ▸ hc⟩

theorem exists_trimEnd (cs : List Char) :
    ∃ back, cs = trimEnd cs ++ back ∧ (∀ c ∈ back, isBlank c = true) ∧
      ∀ c ∈ (trimEnd cs).getLast?, isBlank c = false := by
  obtain ⟨front, hcs, hfront, hhead⟩ := exists_trimStart cs.reverse
  refine ⟨front.reverse, ?_, fun c hc => hfront c (List.mem_reverse.1 hc), ?_⟩
  · rw [trimEnd_eq, ← List.reverse_append, ← hcs, List.reverse_reverse]
  · rwa [trimEnd_eq, List.getLast?_reverse]

theorem stripped_trim (cs : List Char) : Stripped cs (trim cs) := by
  obtain ⟨front, hcs, hfront, hhead⟩ := exists_trimStart cs
  obtain ⟨back, hrest, hback, hlast⟩ := exists_trimEnd (trimStart cs)
  refine ⟨⟨front, back, ?_, hfront, hback⟩, fun c hc => hhead c ?_, hlast⟩
  · rw [trim, ← hrest, ← hcs]
  · -- Trimming the end leaves what a text begins with, if it leaves anything.
    have hc : c ∈ (trimEnd (trimStart cs)).head? := hc
    rw [hrest, List.head?_append, Option.mem_def.1 hc]
    rfl

theorem trim_of_stripped {cs core : List Char} (h : Stripped cs core) : trim cs = core := by
  obtain ⟨⟨front, back, rfl, hfront, hback⟩, hhead, hlast⟩ := h
  rw [trim]
  cases core with
  | nil =>
    have hblank : ∀ c ∈ front ++ back, isBlank c = true :=
      List.forall_mem_append.2 ⟨hfront, hback⟩
    have hnil : trimStart ((front ++ back) ++ []) = [] := trimStart_append hblank nofun
    rw [List.append_nil] at hnil
    rw [List.nil_append, hnil]
    rfl
  | cons c core =>
    have hhead : ∀ d ∈ (c :: core ++ back).head?, isBlank d = false := hhead
    rw [trimStart_append hfront hhead, trimEnd_append hback hlast]

theorem stripped_iff {cs core : List Char} : Stripped cs core ↔ core = trim cs :=
  ⟨fun h => (trim_of_stripped h).symm, fun h => h ▸ stripped_trim cs⟩

end PickupGame.Text
