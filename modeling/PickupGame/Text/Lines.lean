/-!
# Lines

A text is cut at its line feeds: `n` of them make `n + 1` lines, and a final one leaves an empty
last line. Joining with line feeds is the inverse.
-/

namespace PickupGame.Text

/-- The lines of a text, without the line feeds that end them. -/
def lines : List Char → List (List Char)
  | [] => [[]]
  | c :: cs =>
    if c = '\n' then [] :: lines cs
    else match lines cs with
      | [] => [[c]]
      | l :: ls => (c :: l) :: ls

@[simp] theorem lines_nil : lines [] = [[]] := rfl

@[simp] theorem lines_newline (cs : List Char) : lines ('\n' :: cs) = [] :: lines cs := by
  simp [lines]

theorem lines_ne_nil (cs : List Char) : lines cs ≠ [] := by
  cases cs with
  | nil => simp
  | cons c cs =>
    unfold lines
    split
    · simp
    · split <;> simp

def linesOf (s : String) : List String :=
  (lines s.toList).map String.ofList

/-- The text whose lines are the given ones. -/
def unlines : List (List Char) → List Char
  | [] => []
  | [l] => l
  | l :: ls => l ++ '\n' :: unlines ls

def unlinesOf (ls : List String) : String :=
  "\n".intercalate ls

end PickupGame.Text
