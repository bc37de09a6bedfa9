import Mathlib.Data.List.Forall2
import Mathlib.Order.Bounds.Basic
import PickupGame.Display.Result
import PickupGame.Machine
import PickupGame.Proofs.Numeral.Decimal
import PickupGame.Proofs.Text.Lines

/-!
# What a table shows

Where output is shown on no terminal, a table is read line by line: borders, one line of headings, and a block of lines for each entry.
Every line of a block begins with the same upright character and no rule does, so the blocks can be
told apart whatever stands in the cells.
-/

namespace PickupGame.Display

/-- Columns side by side in a frame. -/
def bordered (left between right : Char) (columns : List (List Char)) : List Char :=
  left :: [between].intercalate columns ++ [right]

/-- A rule across columns of the given widths, each with a blank on either side. -/
def border (left dash between right : Char) (widths : List Nat) : List Char :=
  bordered left between right (widths.map fun w => List.replicate (w + 2) dash)

/-- The rule between the blocks of two entries. -/
def dashed : List Nat → List Char :=
  border '├' '╌' '┼' '┤'

/-- The lines in a column of some rows. -/
def columnLines (rows : List (List String)) (j : Nat) : List (List Char) :=
  rows.flatMap fun row => Text.lines (row.getD j "").toList

section

variable [Screen]

/-- A line between two blanks and filled up with more to a width. -/
def IsField (w : Nat) (line field : List Char) : Prop :=
  ∃ k, Screen.width line + k = w ∧ field = ' ' :: line ++ List.replicate k ' ' ++ [' ']

/-- A line of the block for some cells: of each cell its line `i`, or nothing if it has ended. -/
def IsBlockLine (widths : List Nat) (cells : List String) (i : Nat) (line : List Char) : Prop :=
  ∃ fields : List (List Char),
    List.Forall₂ (fun (p : Nat × String) => IsField p.1 ((Text.lines p.2.toList).getD i []))
      (widths.zip cells) fields ∧
    line = bordered '│' '┆' '│' fields

/-- The lines for some cells, as many as the cell with the most of them has. -/
structure IsBlock (widths : List Nat) (cells : List String) (block : List (List Char)) : Prop where
  height : IsGreatest {n | ∃ s ∈ cells, (Text.lines s.toList).length = n} block.length
  lines : ∀ i (h : i < block.length), IsBlockLine widths cells i block[i]

/-- A text is the table with a header and entries, when its columns have certain widths and its
entries certain blocks. -/
structure Drawn (header : List String) (entries : List (List String)) (text : String)
    (widths : List Nat) (headings : List Char) (blocks : List (List (List Char))) : Prop where
  lines : Text.lines text.toList =
    border '┌' '─' '┬' '┐' widths :: headings :: border '╞' '═' '╪' '╡' widths ::
      [dashed widths].intercalate blocks ++ [border '└' '─' '┴' '┘' widths]
  columns : widths.length = header.length
  width : ∀ j (h : j < widths.length),
    IsGreatest {n | ∃ l ∈ columnLines (header :: entries) j, Screen.width l = n} widths[j]
  heading : IsBlock widths header [headings]
  rows : List.Forall₂ (IsBlock widths) entries blocks
  apart : entries ≠ [] → ([dashed widths].intercalate blocks).splitOn (dashed widths) = blocks

def IsTable (header : List String) (entries : List (List String)) (text : String) : Prop :=
  ∃ widths headings blocks, Drawn header entries text widths headings blocks

end

/-! ## Widths and heights -/

theorem isGreatest_foldl_max {ns : List Nat} (h : ns ≠ []) :
    IsGreatest {n | n ∈ ns} (ns.foldl max 0) := by
  obtain ⟨m, hm⟩ := Option.isSome_iff_exists.1 (List.isSome_max?_iff.2 h)
  obtain ⟨hmem, hle⟩ := List.max?_eq_some_iff.1 hm
  rw [List.foldl_max, hm, Option.getD_some, Nat.zero_max]
  exact ⟨hmem, fun n hn => hle n hn⟩

namespace Grid

theorem isGreatest_blockWidth [Screen] (s : String) :
    IsGreatest {n | ∃ l ∈ Text.lines s.toList, Screen.width l = n} (blockWidth (block s)) := by
  have hne : (block s).map Screen.width ≠ [] := by simp [block, Text.lines_ne_nil]
  have h := isGreatest_foldl_max hne
  simp only [List.mem_map] at h
  exact h

theorem isGreatest_height {cells : List String} (h : cells ≠ []) :
    IsGreatest {n | ∃ s ∈ cells, (Text.lines s.toList).length = n} (height (cells.map block)) := by
  have hne : (cells.map block).map List.length ≠ [] := by simpa using h
  have h := isGreatest_foldl_max hne
  simp only [List.mem_map, exists_exists_and_eq_and] at h
  exact h

theorem getD_widen (vs ws : List Nat) (j : Nat) :
    (widen vs ws).getD j 0 = max (vs.getD j 0) (ws.getD j 0) := by
  induction vs generalizing ws j with
  | nil => simp [widen]
  | cons v vs ih =>
    cases ws with
    | nil => simp [widen]
    | cons w ws =>
      cases j with
      | zero => simp [widen]
      | succ j => simpa [widen] using ih ws j

theorem length_widen (vs ws : List Nat) : (widen vs ws).length = max vs.length ws.length := by
  induction vs generalizing ws with
  | nil => simp [widen]
  | cons v vs ih =>
    cases ws with
    | nil => simp [widen]
    | cons w ws => simp [widen, ih, Nat.add_max_add_right]

theorem getD_foldl_widen (rows : List (List Nat)) (ws : List Nat) (j : Nat) :
    (rows.foldl widen ws).getD j 0 = (rows.map (·.getD j 0)).foldl max (ws.getD j 0) := by
  induction rows generalizing ws with
  | nil => rfl
  | cons row rows ih => rw [List.foldl_cons, ih, getD_widen, List.map_cons, List.foldl_cons]

theorem length_foldl_widen {rows : List (List Nat)} {ws : List Nat} {n : Nat} (hws : ws.length = n)
    (hrows : ∀ row ∈ rows, row.length = n) : (rows.foldl widen ws).length = n := by
  induction rows generalizing ws with
  | nil => exact hws
  | cons row rows ih =>
    refine ih ?_ fun r hr => hrows r (List.mem_cons_of_mem row hr)
    rw [length_widen, hws, hrows row List.mem_cons_self, Nat.max_self]

theorem blockWidth_empty [Screen] : blockWidth (block "") = 0 := by
  have hblock : block "" = [[]] := rfl
  rw [hblock, blockWidth, List.map_singleton, Screen.width_nil]
  rfl

/-- The width of column `j`. A row that ends before it has nothing there, of width zero. -/
theorem isGreatest_widths [Screen] (row : List String) (rows : List (List String)) (j : Nat) :
    IsGreatest {n | ∃ l ∈ columnLines (row :: rows) j, Screen.width l = n}
      ((widths ((row :: rows).map (·.map block))).getD j 0) := by
  have hcell : ∀ r : List String,
      ((r.map block).map blockWidth).getD j 0 = blockWidth (block (r.getD j "")) := fun r => by
    simp only [List.getD_eq_getElem?_getD, List.getElem?_map]
    cases r[j]? with
    | none => exact blockWidth_empty.symm
    | some s => rfl
  have hwidth : (widths ((row :: rows).map (·.map block))).getD j 0 =
      ((row :: rows).map fun r => blockWidth (block (r.getD j ""))).foldl max 0 := by
    rw [widths, getD_foldl_widen, List.map_map, List.map_map]
    congr 1
    exact List.map_congr_left fun r _ => hcell r
  obtain ⟨hmem, hle⟩ := isGreatest_foldl_max
    (mt List.map_eq_nil_iff.1 (List.cons_ne_nil row rows) :
      (row :: rows).map (fun r => blockWidth (block (r.getD j ""))) ≠ [])
  rw [hwidth]
  constructor
  · obtain ⟨r, hr, hrw⟩ := List.mem_map.1 hmem
    obtain ⟨⟨l, hl, hlw⟩, -⟩ := isGreatest_blockWidth (r.getD j "")
    exact ⟨l, List.mem_flatMap.2 ⟨r, hr, hl⟩, hlw.trans hrw⟩
  · rintro _ ⟨l, hl, rfl⟩
    obtain ⟨r, hr, hl⟩ := List.mem_flatMap.1 hl
    exact ((isGreatest_blockWidth (r.getD j "")).2 ⟨l, hl, rfl⟩).trans
      (hle (List.mem_map.2 ⟨r, hr, rfl⟩))

/-! ## Frames -/

theorem framed_eq (left between right : Char) {columns : List (List Char)} (h : columns ≠ []) :
    framed left between right columns = bordered left between right columns := by
  obtain ⟨c, cs, rfl⟩ := List.exists_cons_of_ne_nil h
  have hflat : c ++ cs.flatMap (between :: ·) = [between].intercalate (c :: cs) := by
    induction cs generalizing c with
    | nil => simp
    | cons d ds ih =>
      rw [List.flatMap_cons, List.intercalate_cons_cons, ← ih d (List.cons_ne_nil d ds)]
      simp
  simp only [framed, bordered, List.cons_append, ← hflat]

theorem rule_eq (left dash between right : Char) {ws : List Nat} (h : ws ≠ []) :
    rule left dash between right ws = border left dash between right ws :=
  framed_eq left between right (mt List.map_eq_nil_iff.1 h)

theorem notMem_bordered {c left between right : Char} (hl : c ≠ left) (hb : c ≠ between)
    (hr : c ≠ right) {columns : List (List Char)} (h : ∀ column ∈ columns, c ∉ column) :
    c ∉ bordered left between right columns := by
  have hcolumns : c ∉ [between].intercalate columns := fun hc =>
    (Text.mem_intercalate hc).elim hb fun ⟨column, hmem, hc⟩ => h column hmem hc
  simp [bordered, hl, hr, hcolumns]

theorem newline_notMem_border {left dash between right : Char} (hl : '\n' ≠ left)
    (hd : '\n' ≠ dash) (hb : '\n' ≠ between) (hr : '\n' ≠ right) (ws : List Nat) :
    '\n' ∉ border left dash between right ws := by
  refine notMem_bordered hl hb hr fun column hcolumn => ?_
  obtain ⟨w, -, rfl⟩ := List.mem_map.1 hcolumn
  exact fun h => hd (List.eq_of_mem_replicate h)

/-! ## Blocks -/

theorem isField_field [Screen] {w : Nat} {line : List Char} (h : Screen.width line ≤ w) :
    IsField w line (field w line) :=
  ⟨w - Screen.width line, Nat.add_sub_cancel' h, rfl⟩

/-- A line of a cell, or nothing behind its last one. -/
theorem getD_mem_or_eq_nil (ls : List (List Char)) (i : Nat) :
    ls.getD i [] ∈ ls ∨ ls.getD i [] = [] := by
  rw [List.getD_eq_getElem?_getD]
  cases hl : ls[i]? with
  | none => exact .inr rfl
  | some l => exact .inl (List.mem_of_getElem? hl)

section

variable [Screen]

/-- The cells of a row fit their columns. -/
def Fits (ws : List Nat) (cells : List String) : Prop :=
  ∀ p ∈ ws.zip cells, ∀ l ∈ Text.lines p.2.toList, Screen.width l ≤ p.1

theorem rowLine_eq {ws : List Nat} {cells : List String} (hne : ws.zip cells ≠ []) (i : Nat) :
    rowLine ws (cells.map block) i =
      bordered '│' '┆' '│'
        ((ws.zip cells).map fun p => field p.1 ((Text.lines p.2.toList).getD i [])) := by
  rw [rowLine, List.zip_map_right, List.map_map]
  exact framed_eq '│' '┆' '│' (mt List.map_eq_nil_iff.1 hne)

theorem isBlockLine_rowLine {ws : List Nat} {cells : List String} (hne : ws.zip cells ≠ [])
    (hfits : Fits ws cells) (i : Nat) :
    IsBlockLine ws cells i (rowLine ws (cells.map block) i) := by
  refine ⟨_, ?_, rowLine_eq hne i⟩
  rw [List.forall₂_map_right_iff, List.forall₂_same]
  intro p hp
  apply isField_field
  obtain hmem | hnil := getD_mem_or_eq_nil (Text.lines p.2.toList) i
  · exact hfits p hp _ hmem
  · rw [hnil, Screen.width_nil]
    exact Nat.zero_le p.1

theorem isBlock_rowLines {ws : List Nat} {cells : List String} (hne : ws.zip cells ≠ [])
    (hfits : Fits ws cells) : IsBlock ws cells (rowLines ws (cells.map block)) where
  height := by
    rw [rowLines, List.length_map, List.length_range]
    exact isGreatest_height fun h => hne (by rw [h, List.zip_nil_right])
  lines i h := by
    simp only [rowLines, List.getElem_map, List.getElem_range]
    exact isBlockLine_rowLine hne hfits i

theorem newline_notMem_field {w : Nat} {line : List Char} (h : '\n' ∉ line) :
    '\n' ∉ field w line := by
  simp [field, h]

theorem newline_notMem_rowLine {ws : List Nat} {cells : List String} (hne : ws.zip cells ≠ [])
    (i : Nat) : '\n' ∉ rowLine ws (cells.map block) i := by
  rw [rowLine_eq hne]
  refine notMem_bordered (by decide) (by decide) (by decide) fun column hcolumn => ?_
  obtain ⟨p, -, rfl⟩ := List.mem_map.1 hcolumn
  apply newline_notMem_field
  obtain hmem | hnil := getD_mem_or_eq_nil (Text.lines p.2.toList) i
  · exact Text.newline_notMem_of_mem_lines hmem
  · rw [hnil]
    exact List.not_mem_nil

/-- No line of a block is a rule, whatever stands in its cells. -/
theorem dashed_notMem_of_isBlock {ws : List Nat} {cells : List String} {block : List (List Char)}
    (h : IsBlock ws cells block) : dashed ws ∉ block := by
  intro hmem
  obtain ⟨i, hi, hline⟩ := List.mem_iff_getElem.1 hmem
  obtain ⟨fields, -, hfields⟩ := h.lines i hi
  have hhead := congrArg List.head? (hline.symm.trans hfields)
  exact absurd hhead (by simp [dashed, border, bordered])

end

theorem bodyLines_eq [Screen] {ws : List Nat} (hws : ws ≠ []) (rows : List (List Block)) :
    bodyLines ws rows = [dashed ws].intercalate (rows.map (rowLines ws)) := by
  induction rows with
  | nil => rfl
  | cons row rows ih =>
    cases rows with
    | nil => simp [bodyLines]
    | cons next rows =>
      rw [bodyLines, ih, rule_eq '├' '╌' '┼' '┤' hws]
      · simp only [List.map_cons, List.intercalate_cons_cons]
        simp [dashed]
      · simp

/-! ## Whole tables -/

/-- Headings of one line each, and as many cells in each row. -/
structure Regular (g : Grid) : Prop where
  nonempty : g.header ≠ []
  heading : ∀ s ∈ g.header, '\n' ∉ s.toList
  row : ∀ row ∈ g.rows, row.length = g.header.length

theorem Regular.length_of_mem {g : Grid} (h : g.Regular) {row : List String} (hrow : row ∈ g.header :: g.rows) :
    row.length = g.header.length := by
  rcases List.mem_cons.1 hrow with rfl | hrow
  · rfl
  · exact h.row row hrow

section

variable [Screen]

/-- The widths of the columns. -/
def columnWidths (g : Grid) : List Nat :=
  widths ((g.header :: g.rows).map (·.map block))

theorem fits {g : Grid} {row : List String} (hrow : row ∈ g.header :: g.rows) :
    Fits g.columnWidths row := by
  intro p hp l hl
  obtain ⟨j, hj, rfl⟩ := List.mem_iff_getElem.1 hp
  rw [List.length_zip, lt_inf_iff] at hj
  rw [List.getElem_zip] at hl ⊢
  have hgreatest := (isGreatest_widths g.header g.rows j).2
    ⟨l, List.mem_flatMap.2 ⟨row, hrow, by simpa [hj.2] using hl⟩, rfl⟩
  rwa [← columnWidths, List.getD_eq_getElem?_getD, List.getElem?_eq_getElem hj.1] at hgreatest

namespace Regular

variable {g : Grid} (h : g.Regular)

include h

theorem length_columnWidths : g.columnWidths.length = g.header.length := by
  rw [columnWidths, widths, List.map_cons, List.map_cons, List.foldl_cons]
  refine length_foldl_widen (by simp [widen]) fun row hrow => ?_
  simp only [List.mem_map, exists_exists_and_eq_and] at hrow
  obtain ⟨r, hr, rfl⟩ := hrow
  simpa using h.row r hr

theorem columnWidths_ne_nil : g.columnWidths ≠ [] := by
  intro hnil
  have hlength := h.length_columnWidths
  rw [hnil] at hlength
  exact h.nonempty (List.eq_nil_of_length_eq_zero hlength.symm)

theorem zip_ne_nil {row : List String} (hrow : row ∈ g.header :: g.rows) :
    g.columnWidths.zip row ≠ [] := by
  have hne := List.length_pos_of_ne_nil h.columnWidths_ne_nil
  refine List.ne_nil_of_length_pos ?_
  rw [List.length_zip, h.length_of_mem hrow, ← h.length_columnWidths, Nat.min_self]
  exact hne

theorem isBlock {row : List String} (hrow : row ∈ g.header :: g.rows) :
    IsBlock g.columnWidths row (rowLines g.columnWidths (row.map block)) :=
  isBlock_rowLines (h.zip_ne_nil hrow) (fits hrow)

/-- The lines of a table, its blocks with a dashed rule between them. -/
theorem lines_eq : g.lines = border '┌' '─' '┬' '┐' g.columnWidths
    :: rowLines g.columnWidths (g.header.map block)
    ++ border '╞' '═' '╪' '╡' g.columnWidths
    :: [dashed g.columnWidths].intercalate
        (g.rows.map fun row => rowLines g.columnWidths (row.map block))
    ++ [border '└' '─' '┴' '┘' g.columnWidths] := by
  have hws := h.columnWidths_ne_nil
  have hwidths : widths (g.header.map block :: g.rows.map (·.map block)) = g.columnWidths := rfl
  simp only [lines, hwidths, rule_eq _ _ _ _ hws, bodyLines_eq hws, List.map_map]
  rfl

theorem newline_notMem {l : List Char} (hl : l ∈ g.lines) : '\n' ∉ l := by
  have hrow : ∀ row ∈ g.header :: g.rows, ∀ m ∈ rowLines g.columnWidths (row.map block),
      '\n' ∉ m := fun row hmem m hm => by
    obtain ⟨i, -, rfl⟩ := List.mem_map.1 hm
    exact newline_notMem_rowLine (h.zip_ne_nil hmem) i
  rw [h.lines_eq] at hl
  simp only [List.cons_append, List.append_assoc, List.mem_cons, List.mem_append,
    List.not_mem_nil, or_false] at hl
  rcases hl with rfl | hl | rfl | hl | rfl
  · exact newline_notMem_border (by decide) (by decide) (by decide) (by decide) _
  · exact hrow g.header List.mem_cons_self l hl
  · exact newline_notMem_border (by decide) (by decide) (by decide) (by decide) _
  · rcases Text.mem_intercalate hl with rfl | ⟨block, hblock, hl⟩
    · exact newline_notMem_border (by decide) (by decide) (by decide) (by decide) _
    · obtain ⟨row, hmem, rfl⟩ := List.mem_map.1 hblock
      exact hrow row (List.mem_cons_of_mem _ hmem) l hl
  · exact newline_notMem_border (by decide) (by decide) (by decide) (by decide) _

theorem lines_render : Text.lines g.render.toList = g.lines := by
  rw [render, String.toList_ofList]
  exact Text.lines_unlines (fun l hl => h.newline_notMem hl) (by simp [lines])

theorem exists_headings : ∃ headings, rowLines g.columnWidths (g.header.map block) = [headings] ∧
    IsBlock g.columnWidths g.header [headings] := by
  have hblock := h.isBlock (List.mem_cons_self (a := g.header) (l := g.rows))
  obtain ⟨s, hs, hlength⟩ := hblock.height.1
  rw [Text.lines_of_notMem (h.heading s hs)] at hlength
  obtain ⟨headings, heq⟩ := List.length_eq_one_iff.1 hlength.symm
  exact ⟨headings, heq, heq ▸ hblock⟩

theorem isTable : IsTable g.header g.rows g.render := by
  obtain ⟨headings, heq, hheadings⟩ := h.exists_headings
  have hblock : ∀ row ∈ g.rows,
      IsBlock g.columnWidths row (rowLines g.columnWidths (row.map block)) :=
    fun row hrow => h.isBlock (List.mem_cons_of_mem _ hrow)
  refine ⟨g.columnWidths, headings, g.rows.map fun row => rowLines g.columnWidths (row.map block),
    ?_, h.length_columnWidths, fun j hj => ?_, hheadings, ?_, fun hne => ?_⟩
  · rw [h.lines_render, h.lines_eq, heq]
    rfl
  · have hgreatest := isGreatest_widths g.header g.rows j
    rwa [← columnWidths, List.getD_eq_getElem?_getD, List.getElem?_eq_getElem hj] at hgreatest
  · rw [List.forall₂_map_right_iff, List.forall₂_same]
    exact hblock
  · refine List.splitOn_intercalate _ (fun block hmem => ?_) (mt List.map_eq_nil_iff.1 hne)
    obtain ⟨row, hrow, rfl⟩ := List.mem_map.1 hmem
    exact dashed_notMem_of_isBlock (hblock row hrow)

end Regular

end

end Grid

/-- Where output is shown on no terminal, a table is drawn by its texts alone. -/
theorem Table.render_eq [Screen] (h : Screen.terminal? = none) (t : Table) : t.render = t.grid.render := by
  rw [render, h]

/-! ## Pugs, players and votes -/

open PickupGame.Api PickupGame.Numeral

/-- What is shown of something that may be absent. -/
inductive Shown {α : Type} (shows : α → String → Prop) : Option α → String → Prop
  | present {a : α} {s : String} (h : shows a s) : Shown shows (some a) s
  | absent : Shown shows none "-"

inductive MapShown : Option String → Bool → String → Prop
  | free (map : String) : MapShown (some map) false map
  | forced (map : String) : MapShown (some map) true (map ++ " (forced)")
  | absent (forced : Bool) : MapShown none forced "-"

def IsDecimal (s : String) (n : Nat) : Prop :=
  IsNumeral s.toList n

inductive ServerShown (g : GameServer) : String → Prop
  | address {port : String} (h : IsDecimal port g.port.toNat) : ServerShown g (g.ip ++ ":" ++ port)

inductive PugShown (p : Pug) : List String → Prop
  | row {id map players size admin server : String} (hid : IsDecimal id p.id.toNat)
      (hmap : MapShown p.map p.mapForced map) (hplayers : IsDecimal players p.players.length)
      (hsize : IsDecimal size p.size.toNat)
      (hadmin : Shown (fun (steamId : UInt64) s => IsDecimal s steamId.toNat) p.admin admin)
      (hserver : Shown ServerShown p.server server) :
      PugShown p [id, p.namedState, map, players ++ "/" ++ size, admin, server]

inductive PlayerShown (p : Player) : List String → Prop
  | row {id : String} (hid : IsDecimal id p.id.toNat) : PlayerShown p [id, p.name]

inductive VoteShown (c : MapVoteCount) : List String → Prop
  | row {count : String} (hcount : IsDecimal count c.count.toNat) : VoteShown c [c.map, count]

theorem isDecimal_number (n : Nat) : IsDecimal (number n) n := by
  rw [IsDecimal, number, String.toList_ofList]
  exact isNumeral_digits n

theorem mapShown_mapCell (p : Pug) : MapShown p.map p.mapForced (mapCell p) := by
  rw [mapCell]
  cases p.map with
  | none => exact .absent p.mapForced
  | some map =>
    cases p.mapForced with
    | true => exact .forced map
    | false => exact .free map

theorem shown_adminCell (p : Pug) :
    Shown (fun (steamId : UInt64) s => IsDecimal s steamId.toNat) p.admin (adminCell p) := by
  rw [adminCell]
  cases p.admin with
  | none => exact .absent
  | some steamId => exact .present (isDecimal_number steamId.toNat)

theorem shown_serverCell (p : Pug) : Shown ServerShown p.server (serverCell p) := by
  rw [serverCell]
  cases p.server with
  | none => exact .absent
  | some g => exact .present (.address (isDecimal_number g.port.toNat))

theorem voteShown_voteRow (c : MapVoteCount) : VoteShown c ((voteRow c).map (·.text)) :=
  .row (isDecimal_number c.count.toNat)

section

variable [Screen]

theorem text_pugRow (p : Pug) : (pugRow p).map (·.text) =
    [number p.id.toNat, p.namedState, mapCell p, playersCell p, adminCell p, serverCell p] := by
  have hplayers : (if p.isFull then colored .red (playersCell p) else plain (playersCell p)).text =
      playersCell p := by
    split <;> rfl
  simp only [pugRow, List.map_cons, hplayers]
  rfl

theorem pugShown_pugRow (p : Pug) : PugShown p ((pugRow p).map (·.text)) := by
  rw [text_pugRow]
  exact .row (isDecimal_number _) (mapShown_mapCell p) (isDecimal_number _) (isDecimal_number _)
    (shown_adminCell p) (shown_serverCell p)

theorem playerShown_playerRow (q : Player) : PlayerShown q ((playerRow q).map (·.text)) :=
  .row (isDecimal_number q.id.toNat)

/-- A table with headings of one colour. -/
theorem grid_headed (color : Color) (header : List String) (rows : List (List Cell)) :
    (Table.mk (header.map (heading color)) rows).grid = ⟨header, rows.map (·.map (·.text))⟩ := by
  have htext : (header.map (heading color)).map (·.text) = header := by
    rw [List.map_map]
    exact List.map_id header
  rw [Table.grid, htext]

variable {α : Type} {header : List String} {row : α → List Cell}

theorem regular_headed {color : Color} (hne : header ≠ []) (hheading : ∀ s ∈ header, '\n' ∉ s.toList)
    (hrow : ∀ a, (row a).length = header.length) (entries : List α) :
    (Table.mk (header.map (heading color)) (entries.map row)).grid.Regular := by
  rw [grid_headed]
  exact ⟨hne, hheading, by simp [hrow]⟩

/-- The rows of the table are what its entries show, one by one. -/
theorem exists_rows (hscreen : Screen.terminal? = none) {Shows : α → List String → Prop}
    (hshows : ∀ a, Shows a ((row a).map (·.text))) {color : Color} {entries : List α}
    (h : (Table.mk (header.map (heading color)) (entries.map row)).grid.Regular) :
    ∃ rows, List.Forall₂ Shows entries rows ∧
      IsTable header rows (Table.mk (header.map (heading color)) (entries.map row)).render := by
  rw [Table.render_eq hscreen]
  rw [grid_headed] at h ⊢
  refine ⟨_, ?_, h.isTable⟩
  rw [List.map_map, List.forall₂_map_right_iff, List.forall₂_same]
  exact fun a _ => hshows a

theorem regular_pugTable (pugs : List Pug) : (pugTable pugs).grid.Regular := by
  apply regular_headed
  · decide
  · decide
  · exact fun _ => rfl

theorem regular_playerTable (players : List Player) : (playerTable players).grid.Regular := by
  apply regular_headed
  · decide
  · decide
  · exact fun _ => rfl

theorem regular_voteTable (counts : List MapVoteCount) : (voteTable counts).grid.Regular := by
  apply regular_headed
  · decide
  · decide
  · exact fun _ => rfl

/-- Where output is shown on no terminal, lists are tables with a row for each entry, in their order,
and no text in an entry changes where the others stand, whatever widths its characters have. -/
theorem lists_tabulated (hscreen : Screen.terminal? = none) (p : Pug) (pugs : List Pug) (q : Player)
    (players : List Player) (counts : List MapVoteCount) :
    (∃ rows, List.Forall₂ PugShown (p :: pugs) rows ∧
      IsTable ["ID", "State", "Map", "Players", "Admin", "Server"] rows (pugList (p :: pugs))) ∧
    (∃ rows, List.Forall₂ PlayerShown (q :: players) rows ∧
      IsTable ["Steam ID", "Name"] rows (playerList (q :: players))) ∧
    (∃ rows, List.Forall₂ VoteShown counts rows ∧
      IsTable ["Map", "Votes"] rows (mapVotes counts)) := by
  refine ⟨?_, ?_, ?_⟩
  · exact exists_rows hscreen pugShown_pugRow (regular_pugTable (p :: pugs))
  · exact exists_rows hscreen playerShown_playerRow (regular_playerTable (q :: players))
  · exact exists_rows hscreen voteShown_voteRow (regular_voteTable counts)

end

/-- A player and a map with names that have a line like those of a row. -/
theorem lists_tabulated_forged :
    letI := machine
    let q : Player := ⟨76561198000000001, "joe\n│ 1 ┆ 2", []⟩
    let counts : List MapVoteCount := [⟨"cp_well\n│ 1 ┆ 2", 3⟩, ⟨"koth", 12⟩]
    Screen.terminal? = none ∧
      (∃ rows, List.Forall₂ PlayerShown [q] rows ∧
        IsTable ["Steam ID", "Name"] rows (playerList [q])) ∧
      ∃ rows, List.Forall₂ VoteShown counts rows ∧
        IsTable ["Map", "Votes"] rows (mapVotes counts) := by
  let := machine
  intro q counts
  have hscreen : Screen.terminal? = none := rfl
  let p : Pug := ⟨7, 12, 0, "", none, false, none, [q], [], [], none, none, [], none, []⟩
  have htables := lists_tabulated hscreen p [] q [] counts
  exact ⟨hscreen, htables.2⟩

example :
    letI := machine
    (voteTable [⟨"cp_well\n│ 1 ┆ 2", 3⟩, ⟨"koth", 12⟩]).grid.lines.map String.ofList =
      ["┌─────────┬───────┐",
       "│ Map     ┆ Votes │",
       "╞═════════╪═══════╡",
       "│ cp_well ┆ 3     │",
       "│ │ 1 ┆ 2 ┆       │",
       "├╌╌╌╌╌╌╌╌╌┼╌╌╌╌╌╌╌┤",
       "│ koth    ┆ 12    │",
       "└─────────┴───────┘"] := by decide +kernel

end PickupGame.Display
