import PickupGame.Toml.Reader

/-!
# Integers of a document

An integer is only read if it fits 64 bits with a sign. So do then all the integers of a document,
however they are nested in its arrays and tables.
-/

namespace PickupGame.Toml

/-- Every integer in the value fits 64 bits with a sign. -/
inductive Value.Bounded : Value → Prop
  | string (s : String) : Value.Bounded (.string s)
  | integer {n : Int} (low : -(Numeral.sizeMinI64 : Int) ≤ n) (high : n ≤ Numeral.maxI64) :
    Value.Bounded (.integer n)
  | float (text : String) : Value.Bounded (.float text)
  | boolean (b : Bool) : Value.Bounded (.boolean b)
  | time (text : String) : Value.Bounded (.time text)
  | array {items : List Value} : (∀ v ∈ items, Value.Bounded v) → Value.Bounded (.array items)
  | table {form : Form} {es : Entries} : (∀ e ∈ es, Value.Bounded e.2) → Value.Bounded (.table form es)
  | tables {rows : List Entries} :
    (∀ es ∈ rows, ∀ e ∈ es, Value.Bounded e.2) → Value.Bounded (.tables rows)

/-! ## Tables -/

namespace Entries

def Bounded (es : Entries) : Prop :=
  ∀ e ∈ es, e.2.Bounded

theorem bounded_nil : Bounded [] := by
  intro e he
  cases he

theorem Bounded.concat {es : Entries} (h : es.Bounded) {v : Value} (hv : v.Bounded) (k : String) :
    Bounded (es ++ [(k, v)]) := by
  intro e he
  rcases List.mem_append.1 he with he | he
  · exact h e he
  · obtain rfl := List.mem_singleton.1 he
    exact hv

theorem Bounded.get? {es : Entries} (h : es.Bounded) {k : String} {v : Value}
    (hv : es.get? k = some v) : v.Bounded := by
  obtain ⟨_, _, rfl, -⟩ := List.lookup_eq_some_iff.1 hv
  exact h (k, v) (by simp)

/-- What a step makes of bounded entries is bounded again. -/
def Keeps (f : Entries → Option Entries) : Prop :=
  ∀ es es', es.Bounded → f es = some es' → es'.Bounded

theorem keeps_add? {v : Value} (hv : v.Bounded) (k : String) : Keeps (add? · k v) := by
  intro es es' hes h
  dsimp only [add?] at h
  split at h
  · cases h
  · cases h
    exact hes.concat hv k

theorem keeps_alter? {v : Value} (hv : v.Bounded) (k : String) :
    Keeps (alter? (fun _ => some v) k) := by
  intro es
  induction es with
  | nil =>
    intro es' _ h
    cases h
  | cons e es ih =>
    intro es' hes h
    obtain ⟨l, w⟩ := e
    obtain ⟨hw, hes⟩ := List.forall_mem_cons.1 hes
    unfold alter? at h
    split at h
    · cases h
      exact List.forall_mem_cons.2 ⟨hv, hes⟩
    · obtain ⟨rest, hrest, rfl⟩ := Option.map_eq_some_iff.1 h
      exact List.forall_mem_cons.2 ⟨hw, ih rest hes hrest⟩

theorem keeps_put? {v : Value} (hv : v.Bounded) (k : String) (path : List String) (form : Form) :
    Keeps (put? k v path form) := by
  induction path generalizing form with
  | nil =>
    intro es es' hes h
    unfold put? at h
    split at h
    · cases h
    · exact keeps_add? hv k es es' hes h
  | cons l path ih =>
    intro es es' hes h
    unfold put? at h
    -- The table on the way is new, or it is bounded as one of the values there.
    split at h
    · obtain ⟨sub, hsub, rfl⟩ := Option.map_eq_some_iff.1 h
      exact hes.concat (.table (ih .dotted [] sub bounded_nil hsub)) l
    · rename_i sub hget
      cases hes.get? hget with
      | table hsub =>
        split at h
        · rename_i sub' hput
          exact keeps_alter? (.table (ih .dotted sub sub' hsub hput)) l es es' hes h
        · cases h
    · rename_i sub hget
      cases hes.get? hget with
      | table hsub =>
        split at h
        · rename_i sub' hput
          exact keeps_alter? (.table (ih .implied sub sub' hsub hput)) l es es' hes h
        · cases h
    · cases h

theorem bounded_lastRow? {f : Entries → Option Entries} (hf : Keeps f) {rows rows' : List Entries}
    (hrows : ∀ es ∈ rows, es.Bounded) (h : lastRow? f rows = some rows') :
    ∀ es ∈ rows', es.Bounded := by
  induction rows generalizing rows' with
  | nil => cases h
  | cons row rows ih =>
    obtain ⟨hrow, hrows⟩ := List.forall_mem_cons.1 hrows
    cases rows with
    | nil =>
      obtain ⟨row', hrow', rfl⟩ := Option.map_eq_some_iff.1 h
      exact List.forall_mem_singleton.2 (hf row row' hrow hrow')
    | cons next rows =>
      obtain ⟨rest, hrest, rfl⟩ := Option.map_eq_some_iff.1 h
      exact List.forall_mem_cons.2 ⟨hrow, ih hrows hrest⟩

theorem keeps_at? {f : Entries → Option Entries} (hf : Keeps f) (path : List String) :
    Keeps (at? f path) := by
  induction path with
  | nil => exact hf
  | cons k path ih =>
    intro es es' hes h
    unfold at? at h
    split at h
    · obtain ⟨sub, hsub, rfl⟩ := Option.map_eq_some_iff.1 h
      exact hes.concat (.table (ih [] sub bounded_nil hsub)) k
    · cases h
    · rename_i form sub _ hget
      cases hes.get? hget with
      | table hsub =>
        split at h
        · rename_i sub' hat
          exact keeps_alter? (.table (ih sub sub' hsub hat)) k es es' hes h
        · cases h
    · rename_i rows hget
      cases hes.get? hget with
      | tables hrows =>
        split at h
        · rename_i rows' hlast
          exact keeps_alter? (.tables (bounded_lastRow? ih hrows hlast)) k es es' hes h
        · cases h
    · cases h

theorem keeps_openTable? (k : String) : Keeps (openTable? k) := by
  intro es es' hes h
  unfold openTable? at h
  split at h
  · exact keeps_add? (.table bounded_nil) k es es' hes h
  · rename_i sub hget
    cases hes.get? hget with
    | table hsub => exact keeps_alter? (.table hsub) k es es' hes h
  · cases h

theorem keeps_openRow? (k : String) : Keeps (openRow? k) := by
  intro es es' hes h
  unfold openRow? at h
  split at h
  · exact keeps_add? (.tables (List.forall_mem_singleton.2 bounded_nil)) k es es' hes h
  · rename_i rows hget
    cases hes.get? hget with
    | tables hrows =>
      have hmore : ∀ es ∈ rows ++ [[]], Bounded es :=
        List.forall_mem_append.2 ⟨hrows, List.forall_mem_singleton.2 bounded_nil⟩
      exact keeps_alter? (.tables hmore) k es es' hes h
  · cases h

end Entries

/-! ## Values -/

theorem bounded_inRange {n : Int} {v : Value} (h : inRange n = some v) : v.Bounded := by
  unfold inRange at h
  split at h
  · rename_i hn
    cases h
    exact .integer hn.1 hn.2
  · cases h

theorem bounded_integer? {cs : List Char} {v : Value} (h : integer? cs = some v) : v.Bounded := by
  unfold integer? at h
  split at h <;>
  · obtain ⟨ds, -, hds⟩ := Option.bind_eq_some_iff.1 h
    exact bounded_inRange hds

/-- Whichever of two ways was taken, one has led to a result. -/
theorem exists_of_ite_bind {α β : Type} {p : Prop} [Decidable p] {x y : Option α} {f : α → Option β}
    {b : β} (h : (if p then x >>= f else y >>= f) = some b) : ∃ a, f a = some b := by
  split at h
  · obtain ⟨a, -, ha⟩ := Option.bind_eq_some_iff.1 h
    exact ⟨a, ha⟩
  · obtain ⟨a, -, ha⟩ := Option.bind_eq_some_iff.1 h
    exact ⟨a, ha⟩

theorem exists_float_of_decimalFloat? {negative : Bool} {cs : List Char} {v : Value}
    (h : decimalFloat? negative cs = some v) : ∃ text, v = .float text := by
  unfold decimalFloat? at h
  dsimp only at h
  split at h
  · cases h
  · obtain ⟨whole, -, h⟩ := Option.bind_eq_some_iff.1 h
    obtain ⟨fraction, h⟩ := exists_of_ite_bind h
    obtain ⟨e, h⟩ := exists_of_ite_bind h
    split at h
    · cases h
      exact ⟨_, rfl⟩
    · cases h

theorem bounded_float? {cs : List Char} {v : Value} (h : float? cs = some v) : v.Bounded := by
  have hunsigned {negative : Bool} {cs : List Char}
      (h : float?.unsignedFloat? negative cs = some v) : v.Bounded := by
    unfold float?.unsignedFloat? at h
    split at h
    · cases h
      exact .float _
    · obtain ⟨text, rfl⟩ := exists_float_of_decimalFloat? h
      exact .float text
  unfold float? at h
  split at h <;> exact hunsigned h

theorem bounded_scalar? {cs : List Char} {v : Value} (h : scalar? cs = some v) : v.Bounded := by
  unfold scalar? at h
  split at h
  · cases h
    exact .boolean true
  · split at h
    · cases h
      exact .boolean false
    · split at h
      · cases h
        exact .time _
      · rcases Option.or_eq_some_iff.1 h with h | ⟨-, h⟩
        · exact bounded_integer? h
        · exact bounded_float? h

/-- Every value that is read is bounded. -/
def ReadsBounded (item : Reader Value) : Prop :=
  ∀ cs v rest, item cs = some (v, rest) → v.Bounded

theorem readsBounded_readScalar : ReadsBounded readScalar := by
  intro cs v rest h
  unfold readScalar at h
  have hscalar {token left : List Char} (h : (scalar? token).map (·, left) = some (v, rest)) :
      v.Bounded := by
    obtain ⟨w, hw, hpair⟩ := Option.map_eq_some_iff.1 h
    cases hpair
    exact bounded_scalar? hw
  dsimp only at h
  split at h
  · split at h
    · split at h
      · cases h
        exact .time _
      · cases h
    · exact hscalar h
  · exact hscalar h

section Nested

variable {item : Reader Value} (hitem : ReadsBounded item)
include hitem

theorem bounded_pair {cs rest : List Char} {k : List String × String} {v : Value}
    (h : pair item cs = some ((k, v), rest)) : v.Bounded := by
  unfold pair at h
  split at h
  · split at h
    · rename_i hread
      cases h
      exact hitem _ _ _ hread
    · cases h
  · cases h

theorem bounded_items {fuel : Nat} {acc vs : List Value} {cs rest : List Char}
    (hacc : ∀ v ∈ acc, v.Bounded) (h : items item fuel acc cs = some (vs, rest)) :
    ∀ v ∈ vs, v.Bounded := by
  induction fuel generalizing acc cs with
  | zero => cases h
  | succ fuel ih =>
    have hreverse {acc : List Value} (hacc : ∀ v ∈ acc, v.Bounded) : ∀ v ∈ acc.reverse, v.Bounded :=
      fun v hv => hacc v (List.mem_reverse.1 hv)
    unfold items at h
    split at h
    · cases h
    · cases h
      exact hreverse hacc
    · split at h
      · cases h
      · rename_i hread
        have hmore := List.forall_mem_cons.2 ⟨hitem _ _ _ hread, hacc⟩
        split at h
        · exact ih hmore h
        · cases h
          exact hreverse hmore
        · cases h

theorem bounded_inlineEntries {fuel : Nat} {acc es : Entries} {cs rest : List Char}
    (hacc : acc.Bounded) (h : inlineEntries item fuel acc cs = some (es, rest)) : es.Bounded := by
  induction fuel generalizing acc cs with
  | zero => cases h
  | succ fuel ih =>
    unfold inlineEntries at h
    split at h
    · cases h
    · rename_i hpair
      split at h
      · cases h
      · rename_i hput
        have hmore := Entries.keeps_put? (bounded_pair hitem hpair) _ _ _ _ _ hacc hput
        split at h
        · exact ih hmore h
        · cases h
          exact hmore
        · cases h

end Nested

theorem readsBounded_value (levels : Nat) : ReadsBounded (value levels) := by
  have hstring {cs rest : List Char} {v : Value}
      (h : (string cs).map (fun p => (Value.string (String.ofList p.1), p.2)) = some (v, rest)) :
      v.Bounded := by
    obtain ⟨p, -, hp⟩ := Option.map_eq_some_iff.1 h
    cases hp
    exact .string _
  induction levels with
  | zero =>
    intro cs v rest h
    unfold value at h
    split at h
    · exact hstring h
    · exact hstring h
    · cases h
    · cases h
    · exact readsBounded_readScalar _ _ _ h
  | succ levels ih =>
    intro cs v rest h
    unfold value at h
    split at h
    · exact hstring h
    · exact hstring h
    · obtain ⟨p, hp, heq⟩ := Option.map_eq_some_iff.1 h
      cases heq
      exact .array (bounded_items ih (List.forall_mem_nil _) hp)
    · dsimp only at h
      split at h
      · cases h
        exact .table Entries.bounded_nil
      · obtain ⟨p, hp, heq⟩ := Option.map_eq_some_iff.1 h
        cases heq
        exact .table (bounded_inlineEntries ih Entries.bounded_nil hp)
    · exact readsBounded_readScalar _ _ _ h

/-! ## Documents -/

theorem bounded_header {s s' : State} {cs rest : List Char} (hs : s.root.Bounded)
    (h : header s cs = some (s', rest)) : s'.root.Bounded := by
  unfold header at h
  split at h
  · split at h
    · rename_i hat _
      cases h
      exact Entries.keeps_at? (Entries.keeps_openTable? _) _ _ _ hs hat
    · cases h
  · cases h

theorem bounded_rowHeader {s s' : State} {cs rest : List Char} (hs : s.root.Bounded)
    (h : rowHeader s cs = some (s', rest)) : s'.root.Bounded := by
  unfold rowHeader at h
  split at h
  · split at h
    · rename_i hat _
      cases h
      exact Entries.keeps_at? (Entries.keeps_openRow? _) _ _ _ hs hat
    · cases h
  · cases h

theorem bounded_entry {s s' : State} {cs rest : List Char} (hs : s.root.Bounded)
    (h : entry s cs = some (s', rest)) : s'.root.Bounded := by
  unfold entry at h
  split at h
  · rename_i hpair
    split at h
    · rename_i hat _
      cases h
      have hv := bounded_pair (readsBounded_value maxLevels) hpair
      exact Entries.keeps_at? (Entries.keeps_put? hv _ _ _) _ _ _ hs hat
    · cases h
  · cases h

theorem bounded_line {s s' : State} {cs rest : List Char} (hs : s.root.Bounded)
    (h : line s cs = some (s', rest)) : s'.root.Bounded := by
  have hblank {cs : List Char} (h : (lineEnd cs).map (s, ·) = some (s', rest)) : s'.root.Bounded := by
    obtain ⟨left, -, hpair⟩ := Option.map_eq_some_iff.1 h
    cases hpair
    exact hs
  unfold line at h
  split at h
  · exact bounded_rowHeader hs h
  · exact bounded_header hs h
  · exact hblank h
  · exact hblank h
  · exact hblank h
  · exact bounded_entry hs h

theorem bounded_lines {fuel : Nat} {s : State} {cs : List Char} {es : Entries}
    (hs : s.root.Bounded) (h : lines fuel s cs = some es) : es.Bounded := by
  induction fuel generalizing s cs with
  | zero =>
    unfold lines at h
    split at h
    · cases h
      exact hs
    · cases h
  | succ fuel ih =>
    unfold lines at h
    split at h
    · cases h
      exact hs
    · dsimp only at h
      split at h
      · rename_i hline
        exact ih (bounded_line hs hline) h
      · cases h

theorem bounded_parse? {text : String} {es : Entries} (h : parse? text = some es) : es.Bounded :=
  bounded_lines Entries.bounded_nil h

end PickupGame.Toml
