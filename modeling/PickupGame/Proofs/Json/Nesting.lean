import PickupGame.Json.Reader
import PickupGame.Proofs.Json.Decode
import PickupGame.Proofs.Json.Members

/-!
# What is read is well-formed

A value that was read opens no more arrays and objects in one another than the reader allows, and
the keys of its objects ascend.
-/

namespace PickupGame.Json

/-- A value with ascending keys in which at most `levels` arrays and objects stand in one another. -/
inductive Value.Nested : Nat → Value → Prop
  | null (levels : Nat) : Value.Nested levels .null
  | bool (levels : Nat) (b : Bool) : Value.Nested levels (.bool b)
  | number (levels : Nat) (n : Number) : Value.Nested levels (.number n)
  | string (levels : Nat) (s : String) : Value.Nested levels (.string s)
  | array {levels : Nat} {items : List Value} (h : ∀ v ∈ items, Value.Nested levels v) :
      Value.Nested (levels + 1) (.array items)
  | object {levels : Nat} {members : Members} (hkeys : members.Ascending)
      (h : ∀ m ∈ members, Value.Nested levels m.2) : Value.Nested (levels + 1) (.object members)

/-- Every value that a reader gives has the property. -/
def Reader.Gives {α : Type} (r : Reader α) (P : α → Prop) : Prop :=
  ∀ cs a rest, r cs = .ok (a, rest) → P a

/-! ## Numbers -/

/-- A reader of numbers gives numbers only. -/
def Reader.Numeric (r : Reader Value) : Prop :=
  r.Gives fun v => ∃ n, v = .number n

theorem numeric_fromParts (negative : Bool) (s : Nat) (e : Int) :
    Reader.Numeric (fromParts negative s e) := by
  intro cs v rest h
  unfold fromParts at h
  split at h <;> cases h
  exact ⟨_, rfl⟩

theorem numeric_exponentDigits (negative : Bool) (s : Nat) (start : Int) (down : Bool) (e : Nat) :
    Reader.Numeric (exponentDigits negative s start down e) := by
  intro cs
  induction cs generalizing e with
  | nil => exact numeric_fromParts _ _ _ _
  | cons c cs ih =>
    intro v rest h
    unfold exponentDigits at h
    split at h
    · split at h
      · exact ih _ _ _ h
      · split at h
        · cases h
        · cases h
          exact ⟨_, rfl⟩
    · exact numeric_fromParts _ _ _ _ _ _ h

theorem numeric_exponentBody (negative : Bool) (s : Nat) (start : Int) (down : Bool) :
    Reader.Numeric (exponentBody negative s start down) := by
  intro cs v rest h
  unfold exponentBody at h
  split at h
  · cases h
  · split at h
    · exact numeric_exponentDigits _ _ _ _ _ _ _ _ h
    · cases h

theorem numeric_exponent (negative : Bool) (s : Nat) (start : Int) :
    Reader.Numeric (exponent negative s start) := by
  intro cs v rest h
  unfold exponent at h
  split at h <;> exact numeric_exponentBody _ _ _ _ _ _ _ h

theorem numeric_finish (negative : Bool) (s : Nat) (start : Int) :
    Reader.Numeric (finish negative s start) := by
  intro cs v rest h
  unfold finish at h
  split at h
  · exact numeric_exponent _ _ _ _ _ _ h
  · exact numeric_exponent _ _ _ _ _ _ h
  · exact numeric_fromParts _ _ _ _ _ _ h

theorem numeric_fraction (negative empty : Bool) (s : Nat) (e : Int) :
    Reader.Numeric (fraction negative empty s e) := by
  intro cs
  induction cs generalizing empty s e with
  | nil =>
    intro v rest h
    unfold fraction at h
    split at h
    · cases h
    · exact numeric_finish _ _ _ _ _ _ h
  | cons c cs ih =>
    intro v rest h
    unfold fraction at h
    split at h
    · split at h
      · exact ih _ _ _ _ _ h
      · exact numeric_finish _ _ _ _ _ _ h
    · split at h
      · cases h
      · exact numeric_finish _ _ _ _ _ _ h

theorem numeric_longInteger (negative : Bool) (s : Nat) (e : Int) :
    Reader.Numeric (longInteger negative s e) := by
  intro cs
  induction cs generalizing e with
  | nil => exact numeric_finish _ _ _ _
  | cons c cs ih =>
    intro v rest h
    unfold longInteger at h
    split at h
    · exact ih _ _ _ h
    · split at h
      · exact numeric_fraction _ _ _ _ _ _ _ h
      · exact numeric_finish _ _ _ _ _ _ h

theorem exists_whole (negative : Bool) (s : Nat) : ∃ n, whole negative s = .number n := by
  unfold whole
  split <;> split <;> exact ⟨_, rfl⟩

theorem numeric_afterWhole (negative : Bool) (s : Nat) :
    Reader.Numeric (afterWhole negative s) := by
  intro cs v rest h
  unfold afterWhole at h
  split at h
  · exact numeric_fraction _ _ _ _ _ _ _ h
  · exact numeric_exponent _ _ _ _ _ _ h
  · exact numeric_exponent _ _ _ _ _ _ h
  · cases h
    exact exists_whole negative s

theorem numeric_wholeDigits (negative : Bool) (s : Nat) :
    Reader.Numeric (wholeDigits negative s) := by
  intro cs
  induction cs generalizing s with
  | nil => exact numeric_afterWhole _ _ _
  | cons c cs ih =>
    intro v rest h
    unfold wholeDigits at h
    split at h
    · split at h
      · exact ih _ _ _ h
      · exact numeric_longInteger _ _ _ _ _ _ h
    · exact numeric_afterWhole _ _ _ _ _ h

theorem numeric_number (negative : Bool) : Reader.Numeric (number negative) := by
  intro cs v rest h
  unfold number at h
  split at h
  · cases h
  · split at h
    · split at h
      · split at h
        · cases h
        · exact numeric_afterWhole _ _ _ _ _ h
      · exact numeric_afterWhole _ _ _ _ _ h
    · exact numeric_wholeDigits _ _ _ _ _ h
    · cases h

theorem gives_word (v : Value) (ws : List Char) : (word v ws).Gives (· = v) := by
  intro cs
  induction cs generalizing ws with
  | nil =>
    intro w rest h
    cases ws <;> cases h
    rfl
  | cons c cs ih =>
    intro w rest h
    cases ws with
    | nil => cases h; rfl
    | cons d ws =>
      unfold word at h
      split at h
      · exact ih _ _ _ h
      · cases h

/-! ## Arrays and objects -/

/-- The items of an array end, or one more is read in front of the others. -/
theorem items_cases {item : Reader Value} {fuel : Nat} {acc vs : List Value} {cs rest : List Char}
    (h : items item fuel acc cs = .ok (vs, rest)) :
    (vs = acc.reverse ∧ skipSpace cs = ']' :: rest) ∨
      ∃ k v tail rest', fuel = k + 1 ∧ skipSpace cs = ',' :: tail ∧
        item (skipSpace tail) = .ok (v, rest') ∧
        items item k (v :: acc) rest' = .ok (vs, rest) := by
  unfold items at h
  split at h
  · cases h
  · rename_i hskip
    cases h
    exact .inl ⟨rfl, hskip⟩
  · rename_i hskip
    split at h
    · cases h
    · cases h
    · split at h
      · cases h
      · split at h
        · rename_i hv
          exact .inr ⟨_, _, _, _, rfl, hskip, hv, h⟩
        · cases h
  · cases h

theorem array_cases {item : Reader Value} {v : Value} {cs rest : List Char}
    (h : array item cs = .ok (v, rest)) :
    (v = .array [] ∧ skipSpace cs = ']' :: rest) ∨
      ∃ w rest' vs, v = .array vs ∧ item (skipSpace cs) = .ok (w, rest') ∧
        items item rest'.length [w] rest' = .ok (vs, rest) := by
  unfold array at h
  split at h
  · cases h
  · rename_i hskip
    cases h
    exact .inl ⟨rfl, hskip⟩
  · obtain ⟨⟨w, rest'⟩, hw, h⟩ := Decode.bind_eq_ok.1 h
    obtain ⟨⟨vs, rest''⟩, hvs, h⟩ := Decode.bind_eq_ok.1 h
    cases h
    exact .inr ⟨w, rest', vs, rfl, hw, hvs⟩

/-- A member is a key, a colon and a value. -/
theorem member_eq_ok {item : Reader Value} {cs rest : List Char} {m : String × Value}
    (h : member item cs = .ok (m, rest)) :
    ∃ rest' tail, string cs = .ok (m.1, rest') ∧ skipSpace rest' = ':' :: tail ∧
      item tail = .ok (m.2, rest) := by
  unfold member at h
  obtain ⟨⟨key, rest'⟩, hkey, h⟩ := Decode.bind_eq_ok.1 h
  simp only at h
  split at h
  · cases h
  · rename_i hskip
    obtain ⟨⟨v, rest''⟩, hv, h⟩ := Decode.bind_eq_ok.1 h
    cases h
    exact ⟨_, _, hkey, hskip, hv⟩
  · cases h

/-- The members of an object end, or one more is read and put among the others. -/
theorem members_cases {item : Reader Value} {fuel : Nat} {acc ms : Members} {cs rest : List Char}
    (h : members item fuel acc cs = .ok (ms, rest)) :
    (ms = acc ∧ skipSpace cs = '}' :: rest) ∨
      ∃ n k v tail tail' rest', fuel = n + 1 ∧ skipSpace cs = ',' :: tail ∧
        skipSpace tail = '"' :: tail' ∧ member item tail' = .ok ((k, v), rest') ∧
        members item n (acc.insert k v) rest' = .ok (ms, rest) := by
  unfold members at h
  split at h
  · cases h
  · rename_i hskip
    cases h
    exact .inl ⟨rfl, hskip⟩
  · rename_i hskip
    split at h
    · cases h
    · cases h
    · rename_i hquote
      split at h
      · cases h
      · split at h
        · rename_i hv
          exact .inr ⟨_, _, _, _, _, _, rfl, hskip, hquote, hv, h⟩
        · cases h
    · cases h
  · cases h

theorem object_cases {item : Reader Value} {v : Value} {cs rest : List Char}
    (h : object item cs = .ok (v, rest)) :
    (v = .object [] ∧ skipSpace cs = '}' :: rest) ∨
      ∃ tail k w rest' ms, v = .object ms ∧ skipSpace cs = '"' :: tail ∧
        member item tail = .ok ((k, w), rest') ∧
        members item rest'.length [(k, w)] rest' = .ok (ms, rest) := by
  unfold object at h
  split at h
  · cases h
  · rename_i hskip
    cases h
    exact .inl ⟨rfl, hskip⟩
  · rename_i hskip
    obtain ⟨⟨⟨k, w⟩, rest'⟩, hw, h⟩ := Decode.bind_eq_ok.1 h
    obtain ⟨⟨ms, rest''⟩, hms, h⟩ := Decode.bind_eq_ok.1 h
    cases h
    exact .inr ⟨_, k, w, rest', ms, rfl, hskip, hw, hms⟩
  · cases h

section Parts

variable {item : Reader Value} {P : Value → Prop} (hitem : item.Gives P)
include hitem

theorem gives_items (fuel : Nat) {acc : List Value} (hacc : ∀ v ∈ acc, P v) :
    (items item fuel acc).Gives fun vs => ∀ v ∈ vs, P v := by
  induction fuel generalizing acc with
  | zero =>
    intro cs vs rest h
    rcases items_cases h with ⟨rfl, -⟩ | ⟨k, v, tail, rest', ⟨⟩, -⟩
    simpa using hacc
  | succ fuel ih =>
    intro cs vs rest h
    rcases items_cases h with ⟨rfl, -⟩ | ⟨k, v, tail, rest', ⟨⟩, -, hv, htail⟩
    · simpa using hacc
    · exact ih (List.forall_mem_cons.2 ⟨hitem _ _ _ hv, hacc⟩) _ _ _ htail

theorem gives_array : (array item).Gives fun v => ∃ vs, v = .array vs ∧ ∀ v ∈ vs, P v := by
  intro cs v rest h
  rcases array_cases h with ⟨rfl, -⟩ | ⟨w, rest', vs, rfl, hw, hvs⟩
  · exact ⟨[], rfl, nofun⟩
  · exact ⟨vs, rfl, gives_items hitem _ (List.forall_mem_singleton.2 (hitem _ _ _ hw)) _ _ _ hvs⟩

theorem gives_members (fuel : Nat) {acc : Members} (hkeys : acc.Ascending)
    (hacc : ∀ m ∈ acc, P m.2) :
    (members item fuel acc).Gives fun ms => ms.Ascending ∧ ∀ m ∈ ms, P m.2 := by
  induction fuel generalizing acc with
  | zero =>
    intro cs ms rest h
    rcases members_cases h with ⟨rfl, -⟩ | ⟨n, k, v, tail, tail', rest', ⟨⟩, -⟩
    exact ⟨hkeys, hacc⟩
  | succ fuel ih =>
    intro cs ms rest h
    rcases members_cases h with ⟨rfl, -⟩ | ⟨n, k, v, tail, tail', rest', ⟨⟩, -, -, hv, htail⟩
    · exact ⟨hkeys, hacc⟩
    · obtain ⟨_, _, -, -, hv⟩ := member_eq_ok hv
      refine ih (hkeys.insert k v) (fun m hm => ?_) _ _ _ htail
      rcases Members.mem_of_mem_insert hm with rfl | hm
      · exact hitem _ _ _ hv
      · exact hacc m hm

theorem gives_object : (object item).Gives fun v =>
    ∃ ms : Members, v = .object ms ∧ ms.Ascending ∧ ∀ m ∈ ms, P m.2 := by
  intro cs v rest h
  rcases object_cases h with ⟨rfl, -⟩ | ⟨tail, k, w, rest', ms, rfl, -, hw, hms⟩
  · exact ⟨[], rfl, Members.ascending_nil, nofun⟩
  · obtain ⟨_, _, -, -, hw⟩ := member_eq_ok hw
    have hfirst : ∀ m ∈ [(k, w)], P m.2 := List.forall_mem_singleton.2 (hitem _ _ _ hw)
    have hkeys : Members.Ascending [(k, w)] := List.pairwise_singleton _ k
    exact ⟨ms, rfl, gives_members hitem _ hkeys hfirst _ _ _ hms⟩

end Parts

theorem gives_value_of_lt {levels : Nat}
    (hitem : ∀ k, levels = k + 1 → Reader.Gives (value k) (Value.Nested k)) :
    Reader.Gives (value levels) (Value.Nested levels) := by
  intro cs v rest h
  unfold value at h
  split at h
  · cases h
  · cases gives_word _ _ _ _ _ h
    exact .null levels
  · cases gives_word _ _ _ _ _ h
    exact .bool levels true
  · cases gives_word _ _ _ _ _ h
    exact .bool levels false
  · obtain ⟨n, rfl⟩ := numeric_number _ _ _ _ h
    exact .number levels n
  · obtain ⟨⟨s, rest'⟩, -, h⟩ := Decode.bind_eq_ok.1 h
    cases h
    exact .string levels s
  · split at h
    · cases h
    · obtain ⟨vs, rfl, hvs⟩ := gives_array (hitem _ rfl) _ _ _ h
      exact .array hvs
  · split at h
    · cases h
    · obtain ⟨ms, rfl, hkeys, hms⟩ := gives_object (hitem _ rfl) _ _ _ h
      exact .object hkeys hms
  · split at h
    · obtain ⟨n, rfl⟩ := numeric_number _ _ _ _ h
      exact .number levels n
    · cases h

/-- What is read as a value stays within the levels. -/
theorem gives_value (levels : Nat) : Reader.Gives (value levels) (Value.Nested levels) := by
  induction levels with
  | zero => exact gives_value_of_lt nofun
  | succ levels ih =>
    refine gives_value_of_lt fun k hk => ?_
    cases hk
    exact ih

theorem nested_of_parse {s : String} {v : Value} (h : parse s = .ok v) : v.Nested maxLevels := by
  unfold parse at h
  split at h
  · rename_i hdocument
    cases h
    unfold document at hdocument
    obtain ⟨⟨w, rest⟩, hw, hdocument⟩ := Decode.bind_eq_ok.1 hdocument
    simp only at hdocument
    split at hdocument
    · cases hdocument
      exact gives_value maxLevels _ _ _ hw
    · cases hdocument
  · cases h

end PickupGame.Json
