import Mathlib.Data.List.Forall2
import PickupGame.Proofs.Json.Decode

/-!
# Shapes of values

What a value has to be for a type, whichever way it is decoded. A decoder accepts a shape if it
succeeds with the values of that shape and with no others.
-/

namespace PickupGame.Json

/-- What a value has to be. -/
abbrev Shape := Value → Prop

/-- A value of the shape is found under the name. -/
def Members.Requires (ms : Members) (name : String) (shape : Shape) : Prop :=
  ∃ v, ms.get? name = some v ∧ shape v

/-- Nothing but a value of the shape is found under the name. -/
def Members.Allows (ms : Members) (name : String) (shape : Shape) : Prop :=
  ∀ v, ms.get? name = some v → shape v

namespace Shape

/-- A whole number that is not negative and at most the limit. -/
def natural (limit : Nat) : Shape := fun v =>
  ∃ n : Nat, n ≤ limit ∧ ∃ low high, v = .number (.integer n low high)

/-- An integer of 64 bits with sign. -/
def int64 : Shape := fun v =>
  ∃ n : Int, n ≤ Numeral.maxI64 ∧ ∃ low high, v = .number (.integer n low high)

def string : Shape := fun v => ∃ s, v = .string s

def bool : Shape := fun v => ∃ b, v = .bool b

def nullable (item : Shape) : Shape := fun v => v = .null ∨ item v

def list (item : Shape) : Shape := fun v => ∃ items, v = .array items ∧ ∀ w ∈ items, item w

/-- An object with some members that it must have and some that it may have. -/
def record (required optional : List (String × Shape)) : Shape := fun v =>
  ∃ ms, v = .object ms ∧ (∀ f ∈ required, Members.Requires ms f.1 f.2) ∧
    ∀ f ∈ optional, Members.Allows ms f.1 f.2

/-- An array of as many values as there are shapes, each of its shape. -/
def tuple (shapes : List Shape) : Shape := fun v =>
  ∃ items, v = .array items ∧ List.Forall₂ (fun shape w => shape w) shapes items

theorem tuple_pair {s t : Shape} {v : Value} :
    tuple [s, t] v ↔ ∃ x y, v = .array [x, y] ∧ s x ∧ t y := by
  constructor
  · rintro ⟨_, rfl, _ | ⟨hx, _ | ⟨hy, _ | _⟩⟩⟩
    exact ⟨_, _, rfl, hx, hy⟩
  · rintro ⟨x, y, rfl, hx, hy⟩
    exact ⟨_, rfl, .cons hx (.cons hy .nil)⟩

theorem tuple_quadruple {s t u w : Shape} {v : Value} :
    tuple [s, t, u, w] v ↔ ∃ a b c d, v = .array [a, b, c, d] ∧ s a ∧ t b ∧ u c ∧ w d := by
  constructor
  · rintro ⟨_, rfl, _ | ⟨ha, _ | ⟨hb, _ | ⟨hc, _ | ⟨hd, _ | _⟩⟩⟩⟩⟩
    exact ⟨_, _, _, _, rfl, ha, hb, hc, hd⟩
  · rintro ⟨a, b, c, d, rfl, ha, hb, hc, hd⟩
    exact ⟨_, rfl, .cons ha (.cons hb (.cons hc (.cons hd .nil)))⟩

end Shape

namespace Decode

variable {α β : Type}

/-- The decoder succeeds with the values of the shape only. -/
def Accepts (item : Decoder α) (shape : Shape) : Prop :=
  ∀ v, (∃ a, item v = .ok a) ↔ shape v

variable {item : Decoder α} {shape : Shape}

theorem Accepts.map (h : Accepts item shape) (f : α → β) :
    Accepts (fun v => (item v).map f) shape := by
  intro v
  rw [← h v]
  constructor
  · rintro ⟨b, hb⟩
    obtain ⟨a, ha, -⟩ := map_eq_ok.1 hb
    exact ⟨a, ha⟩
  · rintro ⟨a, ha⟩
    exact ⟨f a, map_eq_ok.2 ⟨a, ha, rfl⟩⟩

/-! ## Single values -/

theorem natural_accepts (wanted : String) (limit : Nat) :
    Accepts (natural wanted limit) (.natural limit) := by
  intro v
  constructor
  · rintro ⟨a, h⟩
    unfold natural at h
    split at h
    · rename_i n low high
      split at h
      · rename_i hn
        obtain ⟨m, rfl⟩ := Int.eq_ofNat_of_zero_le hn.1
        exact ⟨m, hn.2, low, high, rfl⟩
      · cases h
    · cases h
  · rintro ⟨n, hn, low, high, rfl⟩
    exact ⟨n, natural_of_le hn⟩

theorem uint64_accepts : Accepts uint64 (.natural Numeral.maxU64) :=
  (natural_accepts _ _).map _

theorem uint32_accepts : Accepts uint32 (.natural Numeral.maxU32) :=
  (natural_accepts _ _).map _

theorem uint16_accepts : Accepts uint16 (.natural Numeral.maxU16) :=
  (natural_accepts _ _).map _

theorem uint8_accepts : Accepts uint8 (.natural 255) :=
  (natural_accepts _ _).map _

theorem int64_accepts : Accepts int64 .int64 := by
  intro v
  constructor
  · rintro ⟨a, h⟩
    unfold int64 at h
    split at h
    · rename_i n low high
      split at h
      · rename_i hn
        exact ⟨n, hn, low, high, rfl⟩
      · cases h
    · cases h
  · rintro ⟨n, hn, low, high, rfl⟩
    exact ⟨_, if_pos hn⟩

theorem string_accepts : Accepts string .string := by
  intro v
  cases v <;> simp [string, Shape.string]

theorem bool_accepts : Accepts bool .bool := by
  intro v
  cases v <;> simp [bool, Shape.bool]

/-! ## Options and lists -/

theorem Accepts.option (h : Accepts item shape) : Accepts (option item) (.nullable shape) := by
  intro v
  by_cases hv : v = .null
  · subst hv
    exact iff_of_true ⟨none, rfl⟩ (.inl rfl)
  · have hread : (∃ a, Decode.option item v = .ok a) ↔ shape v := by
      rw [option_of_ne_null hv]
      exact h.map some v
    rw [hread, Shape.nullable, or_iff_right hv]

theorem exists_mapM_iff {vs : List Value} :
    (∃ as, vs.mapM item = .ok as) ↔ ∀ v ∈ vs, ∃ a, item v = .ok a := by
  induction vs with
  | nil => simp [pure, Except.pure]
  | cons v vs ih =>
    rw [List.forall_mem_cons, ← ih]
    constructor
    · rintro ⟨as, h⟩
      obtain ⟨a, rest, ha, hrest, -⟩ := mapM_cons_eq_ok.1 h
      exact ⟨⟨a, ha⟩, rest, hrest⟩
    · rintro ⟨⟨a, ha⟩, rest, hrest⟩
      exact ⟨a :: rest, mapM_cons_eq_ok.2 ⟨a, rest, ha, hrest, rfl⟩⟩

theorem Accepts.list (h : Accepts item shape) : Accepts (list item) (.list shape) := by
  intro v
  cases v with
  | array items =>
    rw [Decode.list, exists_mapM_iff]
    simp only [h _, Shape.list, Value.array.injEq, exists_eq_left']
  | _ => simp [Decode.list, Shape.list]

/-! ## Fields -/

variable {ms : Members} {name : String}

/-- A value that decodes to this is found under the name. -/
def Holds (ms : Members) (name : String) (item : Decoder α) (a : α) : Prop :=
  ∃ v, ms.get? name = some v ∧ item v = .ok a

theorem exists_holds_iff (h : Accepts item shape) :
    (∃ a, Holds ms name item a) ↔ ms.Requires name shape := by
  constructor
  · rintro ⟨a, v, hv, ha⟩
    exact ⟨v, hv, (h v).1 ⟨a, ha⟩⟩
  · rintro ⟨v, hv, hshape⟩
    obtain ⟨a, ha⟩ := (h v).2 hshape
    exact ⟨a, v, hv, ha⟩

theorem fieldD_eq_ok {default a : α} :
    fieldD ms name item default = .ok a ↔
      Holds ms name item a ∨ ms.get? name = none ∧ a = default := by
  unfold fieldD field? Holds
  cases ms.get? name with
  | none => simp [Except.map, eq_comm]
  | some v => simp [map_eq_ok]

theorem exists_fieldD_iff (h : Accepts item shape) {default : α} :
    (∃ a, fieldD ms name item default = .ok a) ↔ ms.Allows name shape := by
  constructor
  · rintro ⟨a, ha⟩ v hv
    rcases fieldD_eq_ok.1 ha with ⟨w, hw, hread⟩ | ⟨hnone, -⟩
    · rw [hv] at hw
      cases hw
      exact (h v).1 ⟨a, hread⟩
    · rw [hv] at hnone
      cases hnone
  · intro hallows
    cases hget : ms.get? name with
    | none => exact ⟨default, fieldD_eq_ok.2 (.inr ⟨hget, rfl⟩)⟩
    | some v =>
      obtain ⟨a, ha⟩ := (h v).2 (hallows v hget)
      exact ⟨a, fieldD_eq_ok.2 (.inl ⟨v, hget, ha⟩)⟩

/-- A field is required if its absence is reported in the end. -/
theorem holds_iff {a : α} :
    Holds ms name item a ↔ ∃ o, field? ms name item = .ok o ∧ required name o = .ok a := by
  unfold Holds field?
  cases ms.get? name with
  | none => simp [required]
  | some v => simp [map_eq_ok, required]

/-! ## Arrays of fields -/

theorem exists_eq_cons {vs : List Value} {v : Value} (h : vs[0]? = some v) :
    ∃ ws, vs = v :: ws := by
  cases vs with
  | nil => cases h
  | cons w ws =>
    cases h
    exact ⟨ws, rfl⟩

theorem eq_pair {vs : List Value} {v w : Value} (hlength : vs.length ≤ 2) (hv : vs[0]? = some v)
    (hw : vs[1]? = some w) : vs = [v, w] := by
  obtain ⟨vs, rfl⟩ := exists_eq_cons hv
  rw [List.getElem?_cons_succ] at hw
  obtain ⟨vs, rfl⟩ := exists_eq_cons hw
  have hnil : vs.length = 0 := by
    simp only [List.length_cons] at hlength
    omega
  rw [List.length_eq_zero_iff.1 hnil]

theorem eq_quadruple {vs : List Value} {v w x y : Value} (hlength : vs.length ≤ 4)
    (hv : vs[0]? = some v) (hw : vs[1]? = some w) (hx : vs[2]? = some x) (hy : vs[3]? = some y) :
    vs = [v, w, x, y] := by
  obtain ⟨vs, rfl⟩ := exists_eq_cons hv
  rw [List.getElem?_cons_succ] at hw hx hy
  obtain ⟨vs, rfl⟩ := exists_eq_cons hw
  rw [List.getElem?_cons_succ] at hx hy
  rw [eq_pair (v := x) (w := y) _ hx hy]
  simp only [List.length_cons] at hlength
  omega

theorem element_eq_ok {items : List Value} {index : Nat} {wanted : String} {a : α} :
    element items index wanted item = .ok a ↔ ∃ v, items[index]? = some v ∧ item v = .ok a := by
  unfold element
  cases items[index]? <;> simp

theorem noMore_eq_ok {items : List Value} {count : Nat} {u : Unit} :
    noMore items count = .ok u ↔ items.length ≤ count := by
  unfold noMore
  split <;> simp_all

/-! ## Records of two fields -/

section Pairs

variable {ρ : Type} {record : Decoder ρ} {first second : String} {item' : Decoder β} {shape' : Shape}
  {f : ρ → α} {g : ρ → β}

/-- The record is decoded from the object that holds its two fields, or from the array of them. -/
def DecodesPair (record : Decoder ρ) (first : String) (item : Decoder α) (f : ρ → α)
    (second : String) (item' : Decoder β) (g : ρ → β) : Prop :=
  ∀ v r, record v = .ok r ↔
    (∃ ms, v = .object ms ∧ Holds ms first item (f r) ∧ Holds ms second item' (g r)) ∨
      ∃ x y, v = .array [x, y] ∧ item x = .ok (f r) ∧ item' y = .ok (g r)

theorem DecodesPair.accepts (h : DecodesPair record first item f second item' g)
    (hmake : ∀ a b, ∃ r, f r = a ∧ g r = b) (hitem : Accepts item shape)
    (hitem' : Accepts item' shape') :
    Accepts record fun v =>
      Shape.record [(first, shape), (second, shape')] [] v ∨ Shape.tuple [shape, shape'] v := by
  intro v
  constructor
  · rintro ⟨r, hr⟩
    rcases (h v r).1 hr with ⟨ms, rfl, ha, hb⟩ | ⟨x, y, rfl, ha, hb⟩
    · have hrequires := (exists_holds_iff hitem).1 ⟨_, ha⟩
      have hrequires' := (exists_holds_iff hitem').1 ⟨_, hb⟩
      exact .inl ⟨ms, rfl, List.forall_iff_forall_mem.1 ⟨hrequires, hrequires'⟩, nofun⟩
    · have hx := (hitem x).1 ⟨_, ha⟩
      have hy := (hitem' y).1 ⟨_, hb⟩
      exact .inr (Shape.tuple_pair.2 ⟨x, y, rfl, hx, hy⟩)
  · rintro (⟨ms, rfl, hrequired, -⟩ | htuple)
    · obtain ⟨hrequires, hrequires'⟩ := List.forall_iff_forall_mem.2 hrequired
      obtain ⟨a, ha⟩ := (exists_holds_iff hitem).2 hrequires
      obtain ⟨b, hb⟩ := (exists_holds_iff hitem').2 hrequires'
      obtain ⟨r, rfl, rfl⟩ := hmake a b
      exact ⟨r, (h _ r).2 (.inl ⟨ms, rfl, ha, hb⟩)⟩
    · obtain ⟨x, y, rfl, hx, hy⟩ := Shape.tuple_pair.1 htuple
      obtain ⟨a, ha⟩ := (hitem x).2 hx
      obtain ⟨b, hb⟩ := (hitem' y).2 hy
      obtain ⟨r, rfl, rfl⟩ := hmake a b
      exact ⟨r, (h _ r).2 (.inr ⟨x, y, rfl, ha, hb⟩)⟩

end Pairs

end Decode

end PickupGame.Json
