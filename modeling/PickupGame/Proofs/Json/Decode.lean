import PickupGame.Json.Decode
import PickupGame.Proofs.Json.Members

/-!
# Decoders and what they read

Numbers, lists and fields are decoded as they were written. Of a decoder in several steps, each step
has succeeded when the whole has.
-/

namespace PickupGame.Json

namespace Decode

variable {ε α β : Type}

theorem bind_eq_ok {x : Except ε α} {f : α → Except ε β} {b : β} :
    x >>= f = .ok b ↔ ∃ a, x = .ok a ∧ f a = .ok b := by
  cases x with
  | error e => simp [bind, Except.bind]
  | ok a => simp [bind, Except.bind]

theorem map_eq_ok {f : α → β} {x : Except ε α} {b : β} :
    x.map f = .ok b ↔ ∃ a, x = .ok a ∧ f a = b := by
  cases x with
  | error e => simp [Except.map]
  | ok a => simp [Except.map]

theorem mapM_cons_eq_ok {f : α → Except ε β} {a : α} {as : List α} {bs : List β} :
    (a :: as).mapM f = .ok bs ↔ ∃ b rest, f a = .ok b ∧ as.mapM f = .ok rest ∧ bs = b :: rest := by
  simp only [List.mapM_cons, bind_eq_ok, pure, Except.pure, Except.ok.injEq]
  constructor
  · rintro ⟨b, hb, rest, hrest, rfl⟩
    exact ⟨b, rest, hb, hrest, rfl⟩
  · rintro ⟨b, rest, hb, hrest, rfl⟩
    exact ⟨b, hb, rest, hrest, rfl⟩

/-! ## Numbers -/

theorem natural_of_le {wanted : String} {limit n : Nat} (h : n ≤ limit) {low : _} {high : _} :
    natural wanted limit (.number (.integer n low high)) = .ok n := by
  rw [natural, if_pos ⟨Int.natCast_nonneg n, h⟩]
  rfl

@[simp] theorem uint64_ofUInt64 (n : UInt64) : uint64 (.ofUInt64 n) = .ok n := by
  have hle : n.toNat ≤ Numeral.maxU64 := Nat.le_of_lt_succ n.toNat_lt
  rw [uint64, Value.ofUInt64, natural_of_le hle, Except.map, UInt64.ofNat_toNat]

@[simp] theorem uint32_ofUInt32 (n : UInt32) : uint32 (.ofUInt32 n) = .ok n := by
  have hle : n.toNat ≤ Numeral.maxU32 := Nat.le_of_lt_succ n.toNat_lt
  rw [uint32, Value.ofUInt32, natural_of_le hle, Except.map, UInt32.ofNat_toNat]

@[simp] theorem uint16_ofUInt16 (n : UInt16) : uint16 (.ofUInt16 n) = .ok n := by
  have hle : n.toNat ≤ Numeral.maxU16 := Nat.le_of_lt_succ n.toNat_lt
  rw [uint16, Value.ofUInt16, natural_of_le hle, Except.map, UInt16.ofNat_toNat]

@[simp] theorem uint8_ofUInt8 (n : UInt8) : uint8 (.ofUInt8 n) = .ok n := by
  have hle : n.toNat ≤ 255 := Nat.le_of_lt_succ n.toNat_lt
  rw [uint8, Value.ofUInt8, natural_of_le hle, Except.map, UInt8.ofNat_toNat]

@[simp] theorem int64_ofInt64 (n : Int64) : int64 (.ofInt64 n) = .ok n := by
  have hle : n.toInt ≤ Numeral.maxI64 := Int.le_of_lt_add_one n.toInt_lt
  unfold Value.ofInt64 int64
  simp only [hle, if_true, Int64.ofInt_toInt]

theorem int64_eq_ok {v : Value} {n : Int64} : int64 v = .ok n ↔
    ∃ i low high, v = .number (.integer i low high) ∧ i = n.toInt := by
  constructor
  · intro h
    unfold int64 at h
    split at h
    · rename_i i low high
      refine ⟨i, low, high, rfl, ?_⟩
      split at h
      · rename_i hle
        have hlt : i < 2 ^ 63 := Int.lt_of_le_of_lt hle (by decide)
        rw [← Except.ok.inj h, Int64.toInt_ofInt_of_le low hlt]
      · cases h
    · cases h
  · rintro ⟨i, low, high, rfl, rfl⟩
    exact int64_ofInt64 n

@[simp] theorem string_string (s : String) : string (.string s) = .ok s := rfl

@[simp] theorem bool_bool (b : Bool) : bool (.bool b) = .ok b := rfl

/-! ## Lists and options -/

variable {item : Decoder α}

theorem option_of_ne_null {v : Value} (h : v ≠ .null) : option item v = (item v).map some := by
  unfold option
  split
  · exact absurd rfl h
  · rfl

theorem list_map {write : α → Value} {as : List α} (h : ∀ a ∈ as, item (write a) = .ok a) :
    list item (.array (as.map write)) = .ok as := by
  rw [list]
  induction as with
  | nil => rfl
  | cons a as ih =>
    rw [List.map_cons, mapM_cons_eq_ok]
    exact ⟨a, as, h a List.mem_cons_self, ih fun b hb => h b (List.mem_cons_of_mem a hb), rfl⟩

theorem exists_of_mem_list {v : Value} {as : List α} (h : list item v = .ok as) {a : α} (ha : a ∈ as) :
    ∃ items, v = .array items ∧ ∃ w ∈ items, item w = .ok a := by
  cases v with
  | array items =>
    refine ⟨items, rfl, ?_⟩
    rw [list] at h
    induction items generalizing as with
    | nil =>
      cases h
      cases ha
    | cons w items ih =>
      obtain ⟨b, rest, hb, hrest, rfl⟩ := mapM_cons_eq_ok.1 h
      rcases List.mem_cons.1 ha with rfl | ha
      · exact ⟨w, List.mem_cons_self, hb⟩
      · obtain ⟨u, hu, hitem⟩ := ih ha hrest
        exact ⟨u, List.mem_cons_of_mem w hu, hitem⟩
  | _ => cases h

theorem object_eq_ok {wanted : String} {v : Value} {ms : Members} :
    object wanted v = .ok ms ↔ v = .object ms := by
  cases v <;> simp [object]

/-! ## Fields -/

variable {ms : Members} {name : String}

theorem field?_of_get? {v : Value} {a : α} (hv : ms.get? name = some v) (ha : item v = .ok a) :
    field? ms name item = .ok (some a) := by
  rw [field?, hv]
  simp [ha, Except.map]

theorem fieldD_of_get? {v : Value} {a : α} (hv : ms.get? name = some v) (ha : item v = .ok a)
    (default : α) : fieldD ms name item default = .ok a := by
  rw [fieldD, field?_of_get? hv ha]
  rfl

/-- What is decoded of a field is the default, or decoded of what is found under its name. -/
theorem fieldD_cases {default a : α} (h : fieldD ms name item default = .ok a) :
    a = default ∨ ∃ v, ms.get? name = some v ∧ item v = .ok a := by
  unfold fieldD field? at h
  cases hv : ms.get? name with
  | none =>
    rw [hv] at h
    cases h
    exact .inl rfl
  | some v =>
    right
    refine ⟨v, rfl, ?_⟩
    rw [hv] at h
    obtain ⟨o, ho, rfl⟩ := map_eq_ok.1 h
    obtain ⟨b, hb, rfl⟩ := map_eq_ok.1 ho
    exact hb

end Decode

end PickupGame.Json
