import PickupGame.Proofs.Json.Shape

/-!
# Normal forms

What is decoded of a value is written in one way only. That is the normal form of the value: the
value itself where nothing is lost, else what decoding makes the same as others.
-/

namespace PickupGame.Json

namespace Value

/-- Null stays what it is. -/
def nullable (normal : Value → Value) : Value → Value
  | .null => .null
  | v => normal v

@[simp] theorem nullable_id : nullable id = id := by
  funext v
  cases v <;> rfl

def listed (normal : Value → Value) : Value → Value
  | .array items => .array (items.map normal)
  | v => v

@[simp] theorem listed_id : listed id = id := by
  funext v
  cases v <;> simp [listed]

/-- A negative number stands for nothing. -/
def unsetNegative : Value → Value
  | .number (.integer n low high) => if n < 0 then .null else .number (.integer n low high)
  | v => v

/-- A record as the object of its fields and nothing else, whether it was an object or the array of
the fields. -/
def fieldsOnly (names : List String) : Value → Value
  | .object ms => .object (Members.ofList (names.map fun name => (name, (Members.get? ms name).getD .null)))
  | .array items => .object (Members.ofList (names.zip items))
  | v => v

theorem sorted_of_get? {ms : Members} (h : (Value.object ms).Sorted) {key : String} {v : Value}
    (hv : ms.get? key = some v) : v.Sorted :=
  Json.sorted_of_get? h.2 hv

end Value

namespace Members

/-- Fields written in front of what an object has besides them. -/
theorem get?_ofList_append_without {fields ms : Members} (hfields : fields.keys.Nodup)
    (hms : ms.Ascending) (key : String) :
    (ofList (fields ++ ms.without fields.keys)).get? key = (fields.get? key).or (ms.get? key) := by
  have hapart : ∀ name ∈ fields.keys, name ∉ (ms.without fields.keys).keys :=
    fun name hname hkey => mem_keys_without hkey hname
  rw [get?_ofList_fields_append hfields (hms.without _) hapart, get?_without]
  by_cases hkey : key ∈ fields.keys
  · obtain ⟨v, hv⟩ := Option.ne_none_iff_exists'.1 fun hnone => get?_eq_none.1 hnone hkey
    rw [hv, Option.some_or, Option.some_or]
  · rw [if_neg hkey]

end Members

namespace Decode

variable {α β : Type}

/-- What is decoded of a value is written as the normal form of the value. -/
def Normalizes (item : Decoder α) (write : α → Value) (normal : Value → Value) : Prop :=
  ∀ v a, v.Sorted → item v = .ok a → write a = normal v

variable {item : Decoder α} {write : α → Value} {normal : Value → Value}

/-! ## Single values -/

theorem natural_normalizes {wanted : String} {limit : Nat} {ofNat : Nat → α}
    (hwrite : ∀ n ≤ limit, ∀ low high, write (ofNat n) = .number (.integer n low high)) :
    Normalizes (fun v => (natural wanted limit v).map ofNat) write id := by
  rintro v a - h
  obtain ⟨n, hread, rfl⟩ := map_eq_ok.1 h
  obtain ⟨m, hm, low, high, rfl⟩ := (natural_accepts wanted limit v).1 ⟨n, hread⟩
  rw [natural_of_le hm] at hread
  cases hread
  exact hwrite _ hm low high

theorem uint64_normalizes : Normalizes uint64 .ofUInt64 id := by
  apply natural_normalizes
  intro n hn low high
  simp [Value.ofUInt64, UInt64.toNat_ofNat_of_lt' (Nat.lt_succ_of_le hn)]

theorem uint32_normalizes : Normalizes uint32 .ofUInt32 id := by
  apply natural_normalizes
  intro n hn low high
  simp [Value.ofUInt32, UInt32.toNat_ofNat_of_lt' (Nat.lt_succ_of_le hn)]

theorem uint16_normalizes : Normalizes uint16 .ofUInt16 id := by
  apply natural_normalizes
  intro n hn low high
  simp [Value.ofUInt16, UInt16.toNat_ofNat_of_lt' (Nat.lt_succ_of_le hn)]

theorem uint8_normalizes : Normalizes uint8 .ofUInt8 id := by
  apply natural_normalizes
  intro n hn low high
  simp [Value.ofUInt8, UInt8.toNat_ofNat_of_lt' (Nat.lt_succ_of_le hn)]

theorem int64_normalizes : Normalizes int64 .ofInt64 id := by
  rintro v a - h
  obtain ⟨n, hn, low, high, rfl⟩ := (int64_accepts v).1 ⟨a, h⟩
  rw [int64, if_pos hn] at h
  cases h
  have hvalue : (Int64.ofInt n).toInt = n := by
    apply Int64.toInt_ofInt_of_le
    · exact low
    · exact Int.lt_add_one_of_le hn
  simp [Value.ofInt64, hvalue]

theorem string_normalizes : Normalizes string .string id := by
  rintro v a - h
  cases v <;> cases h
  rfl

theorem bool_normalizes : Normalizes bool .bool id := by
  rintro v a - h
  cases v <;> cases h
  rfl

theorem Normalizes.list (h : Normalizes item write normal) :
    Normalizes (list item) (fun as => .array (as.map write)) (.listed normal) := by
  intro v as hv hread
  cases v with
  | array items =>
    rw [Value.listed, Value.array.injEq]
    rw [Decode.list] at hread
    induction items generalizing as with
    | nil =>
      cases hread
      rfl
    | cons w items ih =>
      obtain ⟨a, rest, ha, hrest, rfl⟩ := mapM_cons_eq_ok.1 hread
      rw [List.map_cons, List.map_cons, h w a hv.1 ha, ih rest hv.2 hrest]
  | _ => cases hread

/-! ## Fields -/

/-- A field is written as it was found, or as its default. -/
theorem Normalizes.fieldD (h : Normalizes item write normal) {ms : Members}
    (hms : (Value.object ms).Sorted) {name : String} {default a : α}
    (hread : Decode.fieldD ms name item default = .ok a) :
    some (write a) = ((ms.get? name).map normal).or (some (write default)) := by
  rcases fieldD_eq_ok.1 hread with ⟨v, hv, ha⟩ | ⟨hnone, rfl⟩
  · rw [hv, h v a (Value.sorted_of_get? hms hv) ha]
    rfl
  · rw [hnone]
    rfl

theorem Normalizes.holds (h : Normalizes item write id) {ms : Members}
    (hms : (Value.object ms).Sorted) {name : String} {a : α} (hread : Holds ms name item a) :
    ms.get? name = some (write a) := by
  obtain ⟨v, hv, ha⟩ := hread
  rw [hv, h v a (Value.sorted_of_get? hms hv) ha]
  rfl

/-! ## Records of two fields -/

theorem DecodesPair.normalizes {ρ : Type} {record : Decoder ρ} {first second : String}
    {item' : Decoder β} {f : ρ → α} {g : ρ → β} {write' : β → Value}
    (h : DecodesPair record first item f second item' g) (hitem : Normalizes item write id)
    (hitem' : Normalizes item' write' id) :
    Normalizes record
      (fun r => .object (Members.ofList [(first, write (f r)), (second, write' (g r))]))
      (.fieldsOnly [first, second]) := by
  intro v r hv hr
  rcases (h v r).1 hr with ⟨ms, rfl, ha, hb⟩ | ⟨x, y, rfl, ha, hb⟩
  · simp [Value.fieldsOnly, hitem.holds hv ha, hitem'.holds hv hb]
  · simp [Value.fieldsOnly, hitem x _ hv.1 ha, hitem' y _ hv.2.1 hb]

end Decode

end PickupGame.Json
