import Mathlib.Data.String.Basic
import PickupGame.Json.Value

/-!
# Members in order

The members of an object ascend by their keys, so they are determined by what is found under each
key. Members written one after the other, no key twice, are found again under their keys.
-/

namespace PickupGame.Json

namespace Members

/-- The members have ascending keys, each key once. -/
def Ascending (ms : Members) : Prop :=
  ms.keys.Pairwise (· < ·)

instance (ms : Members) : Decidable ms.Ascending :=
  inferInstanceAs (Decidable (ms.keys.Pairwise (· < ·)))

@[simp] theorem keys_nil : keys [] = [] := rfl

@[simp] theorem keys_cons (m : String × Value) (ms : Members) : keys (m :: ms) = m.1 :: keys ms := rfl

@[simp] theorem keys_append (ms ns : Members) : keys (ms ++ ns) = keys ms ++ keys ns :=
  List.map_append

theorem ascending_nil : Ascending [] := .nil

theorem ascending_cons {k : String} {v : Value} {ms : Members} :
    Ascending ((k, v) :: ms) ↔ (∀ key ∈ ms.keys, k < key) ∧ ms.Ascending :=
  List.pairwise_cons

theorem Ascending.nodup {ms : Members} (h : ms.Ascending) : ms.keys.Nodup :=
  h.imp ne_of_lt

theorem Ascending.of_append {ms ns : Members} (h : Ascending (ms ++ ns)) : ms.Ascending := by
  rw [Ascending, keys_append] at h
  exact (List.pairwise_append.1 h).1

/-! ## Lookup -/

theorem get?_eq_none {ms : Members} {key : String} : ms.get? key = none ↔ key ∉ ms.keys := by
  induction ms with
  | nil => simp
  | cons m ms ih =>
    obtain ⟨k, v⟩ := m
    by_cases h : k = key
    · simp [get?_cons, h]
    · simp [get?_cons, h, Ne.symm h, ih]

theorem get?_cons_self (k : String) (v : Value) (ms : Members) : get? ((k, v) :: ms) k = some v :=
  if_pos rfl

theorem mem_keys_of_get?_cons {k l : String} {v w : Value} {ms : Members} (hne : k ≠ l)
    (h : get? ((l, w) :: ms) k = some v) : k ∈ ms.keys := by
  by_contra hmem
  rw [get?_cons, if_neg (Ne.symm hne), get?_eq_none.2 hmem] at h
  cases h

theorem get?_append (ms ns : Members) (key : String) :
    get? (ms ++ ns) key = (ms.get? key).or (ns.get? key) := by
  induction ms with
  | nil => rfl
  | cons m ms ih =>
    obtain ⟨k, v⟩ := m
    by_cases h : k = key
    · simp [get?_cons, h]
    · simp [get?_cons, h, ih]

theorem get?_without (ms : Members) (names : List String) (key : String) :
    (ms.without names).get? key = if key ∈ names then none else ms.get? key := by
  induction ms with
  | nil => simp [without]
  | cons m ms ih =>
    obtain ⟨k, v⟩ := m
    have hcons : without ((k, v) :: ms) names =
        if k ∈ names then without ms names else (k, v) :: without ms names := by
      by_cases hk : k ∈ names <;> simp [without, hk]
    rw [hcons]
    by_cases hk : k ∈ names
    · rw [if_pos hk, ih]
      split
      · rfl
      · rename_i hkey
        have hne : k ≠ key := fun h => hkey (h ▸ hk)
        rw [get?_cons, if_neg hne]
    · rw [if_neg hk, get?_cons, get?_cons, ih]
      by_cases hkey : k = key
      · rw [if_pos hkey, if_pos hkey, if_neg (hkey ▸ hk)]
      · rw [if_neg hkey, if_neg hkey]

theorem mem_keys_without {ms : Members} {names : List String} {key : String}
    (h : key ∈ (ms.without names).keys) : key ∉ names := by
  intro hname
  exact get?_eq_none.1 (by rw [get?_without, if_pos hname]) h

theorem Ascending.without {ms : Members} (h : ms.Ascending) (names : List String) :
    (ms.without names).Ascending := by
  apply List.Pairwise.sublist _ h
  exact List.filter_sublist.map Prod.fst

/-- Ascending members are the same if the same is found under every key. -/
theorem Ascending.ext {ms ns : Members} (hms : ms.Ascending) (hns : ns.Ascending)
    (h : ∀ key, ms.get? key = ns.get? key) : ms = ns := by
  induction ms generalizing ns with
  | nil =>
    cases ns with
    | nil => rfl
    | cons n ns =>
      obtain ⟨l, w⟩ := n
      have hnone := h l
      simp [get?_cons] at hnone
  | cons m ms ih =>
    obtain ⟨k, v⟩ := m
    cases ns with
    | nil =>
      have hnone := h k
      simp [get?_cons] at hnone
    | cons n ns =>
      obtain ⟨l, w⟩ := n
      obtain ⟨hk, hms'⟩ := ascending_cons.1 hms
      obtain ⟨hl, hns'⟩ := ascending_cons.1 hns
      -- Each first key is the least one, so neither can stand behind the other.
      have hkl : k = l := by
        by_contra hne
        have hlt : l < k := hl k (mem_keys_of_get?_cons hne ((h k).symm.trans (get?_cons_self k v ms)))
        have hgt : k < l :=
          hk l (mem_keys_of_get?_cons (Ne.symm hne) ((h l).trans (get?_cons_self l w ns)))
        exact lt_asymm hlt hgt
      subst hkl
      have hvalue := h k
      simp only [get?_cons, if_true, Option.some.injEq] at hvalue
      subst hvalue
      congr 1
      refine ih hms' hns' fun key => ?_
      by_cases hkey : k = key
      · subst hkey
        rw [get?_eq_none.2 fun hm => lt_irrefl _ (hk k hm),
          get?_eq_none.2 fun hm => lt_irrefl _ (hl k hm)]
      · have hrest := h key
        rwa [get?_cons, if_neg hkey, get?_cons, if_neg hkey] at hrest

/-! ## Insertion -/

theorem mem_keys_insert {ms : Members} {key other : String} {value : Value} :
    other ∈ (ms.insert key value).keys ↔ other = key ∨ other ∈ ms.keys := by
  have hnone : (ms.insert key value).get? other = none ↔ other ≠ key ∧ ms.get? other = none := by
    by_cases h : other = key
    · subst h
      simp
    · simp [get?_insert_of_ne h, h]
  rw [get?_eq_none, get?_eq_none] at hnone
  tauto

theorem mem_of_mem_insert {ms : Members} {key : String} {value : Value} {m : String × Value}
    (h : m ∈ ms.insert key value) : m = (key, value) ∨ m ∈ ms := by
  induction ms with
  | nil => exact .inl (List.mem_singleton.1 h)
  | cons n ms ih =>
    obtain ⟨k, v⟩ := n
    unfold Members.insert at h
    split at h
    · exact List.mem_cons.1 h
    · split at h
      · rename_i hkey
        subst hkey
        exact (List.mem_cons.1 h).imp_right (List.mem_cons_of_mem _)
      · rcases List.mem_cons.1 h with rfl | h
        · exact .inr List.mem_cons_self
        · exact (ih h).imp_right (List.mem_cons_of_mem _)

theorem Ascending.insert {ms : Members} (h : ms.Ascending) (key : String) (value : Value) :
    (ms.insert key value).Ascending := by
  induction ms with
  | nil => exact List.pairwise_singleton _ key
  | cons m ms ih =>
    obtain ⟨k, v⟩ := m
    obtain ⟨hk, hms⟩ := ascending_cons.1 h
    unfold Members.insert
    split
    · rename_i hlt
      refine ascending_cons.2 ⟨fun other hother => ?_, h⟩
      rcases List.mem_cons.1 hother with rfl | hother
      · exact hlt
      · exact lt_trans hlt (hk other hother)
    · split
      · exact ascending_cons.2 ⟨hk, hms⟩
      · rename_i hlt hne
        refine ascending_cons.2 ⟨fun other hother => ?_, ih hms⟩
        rcases mem_keys_insert.1 hother with rfl | hother
        · exact lt_of_le_of_ne (not_lt.1 hlt) (Ne.symm hne)
        · exact hk other hother

/-- A key behind all others is put at the end. -/
theorem insert_of_ascending {ms : Members} {key : String} {value : Value}
    (h : Ascending (ms ++ [(key, value)])) : ms.insert key value = ms ++ [(key, value)] := by
  induction ms with
  | nil => rfl
  | cons m ms ih =>
    obtain ⟨k, v⟩ := m
    obtain ⟨hk, hms⟩ := ascending_cons.1 h
    have hlt : k < key := hk key (by simp)
    rw [Members.insert, if_neg (not_lt.2 (le_of_lt hlt)), if_neg (ne_of_gt hlt), ih hms]
    rfl

/-! ## Members written one after the other -/

theorem ascending_foldl_insert {acc : Members} (h : acc.Ascending) (ms : List (String × Value)) :
    (ms.foldl (fun acc m => acc.insert m.1 m.2) acc).Ascending := by
  induction ms generalizing acc with
  | nil => exact h
  | cons m ms ih => exact ih (h.insert m.1 m.2)

theorem ascending_ofList (ms : List (String × Value)) : (ofList ms).Ascending :=
  ascending_foldl_insert ascending_nil ms

theorem get?_foldl_insert {ms : Members} (h : ms.keys.Nodup) (acc : Members) (key : String) :
    get? (ms.foldl (fun acc m => acc.insert m.1 m.2) acc) key = (ms.get? key).or (acc.get? key) := by
  induction ms generalizing acc with
  | nil => rfl
  | cons m ms ih =>
    obtain ⟨k, v⟩ := m
    rw [keys_cons, List.nodup_cons] at h
    rw [List.foldl_cons, ih h.2, get?_cons]
    by_cases hkey : k = key
    · subst hkey
      rw [get?_eq_none.2 h.1, if_pos rfl, get?_insert_self]
      rfl
    · rw [if_neg hkey, get?_insert_of_ne (Ne.symm hkey)]

theorem get?_ofList {ms : Members} (h : ms.keys.Nodup) (key : String) :
    (ofList ms).get? key = ms.get? key := by
  rw [ofList, get?_foldl_insert h, get?_nil, Option.or_none]

/-- Of members written one after the other, the last one under a key is found. -/
theorem get?_ofList_eq_reverse (ms : List (String × Value)) (key : String) :
    (ofList ms).get? key = get? ms.reverse key := by
  have hfold (acc : Members) : get? (ms.foldl (fun acc m => acc.insert m.1 m.2) acc) key =
      (get? ms.reverse key).or (acc.get? key) := by
    induction ms generalizing acc with
    | nil => rfl
    | cons m ms ih =>
      obtain ⟨k, v⟩ := m
      rw [List.foldl_cons, ih, List.reverse_cons, get?_append, Option.or_assoc, get?_cons]
      by_cases hkey : k = key
      · subst hkey
        rw [if_pos rfl, get?_insert_self]
        rfl
      · rw [if_neg hkey, get?_insert_of_ne (Ne.symm hkey)]
        rfl
  rw [ofList, hfold, get?_nil, Option.or_none]

/-- Members written one after the other are the ascending ones that hold the last under each key. -/
theorem eq_ofList_iff {ms : List (String × Value)} {ns : Members} :
    ns = ofList ms ↔ ns.Ascending ∧ ∀ key, ns.get? key = get? ms.reverse key := by
  constructor
  · rintro rfl
    exact ⟨ascending_ofList ms, get?_ofList_eq_reverse ms⟩
  · rintro ⟨hkeys, hlast⟩
    refine hkeys.ext (ascending_ofList ms) fun key => ?_
    rw [hlast, get?_ofList_eq_reverse]

/-! ## Fields with other members behind them -/

section Fields

variable {fields rest : Members} (hfields : fields.keys.Nodup) (hrest : rest.Ascending)
  (hapart : ∀ name ∈ fields.keys, name ∉ rest.keys)
include hfields hrest hapart

theorem get?_ofList_fields_append (key : String) :
    (ofList (fields ++ rest)).get? key = (fields.get? key).or (rest.get? key) := by
  have hnodup : (keys (fields ++ rest)).Nodup := by
    rw [keys_append, List.nodup_append]
    refine ⟨hfields, hrest.nodup, ?_⟩
    rintro name hname _ hother rfl
    exact hapart name hname hother
  rw [get?_ofList hnodup, get?_append]

theorem get?_ofList_field {key : String} {v : Value} (hv : fields.get? key = some v) :
    (ofList (fields ++ rest)).get? key = some v := by
  rw [get?_ofList_fields_append hfields hrest hapart, hv, Option.some_or]

/-- What is left without the names of the fields are the members behind them. -/
theorem without_ofList_append : (ofList (fields ++ rest)).without fields.keys = rest := by
  refine ((ascending_ofList _).without _).ext hrest fun key => ?_
  rw [get?_without, get?_ofList_fields_append hfields hrest hapart]
  split
  · rename_i hkey
    rw [get?_eq_none.2 (hapart key hkey)]
  · rename_i hkey
    rw [get?_eq_none.2 hkey, Option.none_or]

end Fields

end Members

/-! ## Parts of sorted values -/

theorem allSorted_iff {items : List Value} : allSorted items ↔ ∀ v ∈ items, v.Sorted := by
  induction items with
  | nil => simp [allSorted]
  | cons v vs ih => simp [allSorted, ih]

theorem sorted_of_get? {ms : Members} (h : membersSorted ms) {key : String} {v : Value}
    (hv : ms.get? key = some v) : v.Sorted := by
  induction ms with
  | nil => cases hv
  | cons m ms ih =>
    obtain ⟨k, w⟩ := m
    rw [membersSorted] at h
    rw [Members.get?_cons] at hv
    split at hv
    · cases hv
      exact h.1
    · exact ih h.2 hv

end PickupGame.Json
