import Mathlib.Data.List.Forall2
import PickupGame.Proofs.Json.Decode

/-!
# Values that agree in what is declared

A decoder declares the members of objects that it looks at. Values agree if they differ in other
members only. A decoder that looks at nothing else takes them to the same result, or refuses both
with the same message.
-/

namespace PickupGame.Json

/-- Values that differ only in the members of objects. -/
inductive Value.Alike : Value → Value → Prop
  | refl (v : Value) : Value.Alike v v
  | array {vs ws : List Value} : List.Forall₂ Value.Alike vs ws → Value.Alike (.array vs) (.array ws)
  | object (ms ns : Members) : Value.Alike (.object ms) (.object ns)

/-- When two values are the same to a decoder. -/
abbrev Agreement := Value → Value → Prop

/-- The same is found under the name of each field, as far as its agreement goes. -/
def Members.Agree (fields : List (String × Agreement)) (ms ns : Members) : Prop :=
  ∀ f ∈ fields, Option.Rel f.2 (ms.get? f.1) (ns.get? f.1)

namespace Agreement

def list (item : Agreement) : Agreement
  | .array vs, .array ws => List.Forall₂ item vs ws
  | v, w => v.Alike w

/-- Objects agree in their fields. A record may also be written as the array of its fields. -/
def record (fields : List (String × Agreement)) : Agreement
  | .object ms, .object ns => Members.Agree fields ms ns
  | v, w => v.Alike w

variable {item : Agreement} {fields : List (String × Agreement)} {v w : Value}

theorem list_cases (h : list item v w) :
    (∃ vs ws, v = .array vs ∧ w = .array ws ∧ List.Forall₂ item vs ws) ∨
      (∃ ms ns, v = .object ms ∧ w = .object ns) ∨ v = w ∧ ∀ vs, v ≠ .array vs := by
  unfold list at h
  split at h
  · exact .inl ⟨_, _, rfl, rfl, h⟩
  · rename_i hne
    cases h with
    | refl => exact .inr (.inr ⟨rfl, fun vs hv => hne vs vs hv hv⟩)
    | array => exact (hne _ _ rfl rfl).elim
    | object ms ns => exact .inr (.inl ⟨ms, ns, rfl, rfl⟩)

theorem record_cases (h : record fields v w) :
    (∃ ms ns, v = .object ms ∧ w = .object ns ∧ Members.Agree fields ms ns) ∨
      (∃ vs ws, v = .array vs ∧ w = .array ws ∧ List.Forall₂ Value.Alike vs ws) ∨
      v = w ∧ ∀ ms, v ≠ .object ms := by
  unfold record at h
  split at h
  · exact .inl ⟨_, _, rfl, rfl, h⟩
  · rename_i hne
    cases h with
    | refl => exact .inr (.inr ⟨rfl, fun ms hv => hne ms ms hv hv⟩)
    | array hitems => exact .inr (.inl ⟨_, _, rfl, rfl, hitems⟩)
    | object => exact (hne _ _ rfl rfl).elim

theorem alike_of_record (h : record fields v w) : v.Alike w := by
  rcases record_cases h with ⟨ms, ns, rfl, rfl, -⟩ | ⟨vs, ws, rfl, rfl, hitems⟩ | ⟨rfl, -⟩
  · exact .object ms ns
  · exact .array hitems
  · exact .refl v

end Agreement

namespace Decode

variable {α β : Type} {r : α → α → Prop}

/-- Both succeed with related results, or both fail with the same message. -/
inductive Concur (r : α → α → Prop) : Except Mismatch α → Except Mismatch α → Prop
  | ok {a b : α} : r a b → Concur r (.ok a) (.ok b)
  | error {m n : Mismatch} : m.message = n.message → Concur r (.error m) (.error n)

namespace Concur

variable {s : β → β → Prop} {x y : Except Mismatch α}

theorem refl (hr : ∀ a, r a a) (x : Except Mismatch α) : Concur r x x := by
  cases x with
  | error m => exact .error rfl
  | ok a => exact .ok (hr a)

theorem mono {s : α → α → Prop} (h : Concur r x y) (hs : ∀ a b, r a b → s a b) : Concur s x y := by
  cases h with
  | ok hab => exact .ok (hs _ _ hab)
  | error hmn => exact .error hmn

theorem map {f g : α → β} (h : Concur r x y) (hf : ∀ a b, r a b → s (f a) (g b)) :
    Concur s (x.map f) (y.map g) := by
  cases h with
  | ok hab => exact .ok (hf _ _ hab)
  | error hmn => exact .error hmn

theorem bind {f g : α → Except Mismatch β} (h : Concur r x y)
    (hf : ∀ a b, r a b → Concur s (f a) (g b)) : Concur s (x >>= f) (y >>= g) := by
  cases h with
  | ok hab => exact hf _ _ hab
  | error hmn => exact .error hmn

theorem bind_eq {f g : α → Except Mismatch β} (h : Concur Eq x y)
    (hf : ∀ a, Concur s (f a) (g a)) : Concur s (x >>= f) (y >>= g) := by
  apply h.bind
  rintro a _ rfl
  exact hf a

end Concur

/-- On values that agree, the results are related. -/
def Respects (agreement : Agreement) (r : α → α → Prop) (item : Decoder α) : Prop :=
  ∀ v w, agreement v w → Concur r (item v) (item w)

variable {agreement : Agreement} {item : Decoder α}

theorem Respects.mono {s : α → α → Prop} (h : Respects agreement r item)
    (hs : ∀ a b, r a b → s a b) : Respects agreement s item := by
  intro v w hvw
  exact (h v w hvw).mono hs

/-! ## Single values -/

theorem respects_of_refuses {wanted : String}
    (harray : ∀ vs, item (.array vs) = .error (.type (.array vs) wanted))
    (hobject : ∀ ms, item (.object ms) = .error (.type (.object ms) wanted)) :
    Respects Value.Alike Eq item := by
  intro v w h
  cases h with
  | refl => exact .refl (fun _ => rfl) _
  | array =>
    rw [harray, harray]
    exact .error rfl
  | object =>
    rw [hobject, hobject]
    exact .error rfl

theorem uint64_respects : Respects Value.Alike Eq uint64 :=
  respects_of_refuses (fun _ => rfl) fun _ => rfl

theorem uint32_respects : Respects Value.Alike Eq uint32 :=
  respects_of_refuses (fun _ => rfl) fun _ => rfl

theorem uint16_respects : Respects Value.Alike Eq uint16 :=
  respects_of_refuses (fun _ => rfl) fun _ => rfl

theorem uint8_respects : Respects Value.Alike Eq uint8 :=
  respects_of_refuses (fun _ => rfl) fun _ => rfl

theorem int64_respects : Respects Value.Alike Eq int64 :=
  respects_of_refuses (fun _ => rfl) fun _ => rfl

theorem string_respects : Respects Value.Alike Eq string :=
  respects_of_refuses (fun _ => rfl) fun _ => rfl

theorem bool_respects : Respects Value.Alike Eq bool :=
  respects_of_refuses (fun _ => rfl) fun _ => rfl

/-! ## Options and lists -/

theorem Respects.option (h : Respects agreement Eq item) (halike : ∀ v w, agreement v w → v.Alike w) :
    Respects agreement Eq (option item) := by
  intro v w hvw
  by_cases hv : v = .null
  · subst hv
    cases halike _ _ hvw
    exact .ok rfl
  · have hw : w ≠ .null := by
      rintro rfl
      cases halike _ _ hvw
      exact hv rfl
    rw [option_of_ne_null hv, option_of_ne_null hw]
    exact (h v w hvw).map fun _ _ hab => congrArg some hab

theorem Respects.option_alike (h : Respects Value.Alike Eq item) :
    Respects Value.Alike Eq (Decode.option item) :=
  h.option fun _ _ halike => halike

theorem mapM_concur {vs ws : List Value} (h : List.Forall₂ agreement vs ws)
    (hitem : Respects agreement r item) : Concur (List.Forall₂ r) (vs.mapM item) (ws.mapM item) := by
  induction h with
  | nil => exact .ok .nil
  | cons hvw _ ih =>
    rw [List.mapM_cons, List.mapM_cons]
    apply (hitem _ _ hvw).bind
    intro a b hab
    apply ih.bind
    intro as bs habs
    exact .ok (.cons hab habs)

theorem Respects.list (h : Respects agreement r item) :
    Respects (Agreement.list agreement) (List.Forall₂ r) (list item) := by
  intro v w hvw
  rcases Agreement.list_cases hvw with ⟨vs, ws, rfl, rfl, hitems⟩ | ⟨ms, ns, rfl, rfl⟩ | ⟨rfl, hne⟩
  · exact mapM_concur hitems h
  · exact .error rfl
  · cases v with
    | array vs => exact (hne vs rfl).elim
    | _ => exact .error rfl

theorem Respects.list_eq (h : Respects agreement Eq item) :
    Respects (Agreement.list agreement) Eq (Decode.list item) := by
  have hlist := h.list
  rwa [List.forall₂_eq_eq_eq] at hlist

theorem Respects.list_map {view : α → β}
    (h : Respects agreement (fun a b => view a = view b) item) :
    Respects (Agreement.list agreement) (fun as bs => as.map view = bs.map view)
      (Decode.list item) := by
  apply h.list.mono
  intro as bs hall
  rw [← List.forall₂_eq_eq_eq, List.forall₂_map_left_iff, List.forall₂_map_right_iff]
  exact hall

/-! ## Records -/

theorem object_respects {fields : List (String × Agreement)} {wanted : String} :
    Respects (.record fields) (Members.Agree fields) (object wanted) := by
  intro v w h
  rcases Agreement.record_cases h with ⟨ms, ns, rfl, rfl, hfields⟩ | ⟨vs, ws, rfl, rfl, -⟩ | ⟨rfl, hne⟩
  · exact .ok hfields
  · exact .error rfl
  · cases v with
    | object ms => exact (hne ms rfl).elim
    | _ => exact .error rfl

section Fields

variable {ms ns : Members} {name : String}
  (h : Option.Rel agreement (ms.get? name) (ns.get? name))
include h

theorem field?_concur (hitem : Respects agreement r item) :
    Concur (Option.Rel r) (field? ms name item) (field? ns name item) := by
  unfold field?
  generalize ms.get? name = o, ns.get? name = p at h
  cases h with
  | none => exact .ok .none
  | some hvw => exact (hitem _ _ hvw).map fun _ _ hab => .some hab

theorem field?_concur_eq (hitem : Respects agreement Eq item) :
    Concur Eq (field? ms name item) (field? ns name item) := by
  apply (field?_concur h hitem).mono
  intro o p hop
  cases hop with
  | none => rfl
  | some hab => rw [hab]

theorem fieldD_concur (hitem : Respects agreement r item) {default : α}
    (hdefault : r default default) :
    Concur r (fieldD ms name item default) (fieldD ns name item default) := by
  apply (field?_concur h hitem).map
  intro o p hop
  cases hop with
  | none => exact hdefault
  | some hab => exact hab

end Fields

section Elements

variable {vs ws : List Value} (h : List.Forall₂ Value.Alike vs ws)
include h

theorem rel_getElem? (index : Nat) : Option.Rel Value.Alike vs[index]? ws[index]? := by
  induction h generalizing index with
  | nil => exact .none
  | cons hvw _ ih =>
    cases index with
    | zero => exact .some hvw
    | succ index => simpa using ih index

theorem element_concur {index : Nat} {wanted : String} (hitem : Respects Value.Alike Eq item) :
    Concur Eq (element vs index wanted item) (element ws index wanted item) := by
  have hindex := rel_getElem? h index
  unfold element
  generalize vs[index]? = o, ws[index]? = p at hindex
  cases hindex with
  | none => exact .error rfl
  | some hvw => exact hitem _ _ hvw

theorem noMore_concur (count : Nat) : Concur Eq (noMore vs count) (noMore ws count) := by
  unfold noMore
  rw [h.length_eq]
  exact .refl (fun _ => rfl) _

end Elements

end Decode

end PickupGame.Json
