import PickupGame.Proofs.Api.Outcome
import PickupGame.Proofs.Json.Grammar

/-!
# Which texts are envelopes

A text is decoded exactly if it is one object of the JSON grammar in which no `response` stands or
the number of a code. An integer of 64 bits that is no such number is reported as an unknown code,
and every other text as one that cannot be decoded. The code of an envelope is therefore never at
odds with its data, however the envelope came about.
-/

namespace PickupGame.Api

open Json (Value Members Document)

theorem ResponseCode.ofNumber?_eq_some {n : Int} {c : ResponseCode} :
    ofNumber? n = some c ↔ n = c.number := by
  constructor
  · intro h
    unfold ofNumber? at h
    split at h <;> cases h <;> rfl
  · rintro rfl
    exact ofNumber?_number c

namespace Envelope

/-- The value is the integer `n`, which fits 64 bits with sign. -/
def IsInt64 (n : Int) (v : Value) : Prop :=
  n ≤ Numeral.maxI64 ∧ ∃ low high, v = .number (.integer n low high)

theorem int64?_eq_some {v : Value} {n : Int} : int64? v = some n ↔ IsInt64 n v := by
  unfold int64?
  split
  · rename_i m low high
    split
    · rename_i hle
      constructor
      · rintro ⟨⟩
        exact ⟨hle, low, high, rfl⟩
      · rintro ⟨-, _, _, ⟨⟩⟩
        rfl
    · rename_i hgt
      refine iff_of_false (Option.some_ne_none n).symm ?_
      rintro ⟨hle, _, _, ⟨⟩⟩
      exact hgt hle
  · rename_i hother
    refine iff_of_false (Option.some_ne_none n).symm ?_
    rintro ⟨-, low, high, rfl⟩
    exact hother n low high rfl

theorem int64?_eq_none {v : Value} : int64? v = none ↔ ∀ n, ¬ IsInt64 n v := by
  simp only [← int64?_eq_some, Option.eq_none_iff_forall_ne_some, ne_eq]

/-- The code of the envelope is the one whose number its data has under `response`, and `none` if
nothing is there. -/
def Agrees (e : Envelope) : Prop :=
  (e.data.get? "response" = none ∧ e.code = .none) ∨
    ∃ v, e.data.get? "response" = some v ∧ IsInt64 e.code.number v

section Members

variable {data : Members} {endpoint : String} {v : Value} {n : Int}

theorem ofMembers_of_none (h : data.get? "response" = none) :
    ofMembers data endpoint = .ok ⟨.none, data⟩ := by
  rw [ofMembers, h]

theorem ofMembers_of_number {c : ResponseCode} (h : data.get? "response" = some v)
    (hv : IsInt64 c.number v) : ofMembers data endpoint = .ok ⟨c, data⟩ := by
  simp only [ofMembers, h, int64?_eq_some.2 hv, ResponseCode.ofNumber?_number]

theorem ofMembers_of_unknown (h : data.get? "response" = some v) (hv : IsInt64 n v)
    (hn : ∀ c : ResponseCode, n ≠ c.number) :
    ofMembers data endpoint = .error (.unknownCode endpoint n) := by
  have hcode : ResponseCode.ofNumber? n = none := by
    rw [Option.eq_none_iff_forall_ne_some]
    exact fun c hc => hn c (ResponseCode.ofNumber?_eq_some.1 hc)
  simp only [ofMembers, h, int64?_eq_some.2 hv, hcode]

theorem ofMembers_of_other (h : data.get? "response" = some v) (hv : ∀ n, ¬ IsInt64 n v) :
    ofMembers data endpoint =
      .error (.decode endpoint s!"'response' is not an integer: {v.text}") := by
  simp only [ofMembers, h, int64?_eq_none.2 hv]

/-- Either there is no response, or it is the number of a code, another integer or none. -/
theorem response_cases (data : Members) :
    data.get? "response" = none ∨ ∃ v, data.get? "response" = some v ∧
      ((∃ c : ResponseCode, IsInt64 c.number v) ∨
        (∃ n, IsInt64 n v ∧ ∀ c : ResponseCode, n ≠ c.number) ∨ ∀ n, ¬ IsInt64 n v) := by
  cases hget : data.get? "response" with
  | none => exact .inl rfl
  | some v =>
    refine .inr ⟨v, rfl, ?_⟩
    by_cases hint : ∃ n, IsInt64 n v
    · obtain ⟨n, hv⟩ := hint
      by_cases hcode : ∃ c : ResponseCode, n = c.number
      · obtain ⟨c, rfl⟩ := hcode
        exact .inl ⟨c, hv⟩
      · exact .inr (.inl ⟨n, hv, not_exists.1 hcode⟩)
    · exact .inr (.inr (not_exists.1 hint))

theorem ofMembers_eq_ok {e : Envelope} :
    ofMembers data endpoint = .ok e ↔ e.data = data ∧ e.Agrees := by
  constructor
  · intro h
    have hdata := data_ofMembers h
    subst hdata
    refine ⟨rfl, ?_⟩
    rcases response_cases e.data with hget | ⟨v, hget, ⟨c, hv⟩ | ⟨n, hv, hn⟩ | hv⟩
    · rw [ofMembers_of_none hget, Except.ok.injEq] at h
      exact .inl ⟨hget, h ▸ rfl⟩
    · rw [ofMembers_of_number hget hv, Except.ok.injEq] at h
      obtain rfl : c = e.code := h ▸ rfl
      exact .inr ⟨v, hget, hv⟩
    · rw [ofMembers_of_unknown hget hv hn] at h
      cases h
    · rw [ofMembers_of_other hget hv] at h
      cases h
  · obtain ⟨code, data⟩ := e
    rintro ⟨rfl, ⟨hget, rfl⟩ | ⟨v, hget, hv⟩⟩
    · exact ofMembers_of_none hget
    · exact ofMembers_of_number hget hv

theorem ofMembers_eq_unknownCode :
    ofMembers data endpoint = .error (.unknownCode endpoint n) ↔
      ∃ v, data.get? "response" = some v ∧ IsInt64 n v ∧ ∀ c : ResponseCode, n ≠ c.number := by
  constructor
  · intro h
    rcases response_cases data with hget | ⟨v, hget, ⟨c, hv⟩ | ⟨m, hv, hm⟩ | hv⟩
    · rw [ofMembers_of_none hget] at h
      cases h
    · rw [ofMembers_of_number hget hv] at h
      cases h
    · rw [ofMembers_of_unknown hget hv hm] at h
      cases h
      exact ⟨v, hget, hv, hm⟩
    · rw [ofMembers_of_other hget hv] at h
      cases h
  · rintro ⟨v, hget, hv, hn⟩
    exact ofMembers_of_unknown hget hv hn

theorem ofMembers_eq_decode :
    (∃ reason, ofMembers data endpoint = .error (.decode endpoint reason)) ↔
      ∃ v, data.get? "response" = some v ∧ ∀ n, ¬ IsInt64 n v := by
  constructor
  · rintro ⟨reason, h⟩
    rcases response_cases data with hget | ⟨v, hget, ⟨c, hv⟩ | ⟨m, hv, hm⟩ | hv⟩
    · rw [ofMembers_of_none hget] at h
      cases h
    · rw [ofMembers_of_number hget hv] at h
      cases h
    · rw [ofMembers_of_unknown hget hv hm] at h
      cases h
    · exact ⟨v, hget, hv⟩
  · rintro ⟨v, hget, hv⟩
    exact ⟨_, ofMembers_of_other hget hv⟩

end Members

/-- What is known of the outcome of decoding a text that an endpoint answered. -/
structure Decoded (body endpoint : String) (o : Except Failure Envelope) : Prop where
  taken : ∀ e, o = .ok e ↔ Document body (.object e.data) ∧ e.Agrees
  unknownCode : ∀ n, o = .error (.unknownCode endpoint n) ↔
    ∃ data : Members, Document body (.object data) ∧
      ∃ v, data.get? "response" = some v ∧ IsInt64 n v ∧ ∀ c : ResponseCode, n ≠ c.number
  decode : (∃ reason, o = .error (.decode endpoint reason)) ↔
    ∀ data : Members, Document body (.object data) →
      ∃ v, data.get? "response" = some v ∧ ∀ n, ¬ IsInt64 n v
  failures : ∀ f, o = .error f →
    (∃ reason, f = .decode endpoint reason) ∨ ∃ n, f = .unknownCode endpoint n

/-- Either a text is one object, which is looked at, or it is refused whatever stands in it. -/
theorem ofBody_cases (body endpoint : String) :
    (∃ data : Members, Document body (.object data) ∧
        ofBody body endpoint = ofMembers data endpoint) ∨
      ((∀ data : Members, ¬ Document body (.object data)) ∧
        ∃ reason, ofBody body endpoint = .error (.decode endpoint reason)) := by
  simp only [← Json.parse_eq_ok]
  unfold ofBody
  cases hparse : Json.parse body with
  | error e => exact .inr ⟨nofun, _, rfl⟩
  | ok v =>
    cases v with
    | object data => exact .inl ⟨data, rfl, rfl⟩
    | _ => exact .inr ⟨nofun, _, rfl⟩

theorem decoded_ofBody (body endpoint : String) :
    Decoded body endpoint (ofBody body endpoint) := by
  have hone {data data' : Members} (h : Document body (.object data))
      (h' : Document body (.object data')) : data = data' := by
    have hparse := (Json.parse_eq_ok.2 h).symm.trans (Json.parse_eq_ok.2 h')
    cases hparse
    rfl
  rcases ofBody_cases body endpoint with ⟨data, hdata, hbody⟩ | ⟨hnone, reason, hbody⟩
  · rw [hbody]
    refine ⟨fun e => ?_, fun n => ?_, ?_, fun f hf => ofMembers_eq_error hf⟩
    · rw [ofMembers_eq_ok]
      exact and_congr_left' ⟨fun h => h ▸ hdata, fun h => hone h hdata⟩
    · rw [ofMembers_eq_unknownCode]
      exact ⟨fun h => ⟨data, hdata, h⟩, fun ⟨data', hdata', h⟩ => hone hdata' hdata ▸ h⟩
    · rw [ofMembers_eq_decode]
      exact ⟨fun h data' hdata' => hone hdata hdata' ▸ h, fun h => h data hdata⟩
  · rw [hbody]
    refine ⟨fun e => ?_, fun n => ?_, ?_, ?_⟩
    · exact iff_of_false nofun fun h => hnone e.data h.1
    · exact iff_of_false nofun fun ⟨data, h, _⟩ => hnone data h
    · exact iff_of_true ⟨reason, rfl⟩ fun data h => absurd h (hnone data)
    · rintro f ⟨⟩
      exact .inl ⟨reason, rfl⟩

/-- The envelopes that can come about. -/
inductive Produced : Envelope → Prop
  | empty : Produced .empty
  | ofMembers {data : Members} {endpoint : String} {e : Envelope}
      (h : Envelope.ofMembers data endpoint = .ok e) : Produced e
  | ofBody {body endpoint : String} {e : Envelope} (h : Envelope.ofBody body endpoint = .ok e) :
      Produced e
  | orEmpty {o : Except Failure Envelope} (h : ∀ e, o = .ok e → Produced e) :
      Produced (Envelope.orEmpty o).1

theorem agrees_empty : Agrees .empty :=
  .inl ⟨rfl, rfl⟩

theorem Produced.agrees {e : Envelope} (h : Produced e) : e.Agrees := by
  induction h with
  | empty => exact agrees_empty
  | ofMembers h => exact (ofMembers_eq_ok.1 h).2
  | ofBody h => exact ((decoded_ofBody _ _).taken _ |>.1 h).2
  | @orEmpty o _ ih =>
    cases o with
    | ok e => exact ih e rfl
    | error f => exact agrees_empty

/-- Every text is decoded as the grammar and the codes have it, and no envelope has a code that its
data does not announce. -/
theorem exact_decoding :
    (∀ body endpoint, Decoded body endpoint (ofBody body endpoint)) ∧
      ∀ e, Produced e → e.Agrees :=
  ⟨decoded_ofBody, fun _ h => h.agrees⟩

end Envelope

end PickupGame.Api
