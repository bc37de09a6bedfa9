import PickupGame.Proofs.Api.Parameters

/-!
# Parameters without a value

The id of a pug and a map are left out where there is no value for them, with one exception: a vote
for no map is sent with an empty map. What is sent besides the parameters of a call is the form data
that the base address has of its own.
-/

namespace PickupGame

/-! ## Form data of a request -/

/-- The form data in the query of an address. -/
def Url.formData (url : Url) : List (String × String) :=
  (url.query.map Url.Form.read).getD []

/-- The form data of a request: that in the query of its address, then that in its body. -/
def Http.Request.formData (r : Http.Request) : List (String × String) :=
  r.url.formData ++ (r.body.map fun text => Url.Form.read text.toList).getD []

theorem Url.formData_addForm (url : Url) {ps : List (String × String)} (hps : ps ≠ []) :
    (url.addForm ps).formData = url.formData ++ ps := by
  have hwrite : Form.write ps ≠ [] := Form.write_ne_nil hps
  have hnil : Form.read [] = [] := rfl
  cases hquery : url.query with
  | none => simp [formData, addForm, hquery, hwrite]
  | some q =>
    by_cases hq : q = []
    · simp [formData, addForm, hquery, hq, hwrite, hnil]
    · simp [formData, addForm, hquery, hq, hps, Form.read_append]

namespace Api

theorem Client.formData_assemble (method : Http.Method) (url : Url) {ps : List (String × String)}
    (hps : ps ≠ []) : (assemble method url ps).formData = url.formData ++ ps := by
  unfold assemble
  generalize hbare : (if url.credentials?.isSome then url.withoutCredentials else url) = bare
  have hsame : bare.formData = url.formData := by
    rw [← hbare]
    split <;> rfl
  cases method with
  | get => simp [Http.Request.formData, Url.formData_addForm bare hps, hsame]
  | post => simp [Http.Request.formData, hsame]

/-! ## Calls -/

/-- The id of a pug or a map, without a value. -/
def IsHollow (p : String × String) : Prop :=
  (p.1 = "pugid" ∨ p.1 = "map") ∧ p.2 = ""

theorem decimal_ne_empty (n : Nat) : decimal n ≠ "" := by
  intro h
  have hnil : Numeral.digits n = [] := by simpa [decimal] using congrArg String.toList h
  exact Numeral.digits_ne_nil n hnil

namespace Call

/-- A vote for a map without a name. -/
def IsVoteForNone (call : Call) : Prop :=
  ∃ steamId, call = addMapVote steamId ""

theorem map?_eq_some_empty {call : Call} : call.map? = some "" ↔ call.IsVoteForNone := by
  cases call <;> simp [map?, IsVoteForNone, Option.filter_eq_some_iff]

theorem get?_pugid_ne (key : String) (call : Call) : (call.request key).get? "pugid" ≠ some "" := by
  rw [get?_request, lookup_arguments]
  simp [Option.map_eq_some_iff, decimal_ne_empty]

theorem get?_map (key : String) (call : Call) : (call.request key).get? "map" = call.map? := by
  rw [get?_request, lookup_arguments]
  rfl

theorem hollow_iff (key : String) (call : Call) (p : String × String) :
    p ∈ (call.request key).params ∧ IsHollow p ↔ p = ("map", "") ∧ call.IsVoteForNone := by
  have hget (name : String) :
      (name, "") ∈ (call.request key).params ↔ (call.request key).get? name = some "" :=
    (Request.get?_eq_some (call.nodup_keys_request key)).symm
  constructor
  · obtain ⟨name, value⟩ := p
    rintro ⟨hmem, rfl | rfl, rfl⟩
    · exact absurd ((hget "pugid").1 hmem) (call.get?_pugid_ne key)
    · refine ⟨rfl, map?_eq_some_empty.1 ?_⟩
      rw [← get?_map key, ← hget "map"]
      exact hmem
  · rintro ⟨rfl, hvote⟩
    refine ⟨(hget "map").2 ?_, .inr rfl, rfl⟩
    rw [get?_map key, map?_eq_some_empty]
    exact hvote

end Call

/-! ## Requests that are sent -/

namespace Client

theorem mark_notMem_urlFor {c : Client} (hmark : '?' ∉ c.baseUrl.toList) (e : Endpoint) :
    '?' ∉ (c.urlFor e).toList := by
  have hpath : '?' ∉ e.path.toList := fun h =>
    Url.ne_of_isRoutine (e.isRoutine_path '?' h) (by decide) rfl
  simpa [urlFor, Url.toList_below, hpath] using hmark

section

variable [Url.Idna] {c : Client} {call : Call} {r : Http.Request}

theorem formData_of_build (h : c.build call = .ok r) :
    ∃ url, Url.parse (c.urlFor call.endpoint) = .ok url ∧
      r.formData = url.formData ++ (call.request c.key).params := by
  obtain ⟨url, hurl, rfl⟩ := build_eq_ok h
  exact ⟨url, hurl, formData_assemble _ url (List.cons_ne_nil _ _)⟩

theorem formData_of_unmarked (hmark : '?' ∉ c.baseUrl.toList) (h : c.build call = .ok r) :
    r.formData = (call.request c.key).params := by
  obtain ⟨url, hurl, hdata⟩ := formData_of_build h
  have hquery : url.query = none := Url.query_of_parse hurl (mark_notMem_urlFor hmark _)
  rw [hdata, Url.formData, hquery]
  rfl

/-- Pug ids and maps are not sent without a value, a vote for no map apart. -/
structure Sparing (c : Client) (call : Call) : Prop where
  params : ∀ p, p ∈ (call.request c.key).params ∧ IsHollow p ↔
    p = ("map", "") ∧ call.IsVoteForNone
  /-- Nor is there one in what is sent, unless the base address brings it. -/
  sent : ∀ r, c.build call = .ok r → ∃ url, Url.parse (c.urlFor call.endpoint) = .ok url ∧
    ∀ p, p ∈ r.formData ∧ IsHollow p ↔
      p ∈ url.formData ∧ IsHollow p ∨ p = ("map", "") ∧ call.IsVoteForNone
  unmarked : '?' ∉ c.baseUrl.toList → ∀ r, c.build call = .ok r →
    ∀ p, p ∈ r.formData ∧ IsHollow p ↔ p = ("map", "") ∧ call.IsVoteForNone

theorem sparing_build (c : Client) (call : Call) : Sparing c call := by
  have hparams := call.hollow_iff c.key
  constructor
  case params => exact hparams
  case sent =>
    intro r h
    obtain ⟨url, hurl, hdata⟩ := formData_of_build h
    refine ⟨url, hurl, fun p => ?_⟩
    rw [hdata, List.mem_append, or_and_right, hparams]
  case unmarked =>
    intro hmark r h p
    rw [formData_of_unmarked hmark h]
    exact hparams p

end

-- The map is left out where it is forced, and not where it is voted for.
example : ((Call.forceMap 15 "").request "k").params = [("key", "k"), ("pugid", "15")] := by
  decide +kernel

example : ((Call.addMapVote 15 "").request "k").params =
    [("key", "k"), ("steamid", "15"), ("map", "")] := by
  decide +kernel

end Client

end Api

end PickupGame
