import PickupGame.Api.Client
import PickupGame.Machine
import PickupGame.Proofs.Numeral.Decimal
import PickupGame.Proofs.Url.Below
import PickupGame.Proofs.Url.Form

/-!
# Requests carry their parameters

The request for a call goes to the path of its endpoint below the base address, and what is read of
its form data are the parameters of the call, no more and no fewer, in order. So the request
determines the operation and its arguments.
-/

namespace PickupGame.Api

/-! ## Calls and their parameters -/

@[simp] theorem decimal_inj {m n : Nat} : decimal m = decimal n ↔ m = n := by
  refine ⟨fun h => Numeral.digits_injective ?_, congrArg decimal⟩
  simpa only [decimal, String.toList_ofList] using congrArg String.toList h

@[simp] theorem optionalParam_inj {name : String} {v w : Option String} :
    optionalParam name v = optionalParam name w ↔ v = w := by
  cases v <;> cases w <;> simp [optionalParam]

@[simp] theorem map_decimal_inj {i j : Option UInt64} :
    (i.map fun n => decimal n.toNat) = (j.map fun n => decimal n.toNat) ↔ i = j := by
  cases i <;> cases j <;> simp [UInt64.toNat_inj]

@[simp] theorem mapParam_some_inj {m m' : String} :
    mapParam (some m) = mapParam (some m') ↔ m = m' := by
  rw [mapParam, mapParam, optionalParam_inj]
  by_cases h : m = "" <;> by_cases h' : m' = "" <;> simp [Option.filter, h, h', eq_comm]

namespace Call

/-- The same call, an empty map for a new pug counting as none. -/
def plain : Call → Call
  | createPug steamId name size map => createPug steamId name size (map.filter (· ≠ ""))
  | c => c

theorem request_eq_iff {key : String} {c c' : Call} :
    c.request key = c'.request key ↔ c.plain = c'.plain := by
  simp only [request, Request.mk.injEq, List.cons.injEq, true_and]
  cases c with
  | createPug =>
    cases c' <;> simp [endpoint, arguments, plain, mapParam, UInt64.toNat_inj, UInt32.toNat_inj]
  | _ => cases c' <;> simp [endpoint, arguments, plain, UInt64.toNat_inj, UInt32.toNat_inj]

end Call

namespace Endpoint

theorem isRoutine_path (e : Endpoint) : ∀ c ∈ e.path.toList, Url.isRoutine c = true := by
  have hall : e.path.toList.all Url.isRoutine = true := by cases e <;> decide +kernel
  exact List.all_eq_true.1 hall

/-- No path is the end of another one. -/
theorem eq_of_path_suffix {e e' : Endpoint} {front front' : List Char}
    (h : front ++ '/' :: e.path.toList = front' ++ '/' :: e'.path.toList) : e = e' := by
  have hends : ∀ a ∈ all, ∀ b ∈ all,
      ('/' :: a.path.toList).isSuffixOf ('/' :: b.path.toList) = true → a = b := by decide
  have hsuffix (a b : Endpoint) (hab : '/' :: a.path.toList <:+ '/' :: b.path.toList) : a = b :=
    hends a (mem_all a) b (mem_all b) (List.isSuffixOf_iff_suffix.2 hab)
  have hl : '/' :: e.path.toList <:+ front' ++ '/' :: e'.path.toList := ⟨front, h⟩
  have hr : '/' :: e'.path.toList <:+ front' ++ '/' :: e'.path.toList := ⟨front', rfl⟩
  rcases List.suffix_or_suffix_of_suffix hl hr with hs | hs
  · exact hsuffix e e' hs
  · exact (hsuffix e' e hs).symm

end Endpoint

/-! ## Base addresses -/

/-- An address of the web with a host, and without a query or a fragment of its own. -/
def isWebAddress [Url.Idna] (text : String) : Bool :=
  (match Url.parse text with
    | .ok url => isWebScheme url.scheme && url.host.isSome
    | .error _ => false)
    && !text.toList.contains '?' && !text.toList.contains '#'

theorem special_of_isWebScheme {scheme : List Char} (h : isWebScheme scheme = true) :
    Url.isSpecial scheme = true ∧ Url.isFileScheme scheme = false := by
  simp only [isWebScheme, Bool.or_eq_true, decide_eq_true_eq] at h
  rcases h with rfl | rfl <;> decide

theorem exists_url_of_isWebAddress [Url.Idna] {text : String} (h : isWebAddress text = true) :
    ∃ url, Url.parse text = .ok url ∧ isWebScheme url.scheme = true ∧
      ∀ c ∈ text.toList, c ≠ '?' ∧ c ≠ '#' := by
  simp only [isWebAddress, Bool.and_eq_true, Bool.not_eq_true', List.contains_eq_mem,
    decide_eq_false_iff_not] at h
  obtain ⟨⟨hurl, hquery⟩, hfragment⟩ := h
  cases hp : Url.parse text with
  | error e => simp [hp] at hurl
  | ok url =>
    rw [hp] at hurl
    simp only [Bool.and_eq_true] at hurl
    refine ⟨url, rfl, hurl.1, fun c hc => ⟨?_, ?_⟩⟩
    · rintro rfl
      exact hquery hc
    · rintro rfl
      exact hfragment hc

/-! ## Requests -/

/-- A request that puts an endpoint with its parameters to a server: it goes to the path of the
endpoint and carries the parameters, and only these, in the query or in the body. -/
structure Delivers (r : Http.Request) (request : Request) : Prop where
  method : r.method = request.endpoint.method
  path : ∃ front, r.url.pathText = front ++ '/' :: request.endpoint.path.toList
  query : r.method = .get → ∃ q, r.url.query = some q ∧ Url.Form.read q = request.params
  body : r.method = .post → ∃ text, r.body = some text ∧ Url.Form.read text.toList = request.params
  no_body : r.method = .get → r.body = none
  no_query : r.method = .post → r.url.query = none

theorem Delivers.unique {r : Http.Request} {request request' : Request}
    (h : Delivers r request) (h' : Delivers r request') : request = request' := by
  obtain ⟨front, hpath⟩ := h.path
  obtain ⟨front', hpath'⟩ := h'.path
  have hendpoint : request.endpoint = request'.endpoint :=
    Endpoint.eq_of_path_suffix (hpath.symm.trans hpath')
  have hparams : request.params = request'.params := by
    cases hm : r.method with
    | get =>
      obtain ⟨q, hq, hread⟩ := h.query hm
      obtain ⟨q', hq', hread'⟩ := h'.query hm
      have heq : q = q' := Option.some.inj (hq.symm.trans hq')
      rw [← hread, ← hread', heq]
    | post =>
      obtain ⟨t, ht, hread⟩ := h.body hm
      obtain ⟨t', ht', hread'⟩ := h'.body hm
      have heq : t = t' := Option.some.inj (ht.symm.trans ht')
      rw [← hread, ← hread', heq]
  cases request
  cases request'
  cases hendpoint
  cases hparams
  rfl

theorem addForm_query {url : Url} (h : url.query = none) {ps : List (String × String)}
    (hps : ps ≠ []) : (url.addForm ps).query = some (Url.Form.write ps) := by
  simp [Url.addForm, h, Url.Form.write_ne_nil hps]

/-- An address with a host whose last segments are those of the endpoint, and which has no query,
makes a request that delivers. -/
theorem delivers_assemble {url : Url} {request : Request} (hhost : url.host.isSome = true)
    (hquery : url.query = none) {front : List (List Char)}
    (hpath : url.path = .segments (front ++ Url.splitPath true request.endpoint.path.toList))
    (hparams : request.params ≠ []) :
    Delivers (Client.assemble request.endpoint.method url request.params) request := by
  have htext : url.pathText =
      front.flatMap ('/' :: ·) ++ '/' :: request.endpoint.path.toList := by
    rw [← Url.flatMap_splitPath true request.endpoint.isRoutine_path, ← List.flatMap_append,
      Url.pathText, hpath]
    simp [Option.isSome_iff_ne_none.1 hhost]
  have hbare : ∃ bare : Url, bare.pathText = url.pathText ∧ bare.query = none ∧
      bare = if url.credentials?.isSome then url.withoutCredentials else url := by
    refine ⟨_, ?_, ?_, rfl⟩ <;> split <;> first | exact hquery | rfl
  obtain ⟨bare, hbareText, hbareQuery, hbare⟩ := hbare
  unfold Client.assemble
  rw [← hbare]
  cases hm : request.endpoint.method with
  | get =>
    exact
      { method := hm.symm
        path := ⟨_, hbareText.trans htext⟩
        query := fun _ => ⟨_, addForm_query hbareQuery hparams, Url.Form.read_write _⟩
        body := fun h => Http.Method.noConfusion h
        no_body := fun _ => rfl
        no_query := fun h => Http.Method.noConfusion h }
  | post =>
    exact
      { method := hm.symm
        path := ⟨_, hbareText.trans htext⟩
        query := fun h => Http.Method.noConfusion h
        body := fun _ => ⟨_, rfl, by rw [String.toList_ofList, Url.Form.read_write]⟩
        no_body := fun h => Http.Method.noConfusion h
        no_query := fun _ => hbareQuery }

namespace Client

section

variable [Url.Idna]

/-- A request is one to the address that has been read, and depends on the call by its endpoint and
parameters alone. -/
theorem build_eq_ok {c : Client} {call : Call} {r : Http.Request} (h : c.build call = .ok r) :
    ∃ url, Url.parse (c.urlFor call.endpoint) = .ok url ∧
      r = assemble call.endpoint.method url (call.request c.key).params := by
  unfold build buildRequest address at h
  cases hp : Url.parse (c.urlFor call.endpoint) with
  | error e => simp [hp] at h
  | ok url =>
    refine ⟨url, rfl, ?_⟩
    by_cases hhost : url.host.isSome = true
    · simpa [hp, hhost, eq_comm] using h
    · simp [hp, hhost] at h

theorem build_congr {c : Client} {call call' : Call}
    (h : call.request c.key = call'.request c.key) : c.build call = c.build call' := by
  unfold build
  rw [h]

theorem delivers_of_build {c : Client} (hbase : isWebAddress c.baseUrl = true) {call : Call}
    {r : Http.Request} (h : c.build call = .ok r) : Delivers r (call.request c.key) := by
  obtain ⟨base, hp, hweb, hmarks⟩ := exists_url_of_isWebAddress hbase
  obtain ⟨hspecial, hfile⟩ := special_of_isWebScheme hweb
  obtain ⟨url, hurl, hr⟩ := build_eq_ok h
  obtain ⟨-, hhost, hquery, -, front, hpath⟩ :=
    Url.exists_parse_below hp hspecial hfile hmarks call.endpoint.isRoutine_path hurl
  have hparams : (call.request c.key).params ≠ [] := List.cons_ne_nil _ _
  rw [← Call.endpoint_request c.key call] at hr hpath
  rw [hr]
  exact delivers_assemble hhost hquery hpath hparams

/-- Of a client with a plain base address, each request delivers its call, so calls with the same
request are the same. -/
theorem build_faithful (c : Client) (hbase : isWebAddress c.baseUrl = true) :
    (∀ call r, c.build call = .ok r → Delivers r (call.request c.key)) ∧
      ∀ call call' r, c.build call = .ok r → (c.build call' = .ok r ↔ call.plain = call'.plain) := by
  refine ⟨fun call r h => delivers_of_build hbase h, fun call call' r h => ⟨fun h' => ?_, ?_⟩⟩
  · have heq := (delivers_of_build hbase h).unique (delivers_of_build hbase h')
    exact Call.request_eq_iff.1 heq
  · intro hplain
    rw [← build_congr (Call.request_eq_iff.2 hplain), h]

end

theorem build_faithful_local :
    letI := machine
    isWebAddress "http://localhost:51515" = true ∧
      ∃ r, build ⟨"http://localhost:51515", "a&b=c+d", 30⟩ (.addMapVote 15 "joe\n100%") = .ok r ∧
        Delivers r ((Call.addMapVote 15 "joe\n100%").request "a&b=c+d") := by
  let := machine
  have hbase : isWebAddress "http://localhost:51515" = true := by decide +kernel
  have hok : (build ⟨"http://localhost:51515", "a&b=c+d", 30⟩
      (.addMapVote 15 "joe\n100%")).toOption.isSome = true := by decide +kernel
  have hfaithful := build_faithful ⟨"http://localhost:51515", "a&b=c+d", 30⟩ hbase
  cases h : build ⟨"http://localhost:51515", "a&b=c+d", 30⟩ (.addMapVote 15 "joe\n100%") with
  | error e => simp [h, Except.toOption] at hok
  | ok r => exact ⟨hbase, r, rfl, hfaithful.1 _ r h⟩

end Client

end PickupGame.Api
