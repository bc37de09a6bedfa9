import PickupGame.Api.Client
import PickupGame.Proofs.Url.Form

/-!
# Exchanges under different keys

Two clients that differ in their keys send requests that differ in the value of one parameter, and
what they make of the same reply is the same. The text of what broke a connection is left out of the
comparison, since it may quote the address with the parameters in it.
-/

namespace PickupGame

/-! ## Plans side by side -/

namespace Http

/-- The same reply twice; what is said of a broken connection need not be the same. -/
inductive Reply.Akin : Reply → Reply → Prop
  | refl (reply : Reply) : Akin reply reply
  | broken (reason reason' : String) : Akin (.broken reason) (.broken reason')
  | cut (begun : Response) (reason reason' : String) :
      Akin (.cut begun (.broken reason)) (.cut begun (.broken reason'))

/-- Two plans that both send nothing or both send a request, the requests being related and waited
for equally long, and that end related after akin replies. -/
inductive Plan.Rel {α β : Type} (Q : Request → Request → Prop) (R : α → β → Prop) :
    Plan α → Plan β → Prop
  | done {a : α} {b : β} (h : R a b) : Rel Q R (.done a) (.done b)
  | send {q q' : Request} {seconds : UInt64} {next : Reply → α} {next' : Reply → β} (hq : Q q q')
      (h : ∀ reply reply', reply.Akin reply' → R (next reply) (next' reply')) :
      Rel Q R (.send q seconds next) (.send q' seconds next')

theorem Plan.Rel.map {α β γ δ : Type} {Q : Request → Request → Prop} {R : α → β → Prop}
    {S : γ → δ → Prop} {f : α → γ} {g : β → δ} (hfg : ∀ a b, R a b → S (f a) (g b)) {p : Plan α}
    {p' : Plan β} (h : p.Rel Q R p') : (p.map f).Rel Q S (p'.map g) := by
  cases h with
  | done h => exact .done (hfg _ _ h)
  | send hq h => exact .send hq fun reply reply' hreply => hfg _ _ (h reply reply' hreply)

end Http

namespace Api

open Url (Form.write)

/-! ## Requests -/

/-- The same request but for the value of the parameter `key`, the first one of the form that ends
the query of a `get` and that is the body of a `post`. -/
structure DifferInKey (key key' : String) (q q' : Http.Request) : Prop where
  method : q.method = q'.method
  address : { q.url with query := none } = { q'.url with query := none }
  credentials : q.credentials = q'.credentials
  contentType : q.contentType = q'.contentType
  parameters : ∃ args,
    (q.method = .get ∧ q.body = none ∧ q'.body = none ∧ ∃ front,
        q.url.query = some (front ++ Form.write (("key", key) :: args)) ∧
        q'.url.query = some (front ++ Form.write (("key", key') :: args))) ∨
      (q.method = .post ∧ q.url.query = q'.url.query ∧
        q.body = some (String.ofList (Form.write (("key", key) :: args))) ∧
        q'.body = some (String.ofList (Form.write (("key", key') :: args))))

/-- A form is put behind the query that an address has of its own. -/
theorem exists_query_addForm (url : Url) :
    ∃ front, ∀ ps, ps ≠ [] → (url.addForm ps).query = some (front ++ Form.write ps) := by
  by_cases hold : url.query.getD [] = []
  · exact ⟨[], fun ps hps => by simp [Url.addForm, hold, Url.Form.write_ne_nil hps]⟩
  · exact ⟨url.query.getD [] ++ ['&'], fun ps hps => by simp [Url.addForm, hold, hps]⟩

namespace Client

theorem differInKey_assemble (method : Http.Method) (url : Url) (key key' : String)
    (args : List (String × String)) :
    DifferInKey key key' (assemble method url (("key", key) :: args))
      (assemble method url (("key", key') :: args)) := by
  cases method with
  | get =>
    obtain ⟨front, hfront⟩ :=
      exists_query_addForm (if url.credentials?.isSome then url.withoutCredentials else url)
    exact ⟨rfl, rfl, rfl, rfl, args, .inl ⟨rfl, rfl, rfl, front,
      hfront _ (List.cons_ne_nil _ _), hfront _ (List.cons_ne_nil _ _)⟩⟩
  | post => exact ⟨rfl, rfl, rfl, rfl, args, .inr ⟨rfl, rfl, rfl, rfl⟩⟩

/-! ## Outcomes -/

/-- The same outcome with the same reports, the reason for a failure of transport apart. -/
structure Outcome.Akin (o o' : Outcome) : Prop where
  log : o.log = o'.log
  result : o.result = o'.result ∨ ∃ endpoint reason reason',
    o.result = .error (.transport endpoint reason) ∧
      o'.result = .error (.transport endpoint reason')

theorem Outcome.Akin.refl (o : Outcome) : o.Akin o := ⟨rfl, .inl rfl⟩

/-- The key plays no part in what is made of a reply. -/
theorem conclude_akin [Http.Decoding] {c c' : Client} (hbase : c.baseUrl = c'.baseUrl)
    (hseconds : c.seconds = c'.seconds) (e : Endpoint) {reply reply' : Http.Reply}
    (h : reply.Akin reply') : (c.conclude e reply).Akin (c'.conclude e reply') := by
  obtain ⟨base, key, seconds⟩ := c
  obtain ⟨base', key', seconds'⟩ := c'
  cases hbase
  cases hseconds
  cases h with
  | refl =>
    have hread : (⟨base, key, seconds⟩ : Client).readReply e reply =
        (⟨base, key', seconds⟩ : Client).readReply e reply := rfl
    rw [conclude, conclude, hread]
    exact .refl _
  | broken reason reason' => exact ⟨rfl, .inr ⟨e.path, reason, reason', rfl, rfl⟩⟩
  | cut begun reason reason' => exact ⟨rfl, .inr ⟨e.path, reason, reason', rfl, rfl⟩⟩

theorem exchange_akin [Url.Idna] [Http.Decoding] {c c' : Client} (hbase : c.baseUrl = c'.baseUrl)
    (hseconds : c.seconds = c'.seconds) (call : Call) :
    (c.exchange call).Rel (DifferInKey c.key c'.key) Outcome.Akin (c'.exchange call) := by
  have hurl : c'.urlFor call.endpoint = c.urlFor call.endpoint := by rw [urlFor, urlFor, hbase]
  have hannounced : c'.announcement call.endpoint = c.announcement call.endpoint := by
    rw [announcement, announcement, hurl]
  have hscheme (url : Url) (params : List (String × String)) :
      (assemble call.endpoint.method url params).url.scheme = url.scheme := by
    unfold assemble
    cases call.endpoint.method <;> simp only <;> split <;> rfl
  unfold exchange send buildRequest
  simp only [Call.endpoint_request, Call.params_request, hurl, hannounced]
  cases address (c.urlFor call.endpoint) with
  | error fault => exact .done (.refl _)
  | ok url =>
    have hdiffer :=
      differInKey_assemble call.endpoint.method url c.key c'.key call.arguments
    simp only [hscheme]
    -- Whether there is a way to send the request depends on the scheme of its address alone.
    split
    · rw [← hseconds]
      exact .send hdiffer fun reply reply' h => conclude_akin hbase hseconds call.endpoint h
    · exact .done ⟨rfl, .inr ⟨call.endpoint.path, _, _, rfl, rfl⟩⟩

end Client

end Api

end PickupGame
