import PickupGame.Api.Client

/-!
# Outcomes of an exchange

What a request comes to, whatever the server does. A request that cannot be made and an answer that
is not there as a whole are failures of transport, also where its status is known. Of a whole answer
the status decides whether its text is read as an envelope.
-/

namespace PickupGame.Api

/-! ## Envelopes of texts -/

namespace Envelope

theorem ofMembers_eq_error {data : Json.Members} {endpoint : String} {f : Failure}
    (h : ofMembers data endpoint = .error f) :
    (∃ reason, f = .decode endpoint reason) ∨ ∃ n, f = .unknownCode endpoint n := by
  unfold ofMembers at h
  split at h
  · cases h
  · split at h
    · cases h
      exact .inl ⟨_, rfl⟩
    · split at h
      · cases h
      · cases h
        exact .inr ⟨_, rfl⟩

/-- A text that is no envelope is a failure to decode what the endpoint answered. -/
theorem ofBody_eq_error {body endpoint : String} {f : Failure} (h : ofBody body endpoint = .error f) :
    (∃ reason, f = .decode endpoint reason) ∨ ∃ n, f = .unknownCode endpoint n := by
  unfold ofBody at h
  split at h
  · cases h
    exact .inl ⟨_, rfl⟩
  · exact ofMembers_eq_error h
  · cases h
    exact .inl ⟨_, rfl⟩

theorem data_ofMembers {data : Json.Members} {endpoint : String} {e : Envelope}
    (h : ofMembers data endpoint = .ok e) : e.data = data := by
  unfold ofMembers at h
  split at h
  · cases h
    rfl
  · split at h
    · cases h
    · split at h
      · cases h
        rfl
      · cases h

/-- The text of an envelope is an object, which is its data. -/
theorem parse_of_ofBody {body endpoint : String} {e : Envelope} (h : ofBody body endpoint = .ok e) :
    Json.parse body = .ok (.object e.data) ∧ ofMembers e.data endpoint = .ok e := by
  unfold ofBody at h
  split at h
  · cases h
  · rename_i data hparse
    rw [data_ofMembers h]
    exact ⟨hparse, h⟩
  · cases h

theorem ofBody_eq_empty {body endpoint : String} :
    ofBody body endpoint = .ok empty ↔ Json.parse body = .ok (.object []) := by
  constructor
  · intro h
    exact (parse_of_ofBody h).1
  · intro h
    rw [ofBody, h]
    rfl

end Envelope

/-! ## Failures -/

/-- The failures that an exchange with an endpoint can end in; the payload of an answer is not
looked at. -/
inductive FailsAt (endpoint : String) (seconds : UInt64) : Failure → Prop
  | transport (reason : String) : FailsAt endpoint seconds (.transport endpoint reason)
  | timeout : FailsAt endpoint seconds (.timeout endpoint seconds)
  | http (status : UInt16) (text : String) : FailsAt endpoint seconds (.http endpoint status text)
  | decode (reason : String) : FailsAt endpoint seconds (.decode endpoint reason)
  | unknownCode (n : Int) : FailsAt endpoint seconds (.unknownCode endpoint n)

namespace FailsAt

variable {endpoint : String} {seconds : UInt64} {f : Failure}

theorem of_fault (endpoint : String) (seconds : UInt64) (fault : Http.Fault) :
    FailsAt endpoint seconds (.ofFault endpoint seconds fault) := by
  cases fault with
  | lost loss =>
    cases loss with
    | late => exact .timeout
    | broken reason => exact .transport reason
  | blamed status message => exact .http status message

theorem of_ofBody {body : String} (h : Envelope.ofBody body endpoint = .error f) :
    FailsAt endpoint seconds f := by
  rcases Envelope.ofBody_eq_error h with ⟨reason, rfl⟩ | ⟨n, rfl⟩
  · exact .decode reason
  · exact .unknownCode n

theorem endpoint?_eq (h : FailsAt endpoint seconds f) : f.endpoint? = some endpoint := by
  cases h <;> rfl

theorem isTransport_iff (h : FailsAt endpoint seconds f) :
    f.isTransport = true ↔
      (∃ reason, f = .transport endpoint reason) ∨ f = .timeout endpoint seconds := by
  cases h <;> simp [Failure.isTransport]

theorem isDecode_iff (h : FailsAt endpoint seconds f) :
    f.isDecode = true ↔
      (∃ reason, f = .decode endpoint reason) ∨ ∃ n, f = .unknownCode endpoint n := by
  cases h <;> simp [Failure.isDecode]

end FailsAt

/-! ## Replies -/

namespace Client

theorem isSuccess_iff {status : UInt16} :
    Http.isSuccess status = true ↔ 200 ≤ status.toNat ∧ status.toNat ≤ 299 := by
  simp [Http.isSuccess, UInt16.le_iff_toNat_le]

section

variable [Http.Decoding]

theorem readReply_cut (c : Client) (e : Endpoint) (begun : Http.Response) (loss : Http.Loss) :
    c.readReply e (.cut begun loss) = .error (.ofFault e.path c.seconds (.lost loss)) :=
  rfl

/-- A whole answer of a good status is read as an envelope. -/
theorem readReply_of_success (c : Client) (e : Endpoint) {r : Http.Response}
    (h : 200 ≤ r.status.toNat ∧ r.status.toNat ≤ 299) :
    c.readReply e (.answered r) = Envelope.ofBody r.text e.path :=
  if_pos (isSuccess_iff.2 h)

/-- Any other status comes before the text. -/
theorem readReply_of_refusal (c : Client) (e : Endpoint) {r : Http.Response}
    (h : ¬ (200 ≤ r.status.toNat ∧ r.status.toNat ≤ 299)) :
    c.readReply e (.answered r) = .error (.http e.path r.status r.text) :=
  if_neg (mt isSuccess_iff.1 h)

theorem readReply_eq_ok {c : Client} {e : Endpoint} {reply : Http.Reply} {envelope : Envelope} :
    c.readReply e reply = .ok envelope ↔
      ∃ r, reply = .answered r ∧ (200 ≤ r.status.toNat ∧ r.status.toNat ≤ 299) ∧
        Envelope.ofBody r.text e.path = .ok envelope := by
  constructor
  · intro h
    cases reply with
    | answered r =>
      by_cases hstatus : 200 ≤ r.status.toNat ∧ r.status.toNat ≤ 299
      · rw [readReply_of_success c e hstatus] at h
        exact ⟨r, rfl, hstatus, h⟩
      · rw [readReply_of_refusal c e hstatus] at h
        cases h
    | cut begun loss => cases h
    | late => cases h
    | broken reason => cases h
  · rintro ⟨r, rfl, hstatus, hbody⟩
    rw [readReply_of_success c e hstatus, hbody]

theorem failsAt_readReply {c : Client} {e : Endpoint} {reply : Http.Reply} {f : Failure}
    (h : c.readReply e reply = .error f) :
    FailsAt e.path c.seconds f := by
  cases reply with
  | answered r =>
    by_cases hstatus : 200 ≤ r.status.toNat ∧ r.status.toNat ≤ 299
    · rw [readReply_of_success c e hstatus] at h
      exact .of_ofBody h
    · rw [readReply_of_refusal c e hstatus] at h
      cases h
      exact .http r.status r.text
  | cut begun loss =>
    cases h
    exact .of_fault e.path c.seconds (.lost loss)
  | late =>
    cases h
    exact .timeout
  | broken reason =>
    cases h
    exact .transport reason

end

end Client

/-! ## Outcomes -/

section

variable [Url.Idna] [Http.Decoding]

/-- What is known of the outcome of a request that gets a reply. -/
structure Accounted (c : Client) (request : Request) (reply : Http.Reply)
    (o : Except Failure Envelope) : Prop where
  made : ∀ r, (c.send request).request? = some r ↔
    c.buildRequest request = .ok r ∧ isWebScheme r.url.scheme = true
  unsent : (c.send request).request? = none →
    ∃ reason, o = .error (.transport request.endpoint.path reason)
  broken : (c.send request).request? ≠ none → ∀ reason,
    (reply = .broken reason ∨ ∃ begun, reply = .cut begun (.broken reason)) →
    o = .error (.transport request.endpoint.path reason)
  late : (c.send request).request? ≠ none → (reply = .late ∨ ∃ begun, reply = .cut begun .late) →
    o = .error (.timeout request.endpoint.path c.seconds)
  refused : (c.send request).request? ≠ none → ∀ r, reply = .answered r →
    ¬ (200 ≤ r.status.toNat ∧ r.status.toNat ≤ 299) →
    o = .error (.http request.endpoint.path r.status r.text)
  taken : (c.send request).request? ≠ none → ∀ r, reply = .answered r →
    200 ≤ r.status.toNat → r.status.toNat ≤ 299 →
    o = Envelope.ofBody r.text request.endpoint.path
  endpoint : ∀ f, o = .error f → f.endpoint? = some request.endpoint.path
  noPayload : ∀ code reason, o ≠ .error (.payload code reason)
  isTransport : ∀ f, o = .error f → (f.isTransport = true ↔
    (∃ reason, f = .transport request.endpoint.path reason) ∨
      f = .timeout request.endpoint.path c.seconds)
  isDecode : ∀ f, o = .error f → (f.isDecode = true ↔
    (∃ reason, f = .decode request.endpoint.path reason) ∨
      ∃ n, f = .unknownCode request.endpoint.path n)
  /-- The empty envelope stands for a failure, and besides that for an empty object alone. -/
  orEmpty : (Envelope.orEmpty o).1 = .empty ↔
    (∃ f, o = .error f) ∨
      ((c.send request).request? ≠ none ∧ ∃ r, reply = .answered r ∧
        200 ≤ r.status.toNat ∧ r.status.toNat ≤ 299 ∧ Json.parse r.text = .ok (.object []))

namespace Client

/-- A request that cannot be made fails whatever the server does; any other gets a reply, which is
read. -/
theorem send_cases (c : Client) (request : Request) :
    ((c.send request).request? = none ∧ ∃ reason, ∀ reply,
        ((c.send request).result reply).result =
          .error (.transport request.endpoint.path reason)) ∨
      ((c.send request).request? ≠ none ∧ ∀ reply,
        ((c.send request).result reply).result = c.readReply request.endpoint reply) := by
  unfold send
  split
  · exact .inl ⟨rfl, _, fun _ => rfl⟩
  · split
    · refine .inr ⟨Option.some_ne_none _, fun reply => ?_⟩
      rw [Http.Plan.result, conclude]
      split <;> rename_i h <;> exact h.symm
    · exact .inl ⟨rfl, _, fun _ => rfl⟩

/-- What is sent is the request as it was built, if there is a way to send it. -/
theorem request?_send (c : Client) (request : Request) (r : Http.Request) :
    (c.send request).request? = some r ↔
      c.buildRequest request = .ok r ∧ isWebScheme r.url.scheme = true := by
  unfold send
  cases hbuild : c.buildRequest request with
  | error fault => simp [Http.Plan.request?]
  | ok built =>
    by_cases hweb : isWebScheme built.url.scheme = true
    · simp only [if_pos hweb, Http.Plan.request?, Option.some.injEq, Except.ok.injEq]
      exact ⟨fun h => ⟨h, h ▸ hweb⟩, And.left⟩
    · simp only [if_neg hweb, Http.Plan.request?]
      refine iff_of_false (Option.some_ne_none r).symm ?_
      rintro ⟨⟨⟩, h⟩
      exact hweb h

variable {c : Client} {request : Request} {reply : Http.Reply}

theorem failsAt_send {f : Failure} (h : ((c.send request).result reply).result = .error f) :
    FailsAt request.endpoint.path c.seconds f := by
  rcases c.send_cases request with ⟨-, reason, hresult⟩ | ⟨-, hresult⟩ <;> rw [hresult] at h
  · cases h
    exact .transport reason
  · exact failsAt_readReply h

theorem result_of_sent (hsent : (c.send request).request? ≠ none) (reply : Http.Reply) :
    ((c.send request).result reply).result = c.readReply request.endpoint reply := by
  rcases c.send_cases request with ⟨hunsent, -⟩ | ⟨-, hresult⟩
  · exact absurd hunsent hsent
  · exact hresult reply

/-- Only a request that was made has an outcome other than a failure, and only by a whole answer of
a good status. -/
theorem send_eq_ok {e : Envelope} :
    ((c.send request).result reply).result = .ok e ↔
      (c.send request).request? ≠ none ∧ ∃ r, reply = .answered r ∧
        (200 ≤ r.status.toNat ∧ r.status.toNat ≤ 299) ∧
        Envelope.ofBody r.text request.endpoint.path = .ok e := by
  rw [← readReply_eq_ok (c := c)]
  rcases c.send_cases request with ⟨hunsent, reason, hresult⟩ | ⟨hsent, hresult⟩ <;> rw [hresult]
  · simp [hunsent]
  · simp [hsent]

/-- Whatever comes of a request, its outcome is accounted for. -/
theorem accounted_send (c : Client) (request : Request) (reply : Http.Reply) :
    Accounted c request reply ((c.send request).result reply).result := by
  constructor
  case made => exact c.request?_send request
  case unsent =>
    intro hunsent
    rcases c.send_cases request with ⟨-, reason, hresult⟩ | ⟨hsent, -⟩
    · exact ⟨reason, hresult reply⟩
    · exact absurd hunsent hsent
  case broken =>
    rintro hsent reason (rfl | ⟨begun, rfl⟩)
    · exact result_of_sent hsent _
    · rw [result_of_sent hsent, readReply_cut]
      rfl
  case late =>
    rintro hsent (rfl | ⟨begun, rfl⟩)
    · exact result_of_sent hsent _
    · rw [result_of_sent hsent, readReply_cut]
      rfl
  case refused =>
    rintro hsent r rfl hstatus
    rw [result_of_sent hsent, readReply_of_refusal c _ hstatus]
  case taken =>
    rintro hsent r rfl hlow hhigh
    rw [result_of_sent hsent, readReply_of_success c _ ⟨hlow, hhigh⟩]
  case endpoint => exact fun f h => (failsAt_send h).endpoint?_eq
  case noPayload =>
    intro code reason h
    have hfails := failsAt_send h
    cases hfails
  case isTransport => exact fun f h => (failsAt_send h).isTransport_iff
  case isDecode => exact fun f h => (failsAt_send h).isDecode_iff
  case orEmpty =>
    cases h : ((c.send request).result reply).result with
    | error f => exact iff_of_true rfl (.inl ⟨f, rfl⟩)
    | ok e =>
      obtain ⟨hsent, r, rfl, hstatus, hbody⟩ := send_eq_ok.1 h
      constructor
      · intro hempty
        have he : e = .empty := hempty
        rw [he, Envelope.ofBody_eq_empty] at hbody
        exact .inr ⟨hsent, r, rfl, hstatus.1, hstatus.2, hbody⟩
      · rintro (⟨f, hf⟩ | ⟨-, r', ha, -, -, hparse⟩)
        · cases hf
        · cases ha
          rw [Envelope.ofBody_eq_empty.2 hparse] at hbody
          exact (Except.ok.inj hbody).symm

end Client

end

end PickupGame.Api
