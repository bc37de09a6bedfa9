import PickupGame.Api.Payload
import PickupGame.Proofs.Json.Agreement

/-!
# Entries that nobody declares

A server may add entries of which the client knows nothing, in its answer and in each record below
it. Such an entry decides neither about success nor about a field. It is only kept beside the fields
of a pug or a player.
-/

namespace PickupGame.Api

open Json (Value Members Agreement Decode.Concur Decode.Respects Decode.field?_concur_eq
  Decode.fieldD_concur Decode.element_concur Decode.object_respects)

/-! ## Records -/

/-- The player without what is kept beside the fields. -/
def Player.declared (p : Player) : Player :=
  { p with stats := [] }

def Pug.declared (p : Pug) : Pug :=
  { p with players := p.players.map Player.declared, extra := [] }

def Player.agreement : Agreement :=
  .record [("id", Value.Alike), ("name", Value.Alike)]

def MapVoteCount.agreement : Agreement :=
  .record [("map", Value.Alike), ("count", Value.Alike)]

def PlayerVote.agreement : Agreement :=
  .record [("id", Value.Alike), ("map", Value.Alike)]

def GameServer.agreement : Agreement :=
  .record [("name", Value.Alike), ("anticheat", Value.Alike), ("ip", Value.Alike),
    ("port", Value.Alike)]

def Pug.agreement : Agreement :=
  .record [("id", Value.Alike), ("size", Value.Alike), ("state", Value.Alike),
    ("named_state", Value.Alike), ("map", Value.Alike), ("map_forced", Value.Alike),
    ("admin", Value.Alike), ("players", .list Player.agreement),
    ("map_vote_counts", .list MapVoteCount.agreement), ("player_votes", .list PlayerVote.agreement),
    ("map_vote_start", Value.Alike), ("map_vote_end", Value.Alike), ("maps", .list Value.Alike),
    ("server", GameServer.agreement)]

theorem Player.decode_respects :
    Decode.Respects agreement (fun p q => p.declared = q.declared) decode := by
  intro v w h
  apply (Decode.object_respects v w h).bind
  intro ms ns hfields
  obtain ⟨hid, hname⟩ := List.forall_iff_forall_mem.2 hfields
  apply (Decode.field?_concur_eq hid Json.Decode.uint64_respects).bind_eq
  intro id
  apply (Decode.field?_concur_eq hname Json.Decode.string_respects).bind_eq
  intro name
  apply (Decode.Concur.refl (fun _ => rfl) _).bind_eq
  intro id
  apply (Decode.Concur.refl (fun _ => rfl) _).bind_eq
  intro name
  exact .ok rfl

theorem MapVoteCount.decode_respects : Decode.Respects agreement Eq decode := by
  intro v w h
  rcases Agreement.record_cases h with ⟨ms, ns, rfl, rfl, hfields⟩ | ⟨vs, ws, rfl, rfl, hitems⟩ |
    ⟨rfl, -⟩
  · obtain ⟨hmap, hcount⟩ := List.forall_iff_forall_mem.2 hfields
    apply (Decode.field?_concur_eq hcount Json.Decode.uint32_respects).bind_eq
    intro count
    apply (Decode.field?_concur_eq hmap Json.Decode.string_respects).bind_eq
    intro map
    exact .refl (fun _ => rfl) _
  · apply (Decode.element_concur hitems Json.Decode.string_respects).bind_eq
    intro map
    apply (Decode.element_concur hitems Json.Decode.uint32_respects).bind_eq
    intro count
    apply (Json.Decode.noMore_concur hitems 2).bind_eq
    intro _
    exact .ok rfl
  · exact .refl (fun _ => rfl) _

theorem PlayerVote.decode_respects : Decode.Respects agreement Eq decode := by
  intro v w h
  rcases Agreement.record_cases h with ⟨ms, ns, rfl, rfl, hfields⟩ | ⟨vs, ws, rfl, rfl, hitems⟩ |
    ⟨rfl, -⟩
  · obtain ⟨hid, hmap⟩ := List.forall_iff_forall_mem.2 hfields
    apply (Decode.field?_concur_eq hid Json.Decode.uint64_respects).bind_eq
    intro id
    apply (Decode.field?_concur_eq hmap Json.Decode.string_respects).bind_eq
    intro map
    exact .refl (fun _ => rfl) _
  · apply (Decode.element_concur hitems Json.Decode.uint64_respects).bind_eq
    intro id
    apply (Decode.element_concur hitems Json.Decode.string_respects).bind_eq
    intro map
    apply (Json.Decode.noMore_concur hitems 2).bind_eq
    intro _
    exact .ok rfl
  · exact .refl (fun _ => rfl) _

theorem GameServer.decode_respects : Decode.Respects agreement Eq decode := by
  have hoption := Json.Decode.string_respects.option_alike
  intro v w h
  rcases Agreement.record_cases h with ⟨ms, ns, rfl, rfl, hfields⟩ | ⟨vs, ws, rfl, rfl, hitems⟩ |
    ⟨rfl, -⟩
  · obtain ⟨hname, hanticheat, hip, hport⟩ := List.forall_iff_forall_mem.2 hfields
    apply (Decode.fieldD_concur hanticheat hoption rfl).bind_eq
    intro anticheat
    apply (Decode.field?_concur_eq hip Json.Decode.string_respects).bind_eq
    intro ip
    apply (Decode.field?_concur_eq hname Json.Decode.string_respects).bind_eq
    intro name
    apply (Decode.field?_concur_eq hport Json.Decode.uint16_respects).bind_eq
    intro port
    exact .refl (fun _ => rfl) _
  · apply (Decode.element_concur hitems Json.Decode.string_respects).bind_eq
    intro name
    have hanticheat := Json.Decode.rel_getElem? hitems 1
    generalize vs[1]? = o, ws[1]? = p at hanticheat
    -- What follows is read in the same way with and without an element here.
    rcases hanticheat with halike | _
    on_goal 1 => apply (hoption _ _ halike).bind_eq
    on_goal 2 => apply (Decode.Concur.refl (fun _ => rfl) (pure none)).bind_eq
    all_goals
      intro anticheat
      apply (Decode.element_concur hitems Json.Decode.string_respects).bind_eq
      intro ip
      apply (Decode.element_concur hitems Json.Decode.uint16_respects).bind_eq
      intro port
      apply (Json.Decode.noMore_concur hitems 4).bind_eq
      intro _
      exact .ok rfl
  · exact .refl (fun _ => rfl) _

theorem Pug.decodeTime_respects : Decode.Respects Value.Alike Eq decodeTime := by
  intro v w h
  apply (Json.Decode.int64_respects.option_alike v w h).map
  rintro time _ rfl
  rfl

theorem Pug.decode_respects :
    Decode.Respects agreement (fun p q => p.declared = q.declared) decode := by
  intro v w h
  apply (Decode.object_respects v w h).bind
  intro ms ns hfields
  obtain ⟨hid, hsize, hstate, hnamed, hmap, hforced, hadmin, hplayers, hcounts, hvotes, hstart, hend,
    hmaps, hserver⟩ := List.forall_iff_forall_mem.2 hfields
  -- The fields are read in the order of their names, each one alike before the next.
  apply (Decode.fieldD_concur hadmin Json.Decode.uint64_respects.option_alike rfl).bind_eq
  intro admin
  apply (Decode.field?_concur_eq hid Json.Decode.uint64_respects).bind_eq
  intro id
  apply (Decode.fieldD_concur hmap Json.Decode.string_respects.option_alike rfl).bind_eq
  intro map
  apply (Decode.fieldD_concur hforced Json.Decode.bool_respects rfl).bind_eq
  intro mapForced
  apply (Decode.fieldD_concur hcounts MapVoteCount.decode_respects.list_eq rfl).bind_eq
  intro mapVoteCounts
  apply (Decode.fieldD_concur hend decodeTime_respects rfl).bind_eq
  intro mapVoteEnd
  apply (Decode.fieldD_concur hstart decodeTime_respects rfl).bind_eq
  intro mapVoteStart
  apply (Decode.fieldD_concur hmaps Json.Decode.string_respects.list_eq rfl).bind_eq
  intro maps
  apply (Decode.fieldD_concur hnamed Json.Decode.string_respects rfl).bind_eq
  intro namedState
  apply (Decode.fieldD_concur hvotes PlayerVote.decode_respects.list_eq rfl).bind_eq
  intro playerVotes
  apply (Decode.fieldD_concur hplayers Player.decode_respects.list_map rfl).bind
  intro players players' hplayers
  apply (Decode.fieldD_concur hserver
    (GameServer.decode_respects.option fun _ _ => Agreement.alike_of_record) rfl).bind_eq
  intro server
  apply (Decode.fieldD_concur hsize Json.Decode.uint32_respects rfl).bind_eq
  intro size
  apply (Decode.fieldD_concur hstate Json.Decode.uint8_respects rfl).bind_eq
  intro state
  apply (Decode.Concur.refl (fun _ => rfl) _).bind_eq
  intro id
  apply Decode.Concur.ok
  simp only [declared, hplayers]

/-! ## Payloads -/

/-- The payload with its pugs and players reduced to their fields. -/
def Payload.declared : Payload → Payload
  | pugListing pugs => pugListing (pugs.map Pug.declared)
  | pugStatus pug => pugStatus pug.declared
  | pugCreated pug => pugCreated pug.declared
  | playerList players => playerList (players.map Player.declared)
  | playerAdded pug => playerAdded pug.declared
  | playerRemoved pug => playerRemoved pug.declared
  | mapVoteAdded pug => mapVoteAdded pug.declared
  | mapForced pug => mapForced pug.declared
  | payload => payload

/-- The entry that carries the payload of a code, if it has one. -/
def ResponseCode.entries : ResponseCode → List (String × Agreement)
  | pugListing => [("pugs", .list Pug.agreement)]
  | pugStatus | pugCreated | playerAdded | playerRemoved | mapVoteAdded | mapForced =>
    [("pug", Pug.agreement)]
  | pugEnded => [("id", Value.Alike)]
  | playerList => [("players", .list Player.agreement)]
  | _ => []

namespace Envelope

/-- The code that an object announces. -/
def code? (data : Members) : Option ResponseCode :=
  match data.get? "response" with
  | none => some .none
  | some v => (int64? v).bind ResponseCode.ofNumber?

/-- Answers that differ in entries only which their code does not call for. -/
structure Agree (data data' : Members) : Prop where
  response : Members.Agree [("response", Value.Alike)] data data'
  payload : ∀ code, code? data = some code → Members.Agree code.entries data data'

theorem entry_map {α : Type} {agreement : Agreement} {item : Json.Decoder α} {wrap : α → Payload}
    {code : ResponseCode} {data data' : Members} {name : String}
    (h : Option.Rel agreement (data.get? name) (data'.get? name))
    (hitem : Decode.Respects agreement (fun a b => (wrap a).declared = (wrap b).declared) item) :
    ((entry ⟨code, data⟩ name item).map wrap).map Payload.declared =
      ((entry ⟨code, data'⟩ name item).map wrap).map Payload.declared := by
  unfold entry
  generalize data.get? name = o, data'.get? name = p at h
  cases h with
  | none => rfl
  | @some v w hvw =>
    have hread := hitem v w hvw
    dsimp only
    generalize item v = x, item w = y at hread
    cases hread with
    | ok hab => exact congrArg Except.ok hab
    | error hmn =>
      dsimp only
      rw [hmn]

theorem payload_declared {code : ResponseCode} {data data' : Members}
    (h : Members.Agree code.entries data data') :
    (payload ⟨code, data⟩).map Payload.declared = (payload ⟨code, data'⟩).map Payload.declared := by
  cases code with
  | pugListing =>
    apply entry_map (h _ (.head _))
    apply Pug.decode_respects.list_map.mono
    intro ps qs hpugs
    exact congrArg Payload.pugListing hpugs
  | pugStatus | pugCreated | playerAdded | playerRemoved | mapVoteAdded | mapForced =>
    apply entry_map (h _ (.head _))
    apply Pug.decode_respects.mono
    intro p q hpug
    simp only [Payload.declared, hpug]
  | pugEnded =>
    apply entry_map (h _ (.head _))
    apply Json.Decode.uint64_respects.mono
    rintro id _ rfl
    rfl
  | playerList =>
    apply entry_map (h _ (.head _))
    apply Player.decode_respects.list_map.mono
    intro ps qs hplayers
    exact congrArg Payload.playerList hplayers
  | _ => rfl

theorem ofMembers_of_code? {data : Members} {code : ResponseCode} (h : code? data = some code)
    (endpoint : String) : ofMembers data endpoint = .ok ⟨code, data⟩ := by
  unfold code? at h
  unfold ofMembers
  cases hv : data.get? "response" with
  | none =>
    rw [hv] at h
    cases h
    rfl
  | some v =>
    rw [hv] at h
    obtain ⟨n, hn, hcode⟩ := Option.bind_eq_some_iff.1 h
    simp only [hn, hcode]

section Response

variable {data data' : Members}
  (h : Option.Rel Value.Alike (data.get? "response") (data'.get? "response"))
include h

theorem code?_congr : code? data = code? data' := by
  unfold code?
  generalize data.get? "response" = o, data'.get? "response" = p at h
  cases h with
  | none => rfl
  | some halike =>
    cases halike with
    | refl => rfl
    | array => rfl
    | object => rfl

/-- An answer without a code is refused, and so is the other. -/
theorem ofMembers_of_code?_eq_none (hcode : code? data = none) (endpoint : String) :
    ∃ f f', ofMembers data endpoint = .error f ∧ ofMembers data' endpoint = .error f' ∧
      (f = f' ∨ ∃ reason reason', f = .decode endpoint reason ∧ f' = .decode endpoint reason') := by
  unfold code? at hcode
  unfold ofMembers
  generalize data.get? "response" = o, data'.get? "response" = p at h hcode
  cases h with
  | none => cases hcode
  | @some v w halike =>
    cases halike with
    | array => exact ⟨_, _, rfl, rfl, .inr ⟨_, _, rfl, rfl⟩⟩
    | object => exact ⟨_, _, rfl, rfl, .inr ⟨_, _, rfl, rfl⟩⟩
    | refl =>
      dsimp only at hcode ⊢
      cases hv : int64? v with
      | none => exact ⟨_, _, rfl, rfl, .inl rfl⟩
      | some n =>
        rw [hv, Option.bind_some] at hcode
        simp only [hcode]
        exact ⟨_, _, rfl, rfl, .inl rfl⟩

end Response

/-- Two answers that agree have the same code and, but for what is kept beside fields, the same
payload or the same failure to have one; or both are refused, with the same failure or each as not
decodable. -/
theorem ofMembers_agree (endpoint : String) {data data' : Members} (h : Agree data data') :
    (∃ e e', ofMembers data endpoint = .ok e ∧ ofMembers data' endpoint = .ok e' ∧
      e.code = e'.code ∧ e.payload.map Payload.declared = e'.payload.map Payload.declared) ∨
    ∃ f f', ofMembers data endpoint = .error f ∧ ofMembers data' endpoint = .error f' ∧
      (f = f' ∨ ∃ reason reason', f = .decode endpoint reason ∧ f' = .decode endpoint reason') := by
  have hresponse := h.response _ (.head _)
  cases hcode : code? data with
  | none => exact .inr (ofMembers_of_code?_eq_none hresponse hcode endpoint)
  | some code =>
    left
    have hcode' : code? data' = some code := by rw [← code?_congr hresponse, hcode]
    exact ⟨_, _, ofMembers_of_code? hcode endpoint, ofMembers_of_code? hcode' endpoint, rfl,
      payload_declared (h.payload code hcode)⟩

/-- The same listing with and without an entry that is declared nowhere, at each depth. -/
theorem ofMembers_agree_listing :
    let joe (more : Members) : Value :=
      .object ([("id", .ofUInt64 15), ("name", .string "joe")] ++ more)
    let count (more : Members) : Value :=
      .object ([("count", .ofUInt32 1), ("map", .string "cp_granary")] ++ more)
    let vote (more : Members) : Value :=
      .object ([("id", .ofUInt64 15), ("map", .string "cp_granary")] ++ more)
    let server (more : Members) : Value :=
      .object ([("ip", .string "10.0.0.1"), ("name", .string "pug1"), ("port", .ofUInt16 27015)] ++ more)
    let pug (more : Members) : Value :=
      .object ([("id", .ofUInt64 4), ("map_vote_counts", .array [count more]),
        ("player_votes", .array [vote more]), ("players", .array [joe more]),
        ("server", server more)] ++ more)
    let answer (more : Members) : Members :=
      [("pugs", .array [pug more]), ("response", .ofUInt64 1000)] ++ more
    let more : Members := [("zone", .array [.null, .object [("id", .bool true)]])]
    Agree (answer []) (answer more) ∧
      ∃ e e', ofMembers (answer []) "ITF2Pug/List/" = .ok e ∧
        ofMembers (answer more) "ITF2Pug/List/" = .ok e' ∧ e.code = e'.code ∧
        e.payload.map Payload.declared = e'.payload.map Payload.declared := by
  intro joe count vote server pug answer more
  have hjoe : Player.agreement (joe []) (joe more) :=
    List.forall_iff_forall_mem.1 ⟨.some (.refl _), .some (.refl _)⟩
  have hcount : MapVoteCount.agreement (count []) (count more) :=
    List.forall_iff_forall_mem.1 ⟨.some (.refl _), .some (.refl _)⟩
  have hvote : PlayerVote.agreement (vote []) (vote more) :=
    List.forall_iff_forall_mem.1 ⟨.some (.refl _), .some (.refl _)⟩
  have hserver : GameServer.agreement (server []) (server more) :=
    List.forall_iff_forall_mem.1 ⟨.some (.refl _), .none, .some (.refl _), .some (.refl _)⟩
  have hpug : Pug.agreement (pug []) (pug more) :=
    List.forall_iff_forall_mem.1 ⟨.some (.refl _), .none, .none, .none, .none, .none, .none,
      .some (.cons hjoe .nil), .some (.cons hcount .nil), .some (.cons hvote .nil), .none, .none,
      .none, .some hserver⟩
  have h : Agree (answer []) (answer more) := by
    constructor
    · exact List.forall_iff_forall_mem.1 (.some (.refl _))
    · intro code hcode
      cases hcode
      exact List.forall_iff_forall_mem.1 (.some (.cons hpug .nil))
  refine ⟨h, (ofMembers_agree "ITF2Pug/List/" h).resolve_right ?_⟩
  rintro ⟨f, f', hf, -⟩
  cases hf

end Envelope

end PickupGame.Api
