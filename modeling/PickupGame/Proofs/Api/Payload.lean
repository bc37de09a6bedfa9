import PickupGame.Api.Payload
import PickupGame.Proofs.Api.Records

/-!
# Which envelopes have a payload

The entry that a response code calls for has to be there and to be of the right shape, down to the
last field of the last record. Nothing else is asked of an envelope.
-/

namespace PickupGame.Api

open Json (Value Members Shape Decode.Accepts Decode.Holds Decode.exists_holds_iff
  Decode.exists_fieldD_iff)

/-! ## Shapes of records -/

def Player.shape : Shape :=
  .record [("id", .natural Numeral.maxU64), ("name", .string)] []

/-- The records without entries of their own may also be the arrays of their fields. -/
def MapVoteCount.shape : Shape := fun v =>
  Shape.record [("map", .string), ("count", .natural Numeral.maxU32)] [] v ∨
    Shape.tuple [.string, .natural Numeral.maxU32] v

def PlayerVote.shape : Shape := fun v =>
  Shape.record [("id", .natural Numeral.maxU64), ("map", .string)] [] v ∨
    Shape.tuple [.natural Numeral.maxU64, .string] v

def GameServer.shape : Shape := fun v =>
  Shape.record [("name", .string), ("ip", .string), ("port", .natural Numeral.maxU16)]
      [("anticheat", .nullable .string)] v ∨
    Shape.tuple [.string, .nullable .string, .string, .natural Numeral.maxU16] v

def Pug.shape : Shape :=
  .record [("id", .natural Numeral.maxU64)]
    [("size", .natural Numeral.maxU32), ("state", .natural 255), ("named_state", .string),
      ("map", .nullable .string), ("map_forced", .bool), ("admin", .nullable (.natural Numeral.maxU64)),
      ("players", .list Player.shape), ("map_vote_counts", .list MapVoteCount.shape),
      ("player_votes", .list PlayerVote.shape), ("map_vote_start", .nullable .int64),
      ("map_vote_end", .nullable .int64), ("maps", .list .string),
      ("server", .nullable GameServer.shape)]

theorem Player.decode_accepts : Decode.Accepts decode shape := by
  intro v
  constructor
  · rintro ⟨p, hp⟩
    obtain ⟨ms, rfl, hid, hname, -⟩ := decode_eq_ok.1 hp
    have hid := (Decode.exists_holds_iff Json.Decode.uint64_accepts).1 ⟨_, hid⟩
    have hname := (Decode.exists_holds_iff Json.Decode.string_accepts).1 ⟨_, hname⟩
    exact ⟨ms, rfl, List.forall_iff_forall_mem.1 ⟨hid, hname⟩, nofun⟩
  · rintro ⟨ms, rfl, hrequired, -⟩
    obtain ⟨hid, hname⟩ := List.forall_iff_forall_mem.2 hrequired
    obtain ⟨id, hid⟩ := (Decode.exists_holds_iff Json.Decode.uint64_accepts).2 hid
    obtain ⟨name, hname⟩ := (Decode.exists_holds_iff Json.Decode.string_accepts).2 hname
    exact ⟨⟨id, name, _⟩, decode_eq_ok.2 ⟨ms, rfl, hid, hname, rfl⟩⟩

theorem MapVoteCount.decode_accepts : Decode.Accepts decode shape :=
  decodesPair.accepts (fun map count => ⟨⟨map, count⟩, rfl, rfl⟩) Json.Decode.string_accepts
    Json.Decode.uint32_accepts

theorem PlayerVote.decode_accepts : Decode.Accepts decode shape :=
  decodesPair.accepts (fun id map => ⟨⟨id, map⟩, rfl, rfl⟩) Json.Decode.uint64_accepts
    Json.Decode.string_accepts

theorem GameServer.decode_accepts : Decode.Accepts decode shape := by
  have hoption := Json.Decode.string_accepts.option
  intro v
  constructor
  · rintro ⟨s, hs⟩
    rcases decode_eq_ok.1 hs with ⟨ms, rfl, hname, hanticheat, hip, hport⟩ |
      ⟨name, anticheat, ip, port, rfl, hname, hanticheat, hip, hport⟩
    · have hname := (Decode.exists_holds_iff Json.Decode.string_accepts).1 ⟨_, hname⟩
      have hanticheat := (Decode.exists_fieldD_iff hoption).1 ⟨_, hanticheat⟩
      have hip := (Decode.exists_holds_iff Json.Decode.string_accepts).1 ⟨_, hip⟩
      have hport := (Decode.exists_holds_iff Json.Decode.uint16_accepts).1 ⟨_, hport⟩
      exact .inl ⟨ms, rfl, List.forall_iff_forall_mem.1 ⟨hname, hip, hport⟩,
        List.forall_mem_singleton.2 hanticheat⟩
    · have hname := (Json.Decode.string_accepts name).1 ⟨_, hname⟩
      have hanticheat := (hoption anticheat).1 ⟨_, hanticheat⟩
      have hip := (Json.Decode.string_accepts ip).1 ⟨_, hip⟩
      have hport := (Json.Decode.uint16_accepts port).1 ⟨_, hport⟩
      exact .inr (Shape.tuple_quadruple.2 ⟨_, _, _, _, rfl, hname, hanticheat, hip, hport⟩)
  · rintro (⟨ms, rfl, hrequired, hoptional⟩ | htuple)
    · obtain ⟨hname, hip, hport⟩ := List.forall_iff_forall_mem.2 hrequired
      obtain ⟨name, hname⟩ := (Decode.exists_holds_iff Json.Decode.string_accepts).2 hname
      obtain ⟨anticheat, hanticheat⟩ :=
        (Decode.exists_fieldD_iff hoption).2 (hoptional _ (.head _))
      obtain ⟨ip, hip⟩ := (Decode.exists_holds_iff Json.Decode.string_accepts).2 hip
      obtain ⟨port, hport⟩ := (Decode.exists_holds_iff Json.Decode.uint16_accepts).2 hport
      exact ⟨⟨name, anticheat, ip, port⟩,
        decode_eq_ok.2 (.inl ⟨ms, rfl, hname, hanticheat, hip, hport⟩)⟩
    · obtain ⟨a, b, c, d, rfl, hname, hanticheat, hip, hport⟩ := Shape.tuple_quadruple.1 htuple
      obtain ⟨name, hname⟩ := (Json.Decode.string_accepts a).2 hname
      obtain ⟨anticheat, hanticheat⟩ := (hoption b).2 hanticheat
      obtain ⟨ip, hip⟩ := (Json.Decode.string_accepts c).2 hip
      obtain ⟨port, hport⟩ := (Json.Decode.uint16_accepts d).2 hport
      exact ⟨⟨name, anticheat, ip, port⟩,
        decode_eq_ok.2 (.inr ⟨a, b, c, d, rfl, hname, hanticheat, hip, hport⟩)⟩

theorem Pug.decodeTime_accepts : Decode.Accepts decodeTime (.nullable .int64) :=
  Json.Decode.int64_accepts.option.map _

theorem Pug.decode_accepts : Decode.Accepts decode shape := by
  have hnumber := Json.Decode.uint64_accepts
  have hstring := Json.Decode.string_accepts
  have hplayers := Player.decode_accepts.list
  have hcounts := MapVoteCount.decode_accepts.list
  have hvotes := PlayerVote.decode_accepts.list
  have hserver := GameServer.decode_accepts.option
  intro v
  constructor
  · rintro ⟨p, hp⟩
    obtain ⟨ms, rfl, h⟩ := decode_eq_ok.1 hp
    refine ⟨ms, rfl, List.forall_mem_singleton.2 ((Decode.exists_holds_iff hnumber).1 ⟨_, h.id⟩),
      List.forall_iff_forall_mem.1 ⟨?_, ?_, ?_, ?_, ?_, ?_, ?_, ?_, ?_, ?_, ?_, ?_, ?_⟩⟩
    · exact (Decode.exists_fieldD_iff Json.Decode.uint32_accepts).1 ⟨_, h.size⟩
    · exact (Decode.exists_fieldD_iff Json.Decode.uint8_accepts).1 ⟨_, h.state⟩
    · exact (Decode.exists_fieldD_iff hstring).1 ⟨_, h.namedState⟩
    · exact (Decode.exists_fieldD_iff hstring.option).1 ⟨_, h.map⟩
    · exact (Decode.exists_fieldD_iff Json.Decode.bool_accepts).1 ⟨_, h.mapForced⟩
    · exact (Decode.exists_fieldD_iff hnumber.option).1 ⟨_, h.admin⟩
    · exact (Decode.exists_fieldD_iff hplayers).1 ⟨_, h.players⟩
    · exact (Decode.exists_fieldD_iff hcounts).1 ⟨_, h.mapVoteCounts⟩
    · exact (Decode.exists_fieldD_iff hvotes).1 ⟨_, h.playerVotes⟩
    · exact (Decode.exists_fieldD_iff decodeTime_accepts).1 ⟨_, h.mapVoteStart⟩
    · exact (Decode.exists_fieldD_iff decodeTime_accepts).1 ⟨_, h.mapVoteEnd⟩
    · exact (Decode.exists_fieldD_iff hstring.list).1 ⟨_, h.maps⟩
    · exact (Decode.exists_fieldD_iff hserver).1 ⟨_, h.server⟩
  · rintro ⟨ms, rfl, hrequired, hoptional⟩
    obtain ⟨hsize, hstate, hnamed, hmap, hforced, hadmin, hplayers', hcounts', hvotes', hstart, hend,
      hmaps, hserver'⟩ := List.forall_iff_forall_mem.2 hoptional
    obtain ⟨id, hid⟩ := (Decode.exists_holds_iff hnumber).2 (hrequired _ (.head _))
    obtain ⟨size, hsize⟩ := (Decode.exists_fieldD_iff Json.Decode.uint32_accepts).2 hsize
    obtain ⟨state, hstate⟩ := (Decode.exists_fieldD_iff Json.Decode.uint8_accepts).2 hstate
    obtain ⟨namedState, hnamed⟩ := (Decode.exists_fieldD_iff hstring).2 hnamed
    obtain ⟨map, hmap⟩ := (Decode.exists_fieldD_iff hstring.option).2 hmap
    obtain ⟨mapForced, hforced⟩ := (Decode.exists_fieldD_iff Json.Decode.bool_accepts).2 hforced
    obtain ⟨admin, hadmin⟩ := (Decode.exists_fieldD_iff hnumber.option).2 hadmin
    obtain ⟨players, hplayers⟩ := (Decode.exists_fieldD_iff hplayers).2 hplayers'
    obtain ⟨counts, hcounts⟩ := (Decode.exists_fieldD_iff hcounts).2 hcounts'
    obtain ⟨votes, hvotes⟩ := (Decode.exists_fieldD_iff hvotes).2 hvotes'
    obtain ⟨voteStart, hstart⟩ := (Decode.exists_fieldD_iff decodeTime_accepts).2 hstart
    obtain ⟨voteEnd, hend⟩ := (Decode.exists_fieldD_iff decodeTime_accepts).2 hend
    obtain ⟨maps, hmaps⟩ := (Decode.exists_fieldD_iff hstring.list).2 hmaps
    obtain ⟨server, hserver⟩ := (Decode.exists_fieldD_iff hserver).2 hserver'
    exact ⟨⟨id, size, state, namedState, map, mapForced, admin, players, counts, votes, voteStart,
      voteEnd, maps, server, _⟩, decode_eq_ok.2 ⟨ms, rfl, hid, hsize, hstate,
        hnamed, hmap, hforced, hadmin, hplayers, hcounts, hvotes, hstart, hend, hmaps, hserver, rfl⟩⟩

/-! ## Payloads -/

/-- The entry that carries the payload of a code, and what it has to be. -/
def ResponseCode.needs? : ResponseCode → Option (String × Shape)
  | pugListing => some ("pugs", .list Pug.shape)
  | pugStatus | pugCreated | playerAdded | playerRemoved | mapVoteAdded | mapForced =>
    some ("pug", Pug.shape)
  | pugEnded => some ("id", .natural Numeral.maxU64)
  | playerList => some ("players", .list Player.shape)
  | _ => Option.none

/-- The codes with which the server tells about one pug. -/
def ResponseCode.ofOnePug : List ResponseCode :=
  [pugStatus, pugCreated, playerAdded, playerRemoved, mapVoteAdded, mapForced]

theorem Payload.isSome_pug?_iff (p : Payload) :
    p.pug?.isSome = true ↔ p.code ∈ ResponseCode.ofOnePug := by
  cases p <;> simp [pug?, code, ResponseCode.ofOnePug]

/-- What the payload carries is decoded from the entry for it. -/
def Payload.FoundIn (data : Members) : Payload → Prop
  | pugListing pugs => Decode.Holds data "pugs" (Json.Decode.list Pug.decode) pugs
  | pugStatus pug | pugCreated pug | playerAdded pug | playerRemoved pug | mapVoteAdded pug
  | mapForced pug => Decode.Holds data "pug" Pug.decode pug
  | pugEnded id => Decode.Holds data "id" Json.Decode.uint64 id
  | playerList players => Decode.Holds data "players" (Json.Decode.list Player.decode) players
  | _ => True

namespace Envelope

/-- What the code of the envelope needs is there. -/
def Supplied (e : Envelope) : Prop :=
  ∀ name shape, e.code.needs? = some (name, shape) → e.data.Requires name shape

/-- The payload is one for the code, and carries what was sent. -/
structure Fits (e : Envelope) (p : Payload) : Prop where
  code : p.code = e.code
  found : p.FoundIn e.data
  hasPug : p.pug?.isSome = true ↔ e.code ∈ ResponseCode.ofOnePug

/-- The failures of an envelope to have a payload, by what is wrong with the entry it needs. -/
inductive Refuses (e : Envelope) : Failure → Prop
  | missing {name : String} {shape : Shape} (hneeds : e.code.needs? = some (name, shape))
      (hget : e.data.get? name = none) :
      Refuses e (.payload e.code.name s!"missing '{name}'")
  | invalid {name : String} {shape : Shape} {v : Value} (reason : String)
      (hneeds : e.code.needs? = some (name, shape)) (hget : e.data.get? name = some v)
      (hshape : ¬ shape v) : Refuses e (.payload e.code.name s!"invalid '{name}': {reason}")

variable {e : Envelope}

theorem Fits.of_code {p : Payload} (hcode : p.code = e.code) (hfound : p.FoundIn e.data) :
    e.Fits p :=
  ⟨hcode, hfound, hcode ▸ p.isSome_pug?_iff⟩

theorem accounted_of_entry {α : Type} {item : Json.Decoder α} {shape : Shape} {name : String}
    {wrap : α → Payload} (haccepts : Decode.Accepts item shape)
    (hneeds : e.code.needs? = some (name, shape))
    (hpayload : e.payload = (e.entry name item).map wrap)
    (hfits : ∀ a, Decode.Holds e.data name item a → e.Fits (wrap a)) :
    (e.Supplied ∧ ∃ p, e.payload = .ok p ∧ e.Fits p) ∨
      (¬ e.Supplied ∧ ∃ f, e.payload = .error f ∧ e.Refuses f) := by
  have hsupplied : e.Supplied ↔ e.data.Requires name shape := by
    constructor
    · intro h
      exact h name shape hneeds
    · rintro h _ _ hneeds'
      rw [hneeds] at hneeds'
      cases hneeds'
      exact h
  rw [hsupplied, ← Decode.exists_holds_iff haccepts, hpayload, entry]
  cases hget : e.data.get? name with
  | none =>
    right
    refine ⟨?_, _, rfl, .missing hneeds hget⟩
    rintro ⟨a, v, hv, -⟩
    rw [hget] at hv
    cases hv
  | some v =>
    cases hread : item v with
    | ok a =>
      have ha : Decode.Holds e.data name item a := ⟨v, hget, hread⟩
      simp only [hread]
      exact .inl ⟨⟨a, ha⟩, wrap a, rfl, hfits a ha⟩
    | error m =>
      simp only [hread]
      right
      refine ⟨?_, _, rfl, .invalid m.message hneeds hget ?_⟩
      · rintro ⟨a, w, hw, ha⟩
        rw [hget] at hw
        cases hw
        rw [hread] at ha
        cases ha
      · intro hshape
        obtain ⟨a, ha⟩ := (haccepts v).2 hshape
        rw [hread] at ha
        cases ha

/-- An envelope has a payload just if what its code needs is there, and it is one for the code. Else
the failure names the code, and says which entry is missing or invalid. -/
theorem payload_accounted (e : Envelope) :
    (e.Supplied ∧ ∃ p, e.payload = .ok p ∧ e.Fits p) ∨
      (¬ e.Supplied ∧ ∃ f, e.payload = .error f ∧ e.Refuses f) := by
  obtain ⟨code, data⟩ := e
  cases code with
  | pugListing =>
    exact accounted_of_entry Pug.decode_accepts.list rfl rfl fun _ hpugs => .of_code rfl hpugs
  | pugStatus | pugCreated | playerAdded | playerRemoved | mapVoteAdded | mapForced =>
    exact accounted_of_entry Pug.decode_accepts rfl rfl fun _ hpug => .of_code rfl hpug
  | pugEnded =>
    exact accounted_of_entry Json.Decode.uint64_accepts rfl rfl fun _ hid => .of_code rfl hid
  | playerList =>
    exact accounted_of_entry Player.decode_accepts.list rfl rfl fun _ hplayers => .of_code rfl hplayers
  | _ => exact .inl ⟨nofun, _, rfl, .of_code rfl trivial⟩

end Envelope

end PickupGame.Api
