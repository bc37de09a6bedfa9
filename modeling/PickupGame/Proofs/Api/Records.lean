import PickupGame.Api.Pug
import PickupGame.Proofs.Json.Shape

/-!
# What records are decoded from

For each record, what decoding it comes to: which members hold its fields, or that the value is the
array of them. Whatever is said of decoded records follows from this.
-/

namespace PickupGame.Api

open Json (Value Members Decode.Holds Decode.fieldD Decode.bind_eq_ok Decode.holds_iff
  Decode.element_eq_ok Decode.noMore_eq_ok Decode.DecodesPair)

theorem Player.decode_eq_ok {v : Value} {p : Player} :
    Player.decode v = .ok p ↔ ∃ ms : Members, v = .object ms ∧
      Decode.Holds ms "id" Json.Decode.uint64 p.id ∧
      Decode.Holds ms "name" Json.Decode.string p.name ∧ p.stats = ms.without fieldNames := by
  simp only [Player.decode, Decode.bind_eq_ok, Json.Decode.object_eq_ok, Decode.holds_iff]
  constructor
  · rintro ⟨ms, rfl, id?, hid?, name?, hname?, id, hid, name, hname, hp⟩
    cases hp
    exact ⟨ms, rfl, ⟨id?, hid?, hid⟩, ⟨name?, hname?, hname⟩, rfl⟩
  · rintro ⟨ms, rfl, ⟨id?, hid?, hid⟩, ⟨name?, hname?, hname⟩, hstats⟩
    refine ⟨ms, rfl, id?, hid?, name?, hname?, p.id, hid, p.name, hname, ?_⟩
    rw [← hstats]
    rfl

theorem MapVoteCount.decodesPair :
    Decode.DecodesPair decode "map" Json.Decode.string map "count" Json.Decode.uint32 count := by
  intro v c
  cases v with
  | object ms =>
    simp only [MapVoteCount.decode, Decode.bind_eq_ok, Decode.holds_iff]
    constructor
    · rintro ⟨count?, hcount?, map?, hmap?, map, hmap, count, hcount, hc⟩
      cases hc
      exact .inl ⟨ms, rfl, ⟨map?, hmap?, hmap⟩, ⟨count?, hcount?, hcount⟩⟩
    · rintro (⟨ms, ⟨⟩, ⟨map?, hmap?, hmap⟩, ⟨count?, hcount?, hcount⟩⟩ | ⟨map, count, ⟨⟩, -⟩)
      exact ⟨count?, hcount?, map?, hmap?, c.map, hmap, c.count, hcount, rfl⟩
  | array items =>
    simp only [MapVoteCount.decode, Decode.bind_eq_ok, Decode.element_eq_ok, Decode.noMore_eq_ok]
    constructor
    · rintro ⟨map, ⟨u, hu, hmap⟩, count, ⟨w, hw, hcount⟩, _, hlength, hc⟩
      cases hc
      exact .inr ⟨u, w, congrArg Value.array (Json.Decode.eq_pair hlength hu hw), hmap, hcount⟩
    · rintro (⟨ms, ⟨⟩, -⟩ | ⟨u, w, ⟨⟩, hmap, hcount⟩)
      exact ⟨c.map, ⟨u, rfl, hmap⟩, c.count, ⟨w, rfl, hcount⟩, (), le_refl 2, rfl⟩
  | _ => simp [MapVoteCount.decode]

theorem PlayerVote.decodesPair :
    Decode.DecodesPair decode "id" Json.Decode.uint64 id "map" Json.Decode.string map := by
  intro v r
  cases v with
  | object ms =>
    simp only [PlayerVote.decode, Decode.bind_eq_ok, Decode.holds_iff]
    constructor
    · rintro ⟨id?, hid?, map?, hmap?, id, hid, map, hmap, hr⟩
      cases hr
      exact .inl ⟨ms, rfl, ⟨id?, hid?, hid⟩, ⟨map?, hmap?, hmap⟩⟩
    · rintro (⟨ms, ⟨⟩, ⟨id?, hid?, hid⟩, ⟨map?, hmap?, hmap⟩⟩ | ⟨id, map, ⟨⟩, -⟩)
      exact ⟨id?, hid?, map?, hmap?, r.id, hid, r.map, hmap, rfl⟩
  | array items =>
    simp only [PlayerVote.decode, Decode.bind_eq_ok, Decode.element_eq_ok, Decode.noMore_eq_ok]
    constructor
    · rintro ⟨id, ⟨u, hu, hid⟩, map, ⟨w, hw, hmap⟩, _, hlength, hr⟩
      cases hr
      exact .inr ⟨u, w, congrArg Value.array (Json.Decode.eq_pair hlength hu hw), hid, hmap⟩
    · rintro (⟨ms, ⟨⟩, -⟩ | ⟨u, w, ⟨⟩, hid, hmap⟩)
      exact ⟨r.id, ⟨u, rfl, hid⟩, r.map, ⟨w, rfl, hmap⟩, (), le_refl 2, rfl⟩
  | _ => simp [PlayerVote.decode]

theorem GameServer.decode_eq_ok {v : Value} {s : GameServer} :
    GameServer.decode v = .ok s ↔
      (∃ ms, v = .object ms ∧ Decode.Holds ms "name" Json.Decode.string s.name ∧
        Decode.fieldD ms "anticheat" (Json.Decode.option Json.Decode.string) none =
          .ok s.anticheat ∧
        Decode.Holds ms "ip" Json.Decode.string s.ip ∧
        Decode.Holds ms "port" Json.Decode.uint16 s.port) ∨
      ∃ name anticheat ip port, v = .array [name, anticheat, ip, port] ∧
        Json.Decode.string name = .ok s.name ∧
        Json.Decode.option Json.Decode.string anticheat = .ok s.anticheat ∧
        Json.Decode.string ip = .ok s.ip ∧ Json.Decode.uint16 port = .ok s.port := by
  cases v with
  | object ms =>
    simp only [GameServer.decode, Decode.bind_eq_ok, Decode.holds_iff]
    constructor
    · rintro ⟨anticheat, hanticheat, ip?, hip?, name?, hname?, port?, hport?, name, hname, ip, hip,
        port, hport, hs⟩
      cases hs
      exact .inl ⟨ms, rfl, ⟨name?, hname?, hname⟩, hanticheat, ⟨ip?, hip?, hip⟩,
        ⟨port?, hport?, hport⟩⟩
    · rintro (⟨ms, ⟨⟩, ⟨name?, hname?, hname⟩, hanticheat, ⟨ip?, hip?, hip⟩, ⟨port?, hport?, hport⟩⟩ |
        ⟨name, anticheat, ip, port, ⟨⟩, -⟩)
      exact ⟨s.anticheat, hanticheat, ip?, hip?, name?, hname?, port?, hport?, s.name, hname, s.ip,
        hip, s.port, hport, rfl⟩
  | array items =>
    simp only [GameServer.decode, Decode.bind_eq_ok, Decode.element_eq_ok]
    constructor
    · rintro ⟨name, ⟨a, ha, hname⟩, h⟩
      cases hb : items[1]? with
      | none =>
        -- Without a second element there is no third one either.
        simp only [hb, Decode.bind_eq_ok, Decode.element_eq_ok] at h
        obtain ⟨_, -, ip, ⟨c, hc, -⟩, -⟩ := h
        have hshort := List.getElem?_eq_none_iff.1 hb
        obtain ⟨hlong, -⟩ := List.getElem?_eq_some_iff.1 hc
        omega
      | some b =>
        simp only [hb, Decode.bind_eq_ok, Decode.element_eq_ok, Decode.noMore_eq_ok] at h
        obtain ⟨anticheat, hanticheat, ip, ⟨c, hc, hip⟩, port, ⟨d, hd, hport⟩, _, hlength, hs⟩ := h
        cases hs
        have hitems := Json.Decode.eq_quadruple hlength ha hb hc hd
        exact .inr ⟨a, b, c, d, congrArg Value.array hitems, hname, hanticheat, hip, hport⟩
    · rintro (⟨ms, ⟨⟩, -⟩ | ⟨a, b, c, d, ⟨⟩, hname, hanticheat, hip, hport⟩)
      refine ⟨s.name, ⟨a, rfl, hname⟩, ?_⟩
      simp only [List.getElem?_cons_succ, List.getElem?_cons_zero, Decode.bind_eq_ok,
        Decode.element_eq_ok, Decode.noMore_eq_ok]
      exact ⟨s.anticheat, hanticheat, s.ip, ⟨c, rfl, hip⟩, s.port, ⟨d, rfl, hport⟩, (), le_refl 4, rfl⟩
  | _ => simp [GameServer.decode]

/-- Where each field of a pug is decoded from. -/
structure Pug.FoundIn (ms : Members) (p : Pug) : Prop where
  id : Decode.Holds ms "id" Json.Decode.uint64 p.id
  size : Decode.fieldD ms "size" Json.Decode.uint32 0 = .ok p.size
  state : Decode.fieldD ms "state" Json.Decode.uint8 0 = .ok p.state
  namedState : Decode.fieldD ms "named_state" Json.Decode.string "" = .ok p.namedState
  map : Decode.fieldD ms "map" (Json.Decode.option Json.Decode.string) none = .ok p.map
  mapForced : Decode.fieldD ms "map_forced" Json.Decode.bool false = .ok p.mapForced
  admin : Decode.fieldD ms "admin" (Json.Decode.option Json.Decode.uint64) none = .ok p.admin
  players : Decode.fieldD ms "players" (Json.Decode.list Player.decode) [] = .ok p.players
  mapVoteCounts : Decode.fieldD ms "map_vote_counts" (Json.Decode.list MapVoteCount.decode) [] =
    .ok p.mapVoteCounts
  playerVotes : Decode.fieldD ms "player_votes" (Json.Decode.list PlayerVote.decode) [] =
    .ok p.playerVotes
  mapVoteStart : Decode.fieldD ms "map_vote_start" decodeTime none = .ok p.mapVoteStart
  mapVoteEnd : Decode.fieldD ms "map_vote_end" decodeTime none = .ok p.mapVoteEnd
  maps : Decode.fieldD ms "maps" (Json.Decode.list Json.Decode.string) [] = .ok p.maps
  server : Decode.fieldD ms "server" (Json.Decode.option GameServer.decode) none = .ok p.server
  extra : p.extra = ms.without fieldNames

theorem Pug.decode_eq_ok {v : Value} {p : Pug} :
    Pug.decode v = .ok p ↔ ∃ ms, v = .object ms ∧ p.FoundIn ms := by
  simp only [Pug.decode, Decode.bind_eq_ok, Json.Decode.object_eq_ok]
  constructor
  · rintro ⟨ms, rfl, admin, hadmin, id?, hid?, map, hmap, mapForced, hforced, counts, hcounts,
      voteEnd, hend, voteStart, hstart, maps, hmaps, namedState, hnamed, votes, hvotes, players,
      hplayers, server, hserver, size, hsize, state, hstate, id, hid, hp⟩
    cases hp
    exact ⟨ms, rfl, Decode.holds_iff.2 ⟨id?, hid?, hid⟩, hsize, hstate, hnamed, hmap, hforced,
      hadmin, hplayers, hcounts, hvotes, hstart, hend, hmaps, hserver, rfl⟩
  · rintro ⟨ms, rfl, h⟩
    obtain ⟨id?, hid?, hid⟩ := Decode.holds_iff.1 h.id
    refine ⟨ms, rfl, _, h.admin, id?, hid?, _, h.map, _, h.mapForced, _, h.mapVoteCounts, _,
      h.mapVoteEnd, _, h.mapVoteStart, _, h.maps, _, h.namedState, _, h.playerVotes, _, h.players, _,
      h.server, _, h.size, _, h.state, _, hid, ?_⟩
    rw [← h.extra]
    rfl

end PickupGame.Api
