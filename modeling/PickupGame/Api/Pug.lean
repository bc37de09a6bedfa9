import PickupGame.Json.Decode

/-!
# Pugs and their parts

A pug is one pick-up game: its players, the vote on its map and its game server. Entries of a pug or
a player that have no field of their own are kept beside the fields; those of the other records are
dropped. Writing a record gives all fields, with null for what is not set.
-/

namespace PickupGame.Api

open Json (Value Members Mismatch Decoder Decode.field? Decode.fieldD Decode.required
  Decode.element Decode.noMore)

/-- Where a pug stands between gathering players and the end of the game. -/
inductive Lifecycle
  | gatheringPlayers
  | mapVoting
  | mapVoteCompleted
  | gameStarted
  | gameOver
  deriving DecidableEq, Repr

namespace Lifecycle

def ofNumber? : Nat → Option Lifecycle
  | 0 => some gatheringPlayers
  | 1 => some mapVoting
  | 2 => some mapVoteCompleted
  | 3 => some gameStarted
  | 4 => some gameOver
  | _ => none

def name : Lifecycle → String
  | gatheringPlayers => "GatheringPlayers"
  | mapVoting => "MapVoting"
  | mapVoteCompleted => "MapVoteCompleted"
  | gameStarted => "GameStarted"
  | gameOver => "GameOver"

end Lifecycle

/-- A player with the statistics that the server adds to the entry. -/
structure Player where
  id : UInt64
  name : String
  stats : Members

structure MapVoteCount where
  map : String
  count : UInt32
  deriving DecidableEq, Repr

structure PlayerVote where
  id : UInt64
  map : String
  deriving DecidableEq, Repr

structure GameServer where
  name : String
  anticheat : Option String
  ip : String
  port : UInt16
  deriving DecidableEq, Repr

/-- The times at which a vote starts and ends are in seconds since 1970, unset while negative. -/
structure Pug where
  id : UInt64
  size : UInt32
  state : UInt8
  namedState : String
  map : Option String
  mapForced : Bool
  admin : Option UInt64
  players : List Player
  mapVoteCounts : List MapVoteCount
  playerVotes : List PlayerVote
  mapVoteStart : Option Int64
  mapVoteEnd : Option Int64
  maps : List String
  server : Option GameServer
  extra : Members

/-! ## Decoding -/

namespace Player

def fieldNames : List String := ["id", "name"]

def decode : Decoder Player := fun v => do
  let ms ← Json.Decode.object "struct Player" v
  let id ← Decode.field? ms "id" Json.Decode.uint64
  let name ← Decode.field? ms "name" Json.Decode.string
  let id ← Decode.required "id" id
  let name ← Decode.required "name" name
  return { id, name, stats := ms.without fieldNames }

end Player

namespace MapVoteCount

def decode : Decoder MapVoteCount
  | .object ms => do
    let count ← Decode.field? ms "count" Json.Decode.uint32
    let map ← Decode.field? ms "map" Json.Decode.string
    let map ← Decode.required "map" map
    let count ← Decode.required "count" count
    return { map, count }
  | .array items => do
    let wanted := "struct MapVoteCount with 2 elements"
    let map ← Decode.element items 0 wanted Json.Decode.string
    let count ← Decode.element items 1 wanted Json.Decode.uint32
    Decode.noMore items 2
    return { map, count }
  | v => .error (.type v "struct MapVoteCount")

end MapVoteCount

namespace PlayerVote

def decode : Decoder PlayerVote
  | .object ms => do
    let id ← Decode.field? ms "id" Json.Decode.uint64
    let map ← Decode.field? ms "map" Json.Decode.string
    let id ← Decode.required "id" id
    let map ← Decode.required "map" map
    return { id, map }
  | .array items => do
    let wanted := "struct PlayerVote with 2 elements"
    let id ← Decode.element items 0 wanted Json.Decode.uint64
    let map ← Decode.element items 1 wanted Json.Decode.string
    Decode.noMore items 2
    return { id, map }
  | v => .error (.type v "struct PlayerVote")

end PlayerVote

namespace GameServer

def decode : Decoder GameServer
  | .object ms => do
    let anticheat ← Decode.fieldD ms "anticheat" (Json.Decode.option Json.Decode.string) none
    let ip ← Decode.field? ms "ip" Json.Decode.string
    let name ← Decode.field? ms "name" Json.Decode.string
    let port ← Decode.field? ms "port" Json.Decode.uint16
    let name ← Decode.required "name" name
    let ip ← Decode.required "ip" ip
    let port ← Decode.required "port" port
    return { name, anticheat, ip, port }
  | .array items => do
    let wanted := "struct GameServer with 4 elements"
    let name ← Decode.element items 0 wanted Json.Decode.string
    let anticheat ← match items[1]? with
      | some v => Json.Decode.option Json.Decode.string v
      | none => pure none
    let ip ← Decode.element items 2 wanted Json.Decode.string
    let port ← Decode.element items 3 wanted Json.Decode.uint16
    Decode.noMore items 4
    return { name, anticheat, ip, port }
  | v => .error (.type v "struct GameServer")

end GameServer

namespace Pug

def fieldNames : List String :=
  ["id", "size", "state", "named_state", "map", "map_forced", "admin", "players",
    "map_vote_counts", "player_votes", "map_vote_start", "map_vote_end", "maps", "server"]

/-- A time that may be unset, by null or by a negative number. -/
def decodeTime : Decoder (Option Int64) := fun v =>
  (Json.Decode.option Json.Decode.int64 v).map (·.filter (0 ≤ ·))

def decode : Decoder Pug := fun v => do
  let ms ← Json.Decode.object "struct Pug" v
  let admin ← Decode.fieldD ms "admin" (Json.Decode.option Json.Decode.uint64) none
  let id ← Decode.field? ms "id" Json.Decode.uint64
  let map ← Decode.fieldD ms "map" (Json.Decode.option Json.Decode.string) none
  let mapForced ← Decode.fieldD ms "map_forced" Json.Decode.bool false
  let mapVoteCounts ← Decode.fieldD ms "map_vote_counts" (Json.Decode.list MapVoteCount.decode) []
  let mapVoteEnd ← Decode.fieldD ms "map_vote_end" decodeTime none
  let mapVoteStart ← Decode.fieldD ms "map_vote_start" decodeTime none
  let maps ← Decode.fieldD ms "maps" (Json.Decode.list Json.Decode.string) []
  let namedState ← Decode.fieldD ms "named_state" Json.Decode.string ""
  let playerVotes ← Decode.fieldD ms "player_votes" (Json.Decode.list PlayerVote.decode) []
  let players ← Decode.fieldD ms "players" (Json.Decode.list Player.decode) []
  let server ← Decode.fieldD ms "server" (Json.Decode.option GameServer.decode) none
  let size ← Decode.fieldD ms "size" Json.Decode.uint32 0
  let state ← Decode.fieldD ms "state" Json.Decode.uint8 0
  let id ← Decode.required "id" id
  return { id, size, state, namedState, map, mapForced, admin, players, mapVoteCounts, playerVotes,
           mapVoteStart, mapVoteEnd, maps, server, extra := ms.without fieldNames }

end Pug

/-! ## Encoding -/

/-- A value that may be absent, absence being null. -/
def encodeOption {α : Type} (item : α → Value) : Option α → Value
  | none => .null
  | some a => item a

def Player.encode (p : Player) : Value :=
  .object (Members.ofList ([("id", .ofUInt64 p.id), ("name", .string p.name)] ++ p.stats))

def MapVoteCount.encode (c : MapVoteCount) : Value :=
  .object (Members.ofList [("map", .string c.map), ("count", .ofUInt32 c.count)])

def PlayerVote.encode (v : PlayerVote) : Value :=
  .object (Members.ofList [("id", .ofUInt64 v.id), ("map", .string v.map)])

def GameServer.encode (s : GameServer) : Value :=
  .object (Members.ofList [("name", .string s.name), ("anticheat", encodeOption .string s.anticheat),
    ("ip", .string s.ip), ("port", .ofUInt16 s.port)])

def Pug.fields (p : Pug) : List (String × Value) :=
  [("id", .ofUInt64 p.id), ("size", .ofUInt32 p.size), ("state", .ofUInt8 p.state),
    ("named_state", .string p.namedState), ("map", encodeOption .string p.map),
    ("map_forced", .bool p.mapForced), ("admin", encodeOption .ofUInt64 p.admin),
    ("players", .array (p.players.map Player.encode)),
    ("map_vote_counts", .array (p.mapVoteCounts.map MapVoteCount.encode)),
    ("player_votes", .array (p.playerVotes.map PlayerVote.encode)),
    ("map_vote_start", encodeOption .ofInt64 p.mapVoteStart),
    ("map_vote_end", encodeOption .ofInt64 p.mapVoteEnd),
    ("maps", .array (p.maps.map .string)), ("server", encodeOption GameServer.encode p.server)]

def Pug.encode (p : Pug) : Value :=
  .object (Members.ofList (p.fields ++ p.extra))

/-! ## Questions to a pug -/

namespace Pug

def lifecycle? (p : Pug) : Option Lifecycle :=
  Lifecycle.ofNumber? p.state.toNat

def playerCount (p : Pug) : Nat :=
  p.players.length

/-- A pug without a size is never full. -/
def isFull (p : Pug) : Bool :=
  0 < p.size.toNat && p.size.toNat ≤ p.playerCount

/-- The votes for a map by its first entry; a map without one has none. -/
def votesFor (p : Pug) (map : String) : UInt32 :=
  match p.mapVoteCounts.find? (·.map = map) with
  | some c => c.count
  | none => 0

/-- The last second of the calendar, at the end of the year 262142. -/
def lastDeadline : Nat := 8210266876799

/-- When the vote on the map closes, in seconds since 1970, if the calendar reaches that far. -/
def deadline? (p : Pug) : Option Nat :=
  match p.mapVoteEnd with
  | some t => if 0 ≤ t.toInt ∧ t.toInt.toNat ≤ lastDeadline then some t.toInt.toNat else none
  | none => none

end Pug

end PickupGame.Api
