import PickupGame.Api.Pug
import PickupGame.Proofs.Json.Decode

/-!
# Records survive being written

A pug and each of its parts is decoded as it was encoded. What a pug and its players keep beside
their fields must not have the names of these, and times must not be negative; both hold of whatever
has been decoded.
-/

namespace PickupGame.Api

open Json (Value Members Decode.bind_eq_ok Decode.map_eq_ok Decode.field?_of_get?
  Decode.fieldD_of_get? Decode.fieldD_cases Decode.list_map)

/-- Other entries than those of the fields, in order. -/
structure Player.Regular (p : Player) : Prop where
  ascending : p.stats.Ascending
  apart : ∀ name ∈ fieldNames, name ∉ p.stats.keys

structure Pug.Regular (p : Pug) : Prop where
  ascending : p.extra.Ascending
  apart : ∀ name ∈ fieldNames, name ∉ p.extra.keys
  voteStart : ∀ t, p.mapVoteStart = some t → 0 ≤ t
  voteEnd : ∀ t, p.mapVoteEnd = some t → 0 ≤ t
  players : ∀ q ∈ p.players, q.Regular

/-! ## Encoding and decoding -/

theorem option_encodeOption {α : Type} {item : Json.Decoder α} {write : α → Value}
    (hnull : ∀ a, write a ≠ .null) (hitem : ∀ a, item (write a) = .ok a) (o : Option α) :
    Json.Decode.option item (encodeOption write o) = .ok o := by
  cases o with
  | none => rfl
  | some a =>
    rw [encodeOption, Json.Decode.option_of_ne_null (hnull a), hitem]
    rfl

theorem Player.Regular.decode_encode {p : Player} (h : p.Regular) : Player.decode p.encode = .ok p := by
  let fields : Members := [("id", .ofUInt64 p.id), ("name", .string p.name)]
  have hnames : fields.keys = fieldNames := rfl
  have hfields : fields.keys.Nodup := by rw [hnames]; decide
  have hget (key : String) {v : Value} (hv : fields.get? key = some v) :=
    Members.get?_ofList_field hfields h.ascending h.apart hv
  have hid := Decode.field?_of_get? (hget "id" rfl) (Json.Decode.uint64_ofUInt64 p.id)
  have hname := Decode.field?_of_get? (hget "name" rfl) (Json.Decode.string_string p.name)
  have hstats := Members.without_ofList_append hfields h.ascending h.apart
  change Player.decode (.object (Members.ofList (fields ++ p.stats))) = .ok p
  simp only [Player.decode, Json.Decode.object, hid, hname, Json.Decode.required, bind, Except.bind,
    pure, Except.pure]
  exact congrArg (fun stats => Except.ok { p with stats := stats }) hstats

theorem MapVoteCount.decode_encode (c : MapVoteCount) : MapVoteCount.decode c.encode = .ok c := by
  let fields : Members := [("map", .string c.map), ("count", .ofUInt32 c.count)]
  have hnames : fields.keys = ["map", "count"] := rfl
  have hfields : fields.keys.Nodup := by rw [hnames]; decide
  have hget (key : String) {v : Value} (hv : fields.get? key = some v) :=
    (Members.get?_ofList hfields key).trans hv
  have hcount := Decode.field?_of_get? (hget "count" rfl) (Json.Decode.uint32_ofUInt32 c.count)
  have hmap := Decode.field?_of_get? (hget "map" rfl) (Json.Decode.string_string c.map)
  change MapVoteCount.decode (.object (Members.ofList fields)) = .ok c
  simp only [MapVoteCount.decode, hcount, hmap, Json.Decode.required, bind, Except.bind, pure,
    Except.pure]

theorem PlayerVote.decode_encode (v : PlayerVote) : PlayerVote.decode v.encode = .ok v := by
  let fields : Members := [("id", .ofUInt64 v.id), ("map", .string v.map)]
  have hnames : fields.keys = ["id", "map"] := rfl
  have hfields : fields.keys.Nodup := by rw [hnames]; decide
  have hget (key : String) {w : Value} (hw : fields.get? key = some w) :=
    (Members.get?_ofList hfields key).trans hw
  have hid := Decode.field?_of_get? (hget "id" rfl) (Json.Decode.uint64_ofUInt64 v.id)
  have hmap := Decode.field?_of_get? (hget "map" rfl) (Json.Decode.string_string v.map)
  change PlayerVote.decode (.object (Members.ofList fields)) = .ok v
  simp only [PlayerVote.decode, hid, hmap, Json.Decode.required, bind, Except.bind, pure, Except.pure]

theorem GameServer.decode_encode (s : GameServer) : GameServer.decode s.encode = .ok s := by
  let fields : Members := [("name", .string s.name),
    ("anticheat", encodeOption .string s.anticheat), ("ip", .string s.ip), ("port", .ofUInt16 s.port)]
  have hnames : fields.keys = ["name", "anticheat", "ip", "port"] := rfl
  have hfields : fields.keys.Nodup := by rw [hnames]; decide
  have hget (key : String) {v : Value} (hv : fields.get? key = some v) :=
    (Members.get?_ofList hfields key).trans hv
  have hanticheat := Decode.fieldD_of_get? (hget "anticheat" rfl)
    (option_encodeOption (by nofun) Json.Decode.string_string s.anticheat) none
  have hip := Decode.field?_of_get? (hget "ip" rfl) (Json.Decode.string_string s.ip)
  have hname := Decode.field?_of_get? (hget "name" rfl) (Json.Decode.string_string s.name)
  have hport := Decode.field?_of_get? (hget "port" rfl) (Json.Decode.uint16_ofUInt16 s.port)
  change GameServer.decode (.object (Members.ofList fields)) = .ok s
  simp only [GameServer.decode, hanticheat, hip, hname, hport, Json.Decode.required, bind,
    Except.bind, pure, Except.pure]

/-- A time is kept by decoding unless it is negative. -/
theorem Pug.decodeTime_encodeOption {time : Option Int64} (h : ∀ t, time = some t → 0 ≤ t) :
    decodeTime (encodeOption .ofInt64 time) = .ok time := by
  rw [decodeTime, option_encodeOption (by nofun) Json.Decode.int64_ofInt64, Except.map]
  cases time with
  | none => rfl
  | some t => simp [h t rfl]

theorem Pug.Regular.decode_encode {p : Pug} (h : p.Regular) : Pug.decode p.encode = .ok p := by
  have hnames : Members.keys p.fields = fieldNames := rfl
  have hfields : (Members.keys p.fields).Nodup := by rw [hnames]; decide
  have hget (key : String) {v : Value} (hv : Members.get? p.fields key = some v) :=
    Members.get?_ofList_field hfields h.ascending h.apart hv
  have hadmin := Decode.fieldD_of_get? (hget "admin" rfl)
    (option_encodeOption (by nofun) Json.Decode.uint64_ofUInt64 p.admin) none
  have hid := Decode.field?_of_get? (hget "id" rfl) (Json.Decode.uint64_ofUInt64 p.id)
  have hmap := Decode.fieldD_of_get? (hget "map" rfl)
    (option_encodeOption (by nofun) Json.Decode.string_string p.map) none
  have hforced := Decode.fieldD_of_get? (hget "map_forced" rfl)
    (Json.Decode.bool_bool p.mapForced) false
  have hcounts := Decode.fieldD_of_get? (hget "map_vote_counts" rfl)
    (Decode.list_map fun c (_ : c ∈ p.mapVoteCounts) => c.decode_encode) []
  have hend := Decode.fieldD_of_get? (hget "map_vote_end" rfl)
    (decodeTime_encodeOption h.voteEnd) none
  have hstart := Decode.fieldD_of_get? (hget "map_vote_start" rfl)
    (decodeTime_encodeOption h.voteStart) none
  have hmaps := Decode.fieldD_of_get? (hget "maps" rfl)
    (Decode.list_map fun m (_ : m ∈ p.maps) => Json.Decode.string_string m) []
  have hstate := Decode.fieldD_of_get? (hget "named_state" rfl)
    (Json.Decode.string_string p.namedState) ""
  have hvotes := Decode.fieldD_of_get? (hget "player_votes" rfl)
    (Decode.list_map fun v (_ : v ∈ p.playerVotes) => v.decode_encode) []
  have hplayers := Decode.fieldD_of_get? (hget "players" rfl)
    (Decode.list_map fun q (hq : q ∈ p.players) => (h.players q hq).decode_encode) []
  have hserver := Decode.fieldD_of_get? (hget "server" rfl)
    (option_encodeOption (by nofun) GameServer.decode_encode p.server) none
  have hsize := Decode.fieldD_of_get? (hget "size" rfl) (Json.Decode.uint32_ofUInt32 p.size) 0
  have hnumber := Decode.fieldD_of_get? (hget "state" rfl) (Json.Decode.uint8_ofUInt8 p.state) 0
  have hextra := Members.without_ofList_append hfields h.ascending h.apart
  change Pug.decode (.object (Members.ofList (p.fields ++ p.extra))) = .ok p
  simp only [Pug.decode, Json.Decode.object, hadmin, hid, hmap, hforced, hcounts, hend, hstart,
    hmaps, hstate, hvotes, hplayers, hserver, hsize, hnumber, Json.Decode.required, bind,
    Except.bind, pure, Except.pure]
  exact congrArg (fun extra => Except.ok { p with extra := extra }) hextra

/-! ## What has been decoded -/

theorem Player.regular_of_decode {v : Value} (hv : v.Sorted) {p : Player}
    (h : Player.decode v = .ok p) : p.Regular := by
  simp only [Player.decode, Decode.bind_eq_ok] at h
  obtain ⟨ms, hms, _, -, _, -, _, -, _, -, hp⟩ := h
  obtain rfl := Json.Decode.object_eq_ok.1 hms
  cases hp
  have hascending : ms.Ascending := hv.1
  exact ⟨hascending.without fieldNames, fun name hname hkey => Members.mem_keys_without hkey hname⟩

theorem Pug.le_of_decodeTime {v : Value} {time : Option Int64} (h : decodeTime v = .ok time) :
    ∀ t, time = some t → 0 ≤ t := by
  intro t ht
  obtain ⟨o, -, rfl⟩ := Decode.map_eq_ok.1 h
  simpa using (Option.filter_eq_some_iff.1 ht).2

theorem Pug.regular_of_decode {v : Value} (hv : v.Sorted) {p : Pug} (h : Pug.decode v = .ok p) :
    p.Regular := by
  simp only [Pug.decode, Decode.bind_eq_ok] at h
  obtain ⟨ms, hms, _, -, _, -, _, -, _, -, _, -, voteEnd, hend, voteStart, hstart, _, -, _, -, _, -,
    players, hplayers, _, -, _, -, _, -, _, -, hp⟩ := h
  obtain rfl := Json.Decode.object_eq_ok.1 hms
  cases hp
  obtain ⟨hascending, hparts⟩ : ms.Ascending ∧ Json.membersSorted ms := hv
  constructor
  · exact hascending.without fieldNames
  · intro name hname hkey
    exact Members.mem_keys_without hkey hname
  · rcases Decode.fieldD_cases hstart with rfl | ⟨w, -, hw⟩
    · nofun
    · exact le_of_decodeTime hw
  · rcases Decode.fieldD_cases hend with rfl | ⟨w, -, hw⟩
    · nofun
    · exact le_of_decodeTime hw
  · intro q hq
    rcases Decode.fieldD_cases hplayers with rfl | ⟨w, hget, hw⟩
    · cases hq
    · obtain ⟨items, rfl, u, hu, hitem⟩ := Json.Decode.exists_of_mem_list hw hq
      have hsorted : u.Sorted := Json.allSorted_iff.1 (Json.sorted_of_get? hparts hget) u hu
      exact Player.regular_of_decode hsorted hitem

/-- A pug, a player, a vote count, a vote and a server are decoded as they were encoded, and of what
has been decoded a pug and a player meet what that takes. -/
theorem records_decode_encode :
    (∀ p : Pug, p.Regular → Pug.decode p.encode = .ok p) ∧
      (∀ p : Player, p.Regular → Player.decode p.encode = .ok p) ∧
      (∀ c : MapVoteCount, MapVoteCount.decode c.encode = .ok c) ∧
      (∀ v : PlayerVote, PlayerVote.decode v.encode = .ok v) ∧
      (∀ s : GameServer, GameServer.decode s.encode = .ok s) ∧
      (∀ (v : Value) (p : Pug), v.Sorted → Pug.decode v = .ok p → p.Regular) ∧
      ∀ (v : Value) (p : Player), v.Sorted → Player.decode v = .ok p → p.Regular := by
  refine ⟨?_, ?_, ?_, ?_, ?_, ?_, ?_⟩
  · intro p h
    exact h.decode_encode
  · intro p h
    exact h.decode_encode
  · exact MapVoteCount.decode_encode
  · exact PlayerVote.decode_encode
  · exact GameServer.decode_encode
  · intro v p hv h
    exact Pug.regular_of_decode hv h
  · intro v p hv h
    exact Player.regular_of_decode hv h

/-- A pug with entries of its own, below which names of fields are free. -/
theorem records_decode_encode_nested :
    let joe : Player := ⟨15, "joe", [("rating", .object [("id", .null)]), ("team", .string "red")]⟩
    let p : Pug := ⟨4, 12, 1, "MAP_VOTING", none, false, some 15, [joe], [⟨"cp_granary", 2⟩],
      [⟨15, "cp_granary"⟩], none, some 1400000002, ["cp_granary"],
      some ⟨"pug1", none, "10.0.0.1", 27015⟩,
      [("medics", .array [.null, .bool true]), ("team_red", .object [("size", .string "6")])]⟩
    p.Regular ∧ Pug.decode p.encode = .ok p := by
  intro joe p
  have hjoe : joe.Regular := ⟨by decide, by decide⟩
  have hp : p.Regular := by
    constructor
    · decide
    · decide
    · nofun
    · intro t ht
      cases ht
      decide
    · intro q hq
      obtain rfl := List.mem_singleton.1 hq
      exact hjoe
  exact ⟨hp, records_decode_encode.1 p hp⟩

end PickupGame.Api
