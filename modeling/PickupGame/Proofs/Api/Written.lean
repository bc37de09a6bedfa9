import PickupGame.Proofs.Api.Pug
import PickupGame.Proofs.Api.Records
import PickupGame.Proofs.Json.Normal

/-!
# What becomes of a pug that is written again

A pug that was decoded is written with all that the server sent. What it declares nothing about is
as it was, and what it declares is as it was or in the one form that it is written in.
-/

namespace PickupGame.Api

open Json (Value Members Decode.Holds Decode.Normalizes)

/-! ## Parts -/

theorem option_normalizes {α : Type} {item : Json.Decoder α} {write : α → Value}
    {normal : Value → Value} (h : Decode.Normalizes item write normal) :
    Decode.Normalizes (Json.Decode.option item) (encodeOption write) (.nullable normal) := by
  intro v o hv hread
  by_cases hnull : v = .null
  · subst hnull
    cases hread
    rfl
  · have hnormal : Value.nullable normal v = normal v := by
      unfold Value.nullable
      split
      · exact absurd rfl hnull
      · rfl
    rw [Json.Decode.option_of_ne_null hnull] at hread
    obtain ⟨a, ha, rfl⟩ := Json.Decode.map_eq_ok.1 hread
    rw [hnormal]
    exact h v a hv ha

/-- What is written of a player is what was decoded, with all its statistics. -/
theorem normalizes_player : Decode.Normalizes Player.decode Player.encode id := by
  intro v p hv hp
  obtain ⟨ms, rfl, hid, hname, hstats⟩ := Player.decode_eq_ok.1 hp
  let fields : Members := [("id", .ofUInt64 p.id), ("name", .string p.name)]
  have hfields : fields.keys.Nodup := by
    have hnames : fields.keys = Player.fieldNames := rfl
    rw [hnames]
    decide
  have hid := Json.Decode.uint64_normalizes.holds hv hid
  have hname := Json.Decode.string_normalizes.holds hv hname
  have hencode : p.encode = .object (Members.ofList (fields ++ ms.without fields.keys)) := by
    rw [Player.encode, hstats]
    rfl
  rw [hencode]
  congr 1
  refine (Members.ascending_ofList _).ext hv.1 fun key => ?_
  rw [Members.get?_ofList_append_without hfields hv.1]
  by_cases hkeyId : "id" = key
  · subst hkeyId
    rw [hid]
    rfl
  · by_cases hkeyName : "name" = key
    · subst hkeyName
      rw [hname]
      rfl
    · simp [fields, Members.get?_cons, hkeyId, hkeyName]

theorem normalizes_mapVoteCount :
    Decode.Normalizes MapVoteCount.decode MapVoteCount.encode (.fieldsOnly ["map", "count"]) :=
  MapVoteCount.decodesPair.normalizes Json.Decode.string_normalizes Json.Decode.uint32_normalizes

theorem normalizes_playerVote :
    Decode.Normalizes PlayerVote.decode PlayerVote.encode (.fieldsOnly ["id", "map"]) :=
  PlayerVote.decodesPair.normalizes Json.Decode.uint64_normalizes Json.Decode.string_normalizes

theorem normalizes_gameServer :
    Decode.Normalizes GameServer.decode GameServer.encode
      (.fieldsOnly ["name", "anticheat", "ip", "port"]) := by
  have hstring := Json.Decode.string_normalizes
  have hoption := option_normalizes hstring
  rw [Value.nullable_id] at hoption
  intro v s hv hs
  rcases GameServer.decode_eq_ok.1 hs with ⟨ms, rfl, hname, hanticheat, hip, hport⟩ |
    ⟨name, anticheat, ip, port, rfl, hname, hanticheat, hip, hport⟩
  · have hname := hstring.holds hv hname
    have hanticheat := hoption.fieldD hv hanticheat
    have hip := hstring.holds hv hip
    have hport := Json.Decode.uint16_normalizes.holds hv hport
    rw [Option.map_id, id, Option.or_some, Option.some.injEq] at hanticheat
    simp only [Value.fieldsOnly, List.map_cons, List.map_nil, hname, hip, hport, Option.getD_some]
    rw [GameServer.encode, hanticheat]
    rfl
  · have hname := hstring name _ hv.1 hname
    have hanticheat := hoption anticheat _ hv.2.1 hanticheat
    have hip := hstring ip _ hv.2.2.1 hip
    have hport := Json.Decode.uint16_normalizes port _ hv.2.2.2.1 hport
    rw [GameServer.encode, hname, hanticheat, hip, hport]
    rfl

theorem normalizes_time :
    Decode.Normalizes Pug.decodeTime (encodeOption .ofInt64) .unsetNegative := by
  intro v time hv h
  obtain ⟨o, ho, rfl⟩ := Json.Decode.map_eq_ok.1 h
  have hwritten := option_normalizes Json.Decode.int64_normalizes v o hv ho
  rw [Value.nullable_id, id] at hwritten
  rw [← hwritten]
  cases o with
  | none => rfl
  | some t =>
    by_cases ht : 0 ≤ t
    · have hsign : ¬ t.toInt < 0 := by simpa [Int64.le_iff_toInt_le] using ht
      simp [encodeOption, Option.filter_some, ht, Value.ofInt64, Value.unsetNegative, hsign]
    · have hsign : t.toInt < 0 := by simpa [Int64.le_iff_toInt_le] using ht
      simp [encodeOption, Option.filter_some, ht, Value.ofInt64, Value.unsetNegative, hsign]

/-! ## Pugs -/

/-- What becomes of the entry under a name: what a value there is written as, and what is written
if there is none, unless a pug cannot do without it. -/
structure Declaration where
  name : String
  normal : Value → Value
  default : Option Value

def Pug.declarations : List Declaration :=
  [⟨"id", fun v => v, none⟩, ⟨"size", fun v => v, some (.ofUInt32 0)⟩,
    ⟨"state", fun v => v, some (.ofUInt8 0)⟩, ⟨"named_state", fun v => v, some (.string "")⟩,
    ⟨"map", fun v => v, some .null⟩, ⟨"map_forced", fun v => v, some (.bool false)⟩,
    ⟨"admin", fun v => v, some .null⟩, ⟨"players", fun v => v, some (.array [])⟩,
    ⟨"map_vote_counts", .listed (.fieldsOnly ["map", "count"]), some (.array [])⟩,
    ⟨"player_votes", .listed (.fieldsOnly ["id", "map"]), some (.array [])⟩,
    ⟨"map_vote_start", .unsetNegative, some .null⟩, ⟨"map_vote_end", .unsetNegative, some .null⟩,
    ⟨"maps", fun v => v, some (.array [])⟩,
    ⟨"server", .nullable (.fieldsOnly ["name", "anticheat", "ip", "port"]), some .null⟩]

/-- What is written of the members of a pug. -/
structure Pug.Written (ms ns : Members) : Prop where
  ascending : ns.Ascending
  keys : ∀ key, key ∈ ns.keys ↔ key ∈ ms.keys ∨ key ∈ fieldNames
  undeclared : ∀ key, key ∉ fieldNames → ns.get? key = ms.get? key
  declared : ∀ d ∈ declarations, ns.get? d.name = ((ms.get? d.name).map d.normal).or d.default

theorem Pug.FoundIn.get?_fields {ms : Members} {p : Pug} (h : p.FoundIn ms)
    (hms : (Value.object ms).Sorted) :
    ∀ d ∈ declarations, Members.get? p.fields d.name =
      ((ms.get? d.name).map d.normal).or d.default := by
  have hstring := Json.Decode.string_normalizes
  have hnumber := Json.Decode.uint64_normalizes
  have hmap := option_normalizes hstring
  have hadmin := option_normalizes hnumber
  have hplayers := normalizes_player.list
  have hmaps := hstring.list
  rw [Value.nullable_id] at hmap hadmin
  rw [Value.listed_id] at hplayers hmaps
  refine List.forall_iff_forall_mem.1 ⟨?_, ?_, ?_, ?_, ?_, ?_, ?_, ?_, ?_, ?_, ?_, ?_, ?_, ?_⟩
  · dsimp only
    rw [hnumber.holds hms h.id]
    rfl
  · exact Json.Decode.uint32_normalizes.fieldD hms h.size
  · exact Json.Decode.uint8_normalizes.fieldD hms h.state
  · exact hstring.fieldD hms h.namedState
  · exact hmap.fieldD hms h.map
  · exact Json.Decode.bool_normalizes.fieldD hms h.mapForced
  · exact hadmin.fieldD hms h.admin
  · exact hplayers.fieldD hms h.players
  · exact normalizes_mapVoteCount.list.fieldD hms h.mapVoteCounts
  · exact normalizes_playerVote.list.fieldD hms h.playerVotes
  · exact normalizes_time.fieldD hms h.mapVoteStart
  · exact normalizes_time.fieldD hms h.mapVoteEnd
  · exact hmaps.fieldD hms h.maps
  · exact (option_normalizes normalizes_gameServer).fieldD hms h.server

/-- A pug that was decoded is written with everything that was there, each declared entry in its one
form, and written so it is decoded as before. -/
theorem Pug.written_of_decode {v : Value} (hv : v.Sorted) {p : Pug} (h : Pug.decode v = .ok p) :
    ∃ ms ns, v = .object ms ∧ p.encode = .object ns ∧ Written ms ns ∧
      Pug.decode (.object ns) = .ok p := by
  obtain ⟨ms, rfl, hfound⟩ := decode_eq_ok.1 h
  have hnames : Members.keys p.fields = fieldNames := rfl
  have hfields : (Members.keys p.fields).Nodup := by rw [hnames]; decide
  have hencode : p.encode =
      .object (Members.ofList (p.fields ++ Members.without ms (Members.keys p.fields))) := by
    rw [encode, hfound.extra, hnames]
  have hget := Members.get?_ofList_append_without hfields hv.1
  refine ⟨ms, _, rfl, hencode, ?_, ?_⟩
  · constructor
    case ascending => exact Members.ascending_ofList _
    case keys =>
      intro key
      have hnone := congrArg (· = none) (hget key)
      simp only [Option.or_eq_none_iff, Members.get?_eq_none, hnames] at hnone
      tauto
    case undeclared =>
      intro key hkey
      rw [hget, Members.get?_eq_none.2 (hnames ▸ hkey), Option.none_or]
    case declared =>
      intro d hd
      have hname : d.name ∈ Members.keys p.fields := List.mem_map_of_mem (f := Declaration.name) hd
      obtain ⟨w, hw⟩ := Option.ne_none_iff_exists'.1 fun hnone => Members.get?_eq_none.1 hnone hname
      rw [hget, ← hfound.get?_fields hv d hd, hw, Option.some_or]
  · rw [← hencode]
    exact (regular_of_decode hv h).decode_encode

/-- An array for a vote count, an unset time, a server without the entry on cheating but with one of
its own, and the greatest number there is. -/
theorem Pug.written_of_decode_forms :
    let joe : Value := .object [("id", .ofUInt64 18446744073709551615), ("name", .string "joe"),
      ("rating", .number (.integer (-7) (by decide) (by decide)))]
    let v : Value := .object [("id", .ofUInt64 4),
      ("map_vote_counts", .array [.array [.string "cp_granary", .ofUInt32 2]]),
      ("map_vote_end", .number (.integer (-1) (by decide) (by decide))), ("medics", .array [.null]),
      ("players", .array [joe]),
      ("server", .object [("ip", .string "10.0.0.1"), ("name", .string "pug1"),
        ("port", .ofUInt16 27015), ("zone", .bool true)])]
    let p : Pug := ⟨4, 0, 0, "", none, false, none,
      [⟨18446744073709551615, "joe", [("rating", .number (.integer (-7) (by decide) (by decide)))]⟩],
      [⟨"cp_granary", 2⟩], [], none, none, [], some ⟨"pug1", none, "10.0.0.1", 27015⟩,
      [("medics", .array [.null])]⟩
    v.Sorted ∧ Pug.decode v = .ok p ∧
      ∃ ms ns, v = .object ms ∧ p.encode = .object ns ∧ Written ms ns ∧
        Pug.decode (.object ns) = .ok p := by
  intro joe v p
  have hv : v.Sorted := by
    refine ⟨by decide, trivial, ⟨⟨trivial, trivial, trivial⟩, trivial⟩, trivial, ⟨trivial, trivial⟩,
      ⟨⟨by decide, trivial, trivial, trivial, trivial⟩, trivial⟩,
      ⟨by decide, trivial, trivial, trivial, trivial, trivial⟩, trivial⟩
  have hp : Pug.decode v = .ok p := rfl
  exact ⟨hv, hp, written_of_decode hv hp⟩

end PickupGame.Api
