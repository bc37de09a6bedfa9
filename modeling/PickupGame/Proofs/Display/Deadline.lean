import PickupGame.Proofs.Api.Records
import PickupGame.Proofs.Calendar.Text
import PickupGame.Proofs.Display.Table

/-!
# The end of a vote

Below its tables a pug shows when the vote on the map ends, on a terminal and elsewhere. The time comes from an entry of the
object that the pug was decoded from, and what is shown of it is that time again.
-/

namespace PickupGame.Display

open PickupGame.Api
open Json (Value Members)

/-- The object says that the vote ends so many seconds after 1970 has begun, before the calendar
ends. -/
def VoteEnds (ms : Members) (n : Nat) : Prop :=
  n ≤ 8210266876799 ∧ ∃ low high, ms.get? "map_vote_end" = some (.number (.integer n low high))

def lastLine? (text : String) : Option (List Char) :=
  (Text.lines text.toList).getLast?

/-- What stands in the last line of a text, if that line announces the end of a vote. -/
def shownDeadline? (text : String) : Option String :=
  (lastLine? text).bind fun line =>
    if "Map vote ends: ".toList <+: line then some (String.ofList (line.drop 15)) else none

/-- A text is a date and a time of the calendar, so many seconds after 1970 has begun. -/
structure IsTime (text : String) (n : Nat) (t : Instant) : Prop where
  read : Instant.read? text.toList = some t
  valid : t.IsValid
  seconds : t.secondsBefore = Instant.epoch.secondsBefore + n

theorem VoteEnds.unique {ms : Members} {m n : Nat} (hm : VoteEnds ms m) (hn : VoteEnds ms n) :
    m = n := by
  obtain ⟨-, _, _, hm⟩ := hm
  obtain ⟨-, _, _, hn⟩ := hn
  simpa [hm] using hn

/-! ## From the object to the deadline -/

theorem exists_integer_of_decodeTime {v : Value} {t : Int64} (h : Pug.decodeTime v = .ok (some t)) :
    ∃ i low high, v = .number (.integer i low high) ∧ i = t.toInt := by
  obtain ⟨o, ho, hfilter⟩ := Json.Decode.map_eq_ok.1 h
  obtain ⟨rfl, -⟩ := Option.filter_eq_some_iff.1 hfilter
  have hnull : v ≠ .null := by
    rintro rfl
    cases ho
  rw [Json.Decode.option_of_ne_null hnull] at ho
  obtain ⟨u, hu, hut⟩ := Json.Decode.map_eq_ok.1 ho
  cases hut
  exact Json.Decode.int64_eq_ok.1 hu

theorem decodeTime_integer {n : Nat} (h : n ≤ Numeral.maxI64) (low : _) (high : _) :
    ∃ t : Int64, t.toInt = n ∧ Pug.decodeTime (.number (.integer n low high)) = .ok (some t) := by
  have hlt : (n : Int) < 2 ^ 63 := Int.lt_of_le_of_lt (Int.ofNat_le.2 h) (by decide)
  have ht : (Int64.ofInt n).toInt = n := Int64.toInt_ofInt_of_le low hlt
  refine ⟨Int64.ofInt n, ht, ?_⟩
  have hint : Json.Decode.int64 (.number (.integer n low high)) = .ok (Int64.ofInt n) :=
    Json.Decode.int64_eq_ok.2 ⟨n, low, high, rfl, ht.symm⟩
  have hpos : (0 : Int64) ≤ Int64.ofInt n := by
    rw [Int64.le_iff_toInt_le, ht]
    exact Int.natCast_nonneg n
  rw [Pug.decodeTime, Json.Decode.option_of_ne_null (by simp), hint]
  simp [Except.map, hpos]

theorem deadline?_eq_some_iff {ms : Members} {p : Pug} (h : p.FoundIn ms) {n : Nat} :
    p.deadline? = some n ↔ VoteEnds ms n := by
  constructor
  · intro hn
    rw [Pug.deadline?] at hn
    cases ht : p.mapVoteEnd with
    | none => simp [ht] at hn
    | some t =>
      rw [ht] at hn
      obtain ⟨⟨hpos, hle⟩, hn⟩ := Option.ite_none_right_eq_some.1 hn
      obtain hnone | ⟨v, hget, hv⟩ := Json.Decode.fieldD_cases (ht ▸ h.mapVoteEnd)
      · cases hnone
      · obtain ⟨i, low, high, rfl, hi⟩ := exists_integer_of_decodeTime hv
        obtain rfl : i = n := by
          rw [← Option.some.inj hn, hi, Int.toNat_of_nonneg hpos]
        exact ⟨Option.some.inj hn ▸ hle, low, high, hget⟩
  · rintro ⟨hle, low, high, hget⟩
    have hmax : n ≤ Numeral.maxI64 := hle.trans (by decide)
    obtain ⟨t, ht, hdecode⟩ := decodeTime_integer hmax low high
    have hend := h.mapVoteEnd.symm.trans (Json.Decode.fieldD_of_get? hget hdecode none)
    rw [Pug.deadline?, Except.ok.inj hend]
    simp [ht, hle, Pug.lastDeadline]

theorem isTime_ofSeconds (n : Nat) : IsTime (Instant.ofSeconds n).text n (Instant.ofSeconds n) where
  read := Instant.read?_text (Instant.isValid_ofSeconds n)
  valid := Instant.isValid_ofSeconds n
  seconds := Instant.secondsBefore_ofSeconds n

/-! ## From the deadline to the last line -/

theorem lastLine?_intercalate (texts : List String) (text : String) :
    lastLine? ("\n".intercalate (texts ++ [text])) = lastLine? text := by
  rw [lastLine?, Text.lines_intercalate (by simp), List.flatMap_append, List.flatMap_singleton,
    List.getLast?_append_of_ne_nil _ (Text.lines_ne_nil text.toList), lastLine?]

theorem lastLine?_deadlineLine (n : Nat) :
    lastLine? (deadlineLine n) = some (deadlineLine n).toList := by
  have hnewline : Instant.Separates '\n' := ⟨rfl, by decide⟩
  have htext := hnewline.notMem_text (by decide) (by decide) (by decide) (by decide)
    (Instant.ofSeconds n)
  rw [lastLine?, Text.lines_of_notMem, List.getLast?_singleton]
  rw [deadlineLine, String.toList_append, List.mem_append]
  rintro (h | h)
  · exact absurd h (by decide)
  · exact htext h

/-- The last line of a text is the lower border of a table. -/
def EndsInBorder (text : String) : Prop :=
  ∃ line, lastLine? text = some line ∧ line.head? = some '└'

section

variable [Screen]

theorem Table.endsInBorder {t : Table} (h : t.grid.Regular) : EndsInBorder t.render := by
  rw [render]
  cases Screen.terminal? with
  | some terminal => exact terminal.layout_last t
  | none =>
    refine ⟨border '└' '─' '┴' '┘' t.grid.columnWidths, ?_, rfl⟩
    rw [lastLine?, h.lines_render, h.lines_eq, List.getLast?_concat]

/-- The tables that are shown of a pug. -/
def tables (p : Pug) : List String :=
  pugList [p]
    :: (if p.players.isEmpty then [] else [playerList p.players])
    ++ (if p.mapVoteCounts.isEmpty then [] else [mapVotes p.mapVoteCounts])

theorem endsInBorder_of_mem_tables {p : Pug} {text : String} (h : text ∈ tables p) :
    EndsInBorder text := by
  simp only [tables, List.cons_append, List.mem_cons, List.mem_append] at h
  rcases h with rfl | h | h
  · exact Table.endsInBorder (regular_pugTable [p])
  · split at h
    · cases h
    · rename_i hne
      obtain rfl := List.mem_singleton.1 h
      rw [playerList, if_neg hne]
      exact Table.endsInBorder (regular_playerTable p.players)
  · split at h
    · cases h
    · obtain rfl := List.mem_singleton.1 h
      exact Table.endsInBorder (regular_voteTable p.mapVoteCounts)

theorem pug_eq (p : Pug) :
    pug p = "\n".intercalate (tables p ++ p.deadline?.toList.map deadlineLine) := by
  rw [pug]
  cases p.deadline? <;> rfl

theorem shownDeadline?_pug (p : Pug) :
    shownDeadline? (pug p) = p.deadline?.map fun n => (Instant.ofSeconds n).text := by
  rw [shownDeadline?, pug_eq]
  cases p.deadline? with
  | none =>
    have hne : tables p ≠ [] := List.cons_ne_nil _ _
    obtain ⟨line, hline, hhead⟩ := endsInBorder_of_mem_tables (List.getLast_mem hne)
    have hprefix : ¬ "Map vote ends: ".toList <+: line := by
      rintro ⟨rest, rfl⟩
      exact absurd hhead (by simp)
    rw [Option.toList_none, List.map_nil, List.append_nil, ← List.dropLast_append_getLast hne,
      lastLine?_intercalate, hline]
    exact if_neg hprefix
  | some n =>
    have hline : (deadlineLine n).toList =
        "Map vote ends: ".toList ++ (Instant.ofSeconds n).text.toList := by
      rw [deadlineLine, String.toList_append]
    have hlength : "Map vote ends: ".toList.length = 15 := by decide
    rw [Option.toList_some, List.map_singleton, lastLine?_intercalate, lastLine?_deadlineLine,
      Option.bind_some, hline, if_pos (List.prefix_append _ _), List.drop_left' hlength,
      String.ofList_toList, Option.map_some]

/-! ## The deadline that is shown -/

theorem shownDeadline?_eq_some_iff {ms : Members} {p : Pug}
    (h : Pug.decode (.object ms) = .ok p) {text : String} :
    shownDeadline? (pug p) = some text ↔
      ∃ n, VoteEnds ms n ∧ text = (Instant.ofSeconds n).text := by
  obtain ⟨_, ⟨⟩, hfound⟩ := Pug.decode_eq_ok.1 h
  rw [shownDeadline?_pug, Option.map_eq_some_iff]
  refine exists_congr fun n => ?_
  rw [deadline?_eq_some_iff hfound, eq_comm (a := text)]

/-- The end of a vote is shown if the object has one that the calendar reaches, as the time that it
is; equal texts are of equal times, and with years of four digits later times are of later texts. -/
theorem deadline_shown {ms ms' : Members} {p p' : Pug} (h : Pug.decode (.object ms) = .ok p)
    (h' : Pug.decode (.object ms') = .ok p') :
    ((shownDeadline? (pug p)).isSome ↔ ∃ n, VoteEnds ms n) ∧
    (∀ text n, shownDeadline? (pug p) = some text → VoteEnds ms n → ∃ t, IsTime text n t) ∧
    (∀ text, shownDeadline? (pug p) = some text → shownDeadline? (pug p') = some text →
      ∃ n, VoteEnds ms n ∧ VoteEnds ms' n) ∧
    ∀ text text' n n' t t', shownDeadline? (pug p) = some text → IsTime text n t →
      shownDeadline? (pug p') = some text' → IsTime text' n' t' →
      t.date.year < 10000 → t'.date.year < 10000 → (text < text' ↔ n < n') := by
  refine ⟨?_, ?_, ?_, ?_⟩
  · rw [Option.isSome_iff_exists]
    constructor
    · rintro ⟨text, htext⟩
      obtain ⟨n, hn, -⟩ := (shownDeadline?_eq_some_iff h).1 htext
      exact ⟨n, hn⟩
    · rintro ⟨n, hn⟩
      exact ⟨_, (shownDeadline?_eq_some_iff h).2 ⟨n, hn, rfl⟩⟩
  · intro text n htext hn
    obtain ⟨m, hm, rfl⟩ := (shownDeadline?_eq_some_iff h).1 htext
    obtain rfl := hn.unique hm
    exact ⟨_, isTime_ofSeconds n⟩
  · intro text htext htext'
    obtain ⟨n, hn, rfl⟩ := (shownDeadline?_eq_some_iff h).1 htext
    obtain ⟨n', hn', heq⟩ := (shownDeadline?_eq_some_iff h').1 htext'
    have hread := congrArg (fun text => Instant.read? text.toList) heq
    simp only [(isTime_ofSeconds n).read, (isTime_ofSeconds n').read, Option.some.injEq] at hread
    obtain rfl := Instant.ofSeconds_injective hread
    exact ⟨n, hn, hn'⟩
  · intro text text' n n' t t' htext ht htext' ht' hyear hyear'
    obtain ⟨m, -, rfl⟩ := (shownDeadline?_eq_some_iff h).1 htext
    obtain ⟨m', -, rfl⟩ := (shownDeadline?_eq_some_iff h').1 htext'
    have hm := (isTime_ofSeconds m).read.symm.trans ht.read
    have hm' := (isTime_ofSeconds m').read.symm.trans ht'.read
    obtain rfl := Option.some.inj hm
    obtain rfl := Option.some.inj hm'
    rw [Instant.text_lt_iff ht.valid ht'.valid (Nat.le_of_lt_succ hyear) (Nat.le_of_lt_succ hyear'),
      ht.seconds, ht'.seconds, Nat.add_lt_add_iff_left]

end

/-- The last vote before years have five digits, and the first one after. -/
theorem deadline_shown_ten_thousand :
    letI := machine
    let ms (n : Nat) (low : _) (high : _) : Members := [("id", .ofUInt64 4),
      ("map_vote_end", .number (.integer n low high))]
    let early := ms 253402300799 (by decide) (by decide)
    let late := ms 253402300800 (by decide) (by decide)
    let p (t : Int64) : Pug :=
      ⟨4, 0, 0, "", none, false, none, [], [], [], none, some t, [], none, []⟩
    Pug.decode (.object early) = .ok (p 253402300799) ∧
    Pug.decode (.object late) = .ok (p 253402300800) ∧
    VoteEnds early 253402300799 ∧ VoteEnds late 253402300800 ∧
    (shownDeadline? (pug (p 253402300799))).isSome ∧
    shownDeadline? (pug (p 253402300799)) ≠ shownDeadline? (pug (p 253402300800)) := by
  let := machine
  intro ms early late p
  have h : Pug.decode (.object early) = .ok (p 253402300799) := rfl
  have h' : Pug.decode (.object late) = .ok (p 253402300800) := rfl
  have hends : VoteEnds early 253402300799 := ⟨by decide, _, _, rfl⟩
  have hends' : VoteEnds late 253402300800 := ⟨by decide, _, _, rfl⟩
  obtain ⟨hshown, -, hsame, -⟩ := deadline_shown h h'
  have hsome := hshown.2 ⟨_, hends⟩
  refine ⟨h, h', hends, hends', hsome, fun heq => ?_⟩
  obtain ⟨text, htext⟩ := Option.isSome_iff_exists.1 hsome
  obtain ⟨n, hn, hn'⟩ := hsame text htext (heq ▸ htext)
  have hne := hends.unique hn
  have hne' := hends'.unique hn'
  omega

end PickupGame.Display
