import PickupGame.Proofs.Json.Nesting
import PickupGame.Proofs.Json.Scalars

/-!
# Reading back what was laid out

A value whose numbers are integers is read back from its text over several lines. By induction on
the value, each part is read from where it stands, up to the comma or the line break behind it.
-/

namespace PickupGame.Json

/-- A value in which every number is an integer. -/
inductive Value.Integral : Value → Prop
  | null : Value.Integral .null
  | bool (b : Bool) : Value.Integral (.bool b)
  | integer (n : Int) (low : -0x8000000000000000 ≤ n) (high : n < 0x10000000000000000) :
      Value.Integral (.number (.integer n low high))
  | string (s : String) : Value.Integral (.string s)
  | array {items : List Value} (h : ∀ v ∈ items, Value.Integral v) : Value.Integral (.array items)
  | object {members : Members} (h : ∀ m ∈ members, Value.Integral m.2) :
      Value.Integral (.object members)

attribute [simp] Value.Integral.null Value.Integral.bool Value.Integral.integer
  Value.Integral.string

@[simp] theorem integral_array {items : List Value} :
    Value.Integral (.array items) ↔ ∀ v ∈ items, v.Integral := by
  constructor
  · rintro ⟨⟩
    assumption
  · exact .array

@[simp] theorem integral_object {members : Members} :
    Value.Integral (.object members) ↔ ∀ m ∈ members, m.2.Integral := by
  constructor
  · rintro ⟨⟩
    assumption
  · exact .object

/-! ## White space -/

/-- White space, or nothing. -/
def Blank (cs : List Char) : Prop :=
  ∀ c ∈ cs, isSpace c = true

theorem blank_nil : Blank [] :=
  nofun

theorem Blank.append {b c : List Char} (hb : Blank b) (hc : Blank c) : Blank (b ++ c) :=
  List.forall_mem_append.2 ⟨hb, hc⟩

theorem skipSpace_append {blank : List Char} (h : Blank blank) (cs : List Char) :
    skipSpace (blank ++ cs) = skipSpace cs :=
  List.dropWhile_append_of_pos h

theorem skipSpace_blank {b : List Char} (hb : Blank b) {c : Char} (hc : isSpace c = false)
    (cs : List Char) : skipSpace (b ++ c :: cs) = c :: cs := by
  rw [skipSpace_append hb, skipSpace_cons hc]

theorem exists_blank_append (cs : List Char) : ∃ b, Blank b ∧ cs = b ++ skipSpace cs := by
  induction cs with
  | nil => exact ⟨[], blank_nil, rfl⟩
  | cons c cs ih =>
    cases hc : isSpace c with
    | true =>
      obtain ⟨b, hb, hcs⟩ := ih
      refine ⟨c :: b, List.forall_mem_cons.2 ⟨hc, hb⟩, ?_⟩
      rw [skipSpace, List.dropWhile_cons, if_pos hc]
      exact congrArg (c :: ·) hcs
    | false => exact ⟨[], blank_nil, (skipSpace_cons hc cs).symm⟩

theorem blank_newline (level : Nat) : Blank (newline level) := by
  intro c hc
  rcases List.mem_cons.1 hc with rfl | hc
  · rfl
  · cases List.eq_of_mem_replicate hc
    rfl

theorem Blank.numberEnds {blank : List Char} (h : Blank blank) : NumberEnds blank := by
  intro c hc
  have hspace := h c (List.mem_of_mem_head? hc)
  simp only [isSpace, Bool.or_eq_true, decide_eq_true_eq] at hspace
  rcases hspace with ((rfl | rfl) | rfl) | rfl <;> decide

theorem value_append {blank : List Char} (h : Blank blank) (levels : Nat) (cs : List Char) :
    value levels (blank ++ cs) = value levels cs := by
  unfold value
  rw [skipSpace_append h]

theorem value_blank (levels : Nat) (cs : List Char) : value levels (' ' :: cs) = value levels cs :=
  value_append (List.forall_mem_singleton.2 rfl : Blank [' ']) levels cs

/-! ## Texts one after the other -/

theorem separated_cons (separator t : List Char) (ts : List (List Char)) :
    separated separator (t :: ts) = t ++ ts.flatMap (separator ++ ·) := by
  induction ts generalizing t with
  | nil => simp [separated]
  | cons u us ih =>
    calc separated separator (t :: u :: us)
        = t ++ separator ++ separated separator (u :: us) := rfl
      _ = t ++ (u :: us).flatMap (separator ++ ·) := by
        rw [ih, List.flatMap_cons, List.append_assoc, List.append_assoc]

/-- What stands behind the first of several texts up to the end of their block. -/
def behind (right : Char) (level : Nat) (ts : List (List Char)) (rest : List Char) : List Char :=
  ts.flatMap (',' :: newline (level + 1) ++ ·) ++ (newline level ++ right :: rest)

theorem block_cons_append (left right : Char) (level : Nat) (t : List Char) (ts : List (List Char))
    (rest : List Char) :
    block left right level (t :: ts) ++ rest =
      left :: (newline (level + 1) ++ (t ++ behind right level ts rest)) := by
  simp [block, behind, separated_cons]

theorem behind_cons (right : Char) (level : Nat) (t : List Char) (ts : List (List Char))
    (rest : List Char) :
    behind right level (t :: ts) rest =
      ',' :: (newline (level + 1) ++ (t ++ behind right level ts rest)) := by
  simp [behind]

theorem numberEnds_behind (right : Char) (level : Nat) (ts : List (List Char)) (rest : List Char) :
    NumberEnds (behind right level ts rest) := by
  cases ts with
  | nil => exact numberEnds_cons.2 (by decide)
  | cons t ts =>
    rw [behind_cons]
    exact numberEnds_cons.2 (by decide)

theorem length_le_behind (right : Char) (level : Nat) (ts : List (List Char)) (rest : List Char) :
    ts.length ≤ (behind right level ts rest).length := by
  induction ts with
  | nil => exact Nat.zero_le _
  | cons t ts ih =>
    rw [behind_cons]
    simp only [List.length_cons, List.length_append]
    omega

/-- The text begins with what may be the start of an item of an array. -/
def StartsItem (t : List Char) : Prop :=
  ∃ c cs, t = c :: cs ∧ isSpace c = false ∧ c ≠ ']'

theorem StartsItem.append {t : List Char} (h : StartsItem t) (rest : List Char) :
    StartsItem (t ++ rest) := by
  obtain ⟨c, cs, rfl, hc⟩ := h
  exact ⟨c, cs ++ rest, rfl, hc⟩

theorem StartsItem.skipSpace_append {t b : List Char} (h : StartsItem t) (hb : Blank b) :
    skipSpace (b ++ t) = t := by
  obtain ⟨c, cs, rfl, hc, -⟩ := h
  exact skipSpace_blank hb hc cs

/-- The reader takes a text to a value, whatever stands behind it that ends a number. -/
structure Reader.Restores (item : Reader Value) (t : List Char) (v : Value) : Prop where
  starts : StartsItem t
  read : ∀ rest, NumberEnds rest → item (t ++ rest) = .ok (v, rest)

/-! ## Arrays -/

section Arrays

variable {item : Reader Value} {level : Nat}

theorem items_comma {cs tail t rest : List Char} {v : Value} (hcs : skipSpace cs = ',' :: tail)
    (htail : skipSpace tail = t) (h : StartsItem t) (hv : item t = .ok (v, rest)) (fuel : Nat)
    (acc : List Value) : items item (fuel + 1) acc cs = items item fuel (v :: acc) rest := by
  obtain ⟨c, t, rfl, -, hbracket⟩ := h
  rw [items, hcs]
  simp only
  rw [htail]
  split
  · rename_i h
    cases h
  · rename_i h
    exact absurd (List.cons.inj h).1 hbracket
  · simp only [hv]

theorem items_bracket {cs rest : List Char} (hcs : skipSpace cs = ']' :: rest) (fuel : Nat)
    (acc : List Value) : items item fuel acc cs = .ok (acc.reverse, rest) := by
  unfold items
  rw [hcs]
  rfl

theorem array_bracket {cs rest : List Char} (hcs : skipSpace cs = ']' :: rest) :
    array item cs = .ok (.array [], rest) := by
  unfold array
  rw [hcs]
  rfl

theorem array_item {cs t rest rest' : List Char} {v : Value} {vs : List Value}
    (hcs : skipSpace cs = t) (h : StartsItem t) (hv : item t = .ok (v, rest))
    (hvs : items item rest.length [v] rest = .ok (vs, rest')) :
    array item cs = .ok (.array vs, rest') := by
  obtain ⟨c, t, rfl, -, hbracket⟩ := h
  unfold array
  rw [hcs]
  split
  · rename_i h
    cases h
  · rename_i h
    exact absurd (List.cons.inj h).1 hbracket
  · simp only [hv, bind, Except.bind, hvs]

theorem length_indentedItems (level : Nat) (vs : List Value) :
    (indentedItems level vs).length = vs.length := by
  induction vs with
  | nil => rfl
  | cons v vs ih => simp [indentedItems, ih]

theorem items_behind {vs : List Value} (h : ∀ v ∈ vs, item.Restores (v.indented (level + 1)) v)
    (rest : List Char) {fuel : Nat} (hfuel : vs.length ≤ fuel) (acc : List Value) :
    items item fuel acc (behind ']' level (indentedItems (level + 1) vs) rest) =
      .ok (acc.reverse ++ vs, rest) := by
  induction vs generalizing fuel acc with
  | nil =>
    rw [List.append_nil]
    exact items_bracket (skipSpace_blank (blank_newline level) rfl rest) fuel acc
  | cons v vs ih =>
    obtain ⟨fuel, rfl⟩ := Nat.exists_eq_add_one_of_ne_zero (Nat.ne_zero_of_lt hfuel)
    obtain ⟨hv, hvs⟩ := List.forall_mem_cons.1 h
    have hstarts := hv.starts.append (behind ']' level (indentedItems (level + 1) vs) rest)
    rw [indentedItems, behind_cons, items_comma rfl (hstarts.skipSpace_append (blank_newline _))
      hstarts (hv.read _ (numberEnds_behind _ _ _ _)), ih hvs (Nat.le_of_succ_le_succ hfuel), List.reverse_cons, List.append_assoc]
    rfl

/-- The text of an array is read from behind its bracket. -/
theorem exists_array_block {vs : List Value}
    (h : ∀ v ∈ vs, item.Restores (v.indented (level + 1)) v) (rest : List Char) :
    ∃ cs, block '[' ']' level (indentedItems (level + 1) vs) ++ rest = '[' :: cs ∧
      array item cs = .ok (.array vs, rest) := by
  cases vs with
  | nil => exact ⟨_, rfl, rfl⟩
  | cons v vs =>
    obtain ⟨hv, hvs⟩ := List.forall_mem_cons.1 h
    refine ⟨_, block_cons_append _ _ _ _ _ _, ?_⟩
    have hstarts := hv.starts.append (behind ']' level (indentedItems (level + 1) vs) rest)
    refine array_item (hstarts.skipSpace_append (blank_newline _)) hstarts
      (hv.read _ (numberEnds_behind _ _ _ _)) ?_
    have hlength := length_le_behind ']' level (indentedItems (level + 1) vs) rest
    rw [length_indentedItems] at hlength
    exact items_behind hvs rest hlength [v]

end Arrays

/-! ## Objects -/

section Objects

variable {item : Reader Value} {level : Nat}

/-- What stands for a member behind the first quote of its key. -/
def memberText (level : Nat) (m : String × Value) : List Char :=
  m.1.toList.flatMap escaped ++ '"' :: ':' :: ' ' :: m.2.indented level

theorem indentedMembers_cons (m : String × Value) (ms : Members) :
    indentedMembers level (m :: ms) = ('"' :: memberText level m) :: indentedMembers level ms := by
  obtain ⟨k, v⟩ := m
  rw [indentedMembers, quoted_append, memberText]

theorem length_indentedMembers (level : Nat) (ms : Members) :
    (indentedMembers level ms).length = ms.length := by
  induction ms with
  | nil => rfl
  | cons m ms ih => simp [indentedMembers_cons, ih]

theorem member_memberText (hblank : ∀ cs, item (' ' :: cs) = item cs) {m : String × Value}
    (h : item.Restores (m.2.indented level) m.2) {rest : List Char} (hrest : NumberEnds rest) :
    member item (memberText level m ++ rest) = .ok (m, rest) := by
  have hcolon (cs : List Char) : skipSpace (':' :: cs) = ':' :: cs := rfl
  have hv := h.read rest hrest
  rw [← hblank] at hv
  unfold member memberText
  rw [List.append_assoc, List.cons_append, string_escaped]
  simp only [bind, Except.bind, List.cons_append, hcolon, hv]

theorem members_comma {cs tail tail' rest : List Char} {m : String × Value}
    (hcs : skipSpace cs = ',' :: tail) (htail : skipSpace tail = '"' :: tail')
    (h : member item tail' = .ok (m, rest)) (fuel : Nat) (acc : Members) :
    members item (fuel + 1) acc cs = members item fuel (acc.insert m.1 m.2) rest := by
  rw [members, hcs]
  simp only
  rw [htail]
  simp only [h]

theorem members_brace {cs rest : List Char} (hcs : skipSpace cs = '}' :: rest) (fuel : Nat)
    (acc : Members) : members item fuel acc cs = .ok (acc, rest) := by
  unfold members
  rw [hcs]
  rfl

theorem object_brace {cs rest : List Char} (hcs : skipSpace cs = '}' :: rest) :
    object item cs = .ok (.object [], rest) := by
  unfold object
  rw [hcs]
  rfl

theorem object_member {cs tail rest rest' : List Char} {m : String × Value} {ms : Members}
    (hcs : skipSpace cs = '"' :: tail) (h : member item tail = .ok (m, rest))
    (hms : members item rest.length [m] rest = .ok (ms, rest')) :
    object item cs = .ok (.object ms, rest') := by
  unfold object
  rw [hcs]
  simp only [h, bind, Except.bind, hms]

theorem members_behind (hblank : ∀ cs, item (' ' :: cs) = item cs) {ms : Members}
    (h : ∀ m ∈ ms, item.Restores (m.2.indented (level + 1)) m.2) (rest : List Char) {fuel : Nat}
    (hfuel : ms.length ≤ fuel) {acc : Members} (hkeys : Members.Ascending (acc ++ ms)) :
    members item fuel acc (behind '}' level (indentedMembers (level + 1) ms) rest) =
      .ok (acc ++ ms, rest) := by
  induction ms generalizing fuel acc with
  | nil =>
    rw [List.append_nil]
    exact members_brace (skipSpace_blank (blank_newline level) rfl rest) fuel acc
  | cons m ms ih =>
    obtain ⟨fuel, rfl⟩ := Nat.exists_eq_add_one_of_ne_zero (Nat.ne_zero_of_lt hfuel)
    obtain ⟨hm, hms⟩ := List.forall_mem_cons.1 h
    have hread := member_memberText hblank hm
      (numberEnds_behind '}' level (indentedMembers (level + 1) ms) rest)
    rw [← List.singleton_append, ← List.append_assoc] at hkeys
    have hfirst : Members.Ascending (acc ++ [m]) := hkeys.of_append
    rw [indentedMembers_cons, behind_cons, List.cons_append,
      members_comma rfl (skipSpace_blank (blank_newline _) rfl _) hread,
      Members.insert_of_ascending hfirst, ih hms (Nat.le_of_succ_le_succ hfuel) hkeys,
      List.append_assoc]
    rfl

/-- The text of an object is read from behind its brace. -/
theorem exists_object_block (hblank : ∀ cs, item (' ' :: cs) = item cs) {ms : Members}
    (hkeys : ms.Ascending) (h : ∀ m ∈ ms, item.Restores (m.2.indented (level + 1)) m.2)
    (rest : List Char) :
    ∃ cs, block '{' '}' level (indentedMembers (level + 1) ms) ++ rest = '{' :: cs ∧
      object item cs = .ok (.object ms, rest) := by
  cases ms with
  | nil => exact ⟨_, rfl, rfl⟩
  | cons m ms =>
    obtain ⟨hm, hms⟩ := List.forall_mem_cons.1 h
    rw [indentedMembers_cons]
    refine ⟨_, block_cons_append _ _ _ _ _ _, ?_⟩
    refine object_member (skipSpace_blank (blank_newline _) rfl _)
      (member_memberText hblank hm (numberEnds_behind _ _ _ _)) ?_
    have hlength := length_le_behind '}' level (indentedMembers (level + 1) ms) rest
    rw [length_indentedMembers] at hlength
    exact members_behind hblank hms rest hlength hkeys

end Objects

/-! ## Values -/

theorem value_bracket (levels : Nat) (cs : List Char) :
    value (levels + 1) ('[' :: cs) = array (value levels) cs :=
  rfl

theorem value_brace (levels : Nat) (cs : List Char) :
    value (levels + 1) ('{' :: cs) = object (value levels) cs :=
  rfl

theorem value_constants (levels : Nat) (rest : List Char) :
    value levels ('n' :: 'u' :: 'l' :: 'l' :: rest) = .ok (.null, rest) ∧
      value levels ('t' :: 'r' :: 'u' :: 'e' :: rest) = .ok (.bool true, rest) ∧
      value levels ('f' :: 'a' :: 'l' :: 's' :: 'e' :: rest) = .ok (.bool false, rest) := by
  cases levels <;> exact ⟨rfl, rfl, rfl⟩

theorem startsItem_integerText (n : Int) : StartsItem (integerText n) := by
  cases n with
  | ofNat n =>
    obtain ⟨c, cs, hd, hc⟩ := Numeral.exists_digits_eq_cons n
    exact ⟨c, cs, hd, isSpace_of_isDigit hc, Numeral.ne_of_isDigit hc rfl⟩
  | negSucc n => exact ⟨_, _, rfl, rfl, by decide⟩

theorem startsItem_block {left : Char} (hspace : isSpace left = false) (hne : left ≠ ']')
    (right : Char) (level : Nat) (ts : List (List Char)) :
    StartsItem (block left right level ts) := by
  unfold block
  split <;> exact ⟨left, _, rfl, hspace, hne⟩

/-- The text of a value is read back with as many levels as it was nested in. -/
theorem restores_indented {levels : Nat} {v : Value} (h : v.Nested levels) (hintegral : v.Integral)
    (level : Nat) : Reader.Restores (value levels) (v.indented level) v := by
  induction h generalizing level with
  | null levels => exact ⟨⟨_, _, rfl, rfl, by decide⟩, fun rest _ => (value_constants levels rest).1⟩
  | bool levels b =>
    cases b with
    | false =>
      exact ⟨⟨_, _, rfl, rfl, by decide⟩, fun rest _ => (value_constants levels rest).2.2⟩
    | true =>
      exact ⟨⟨_, _, rfl, rfl, by decide⟩, fun rest _ => (value_constants levels rest).2.1⟩
  | number levels n =>
    cases hintegral with
    | integer n low high =>
      exact ⟨startsItem_integerText n, fun rest hrest => value_integerText levels low high hrest⟩
  | string levels s =>
    exact ⟨⟨_, _, rfl, rfl, by decide⟩, fun rest _ => value_quoted levels s rest⟩
  | @array levels items _ ih =>
    have hparts : ∀ v ∈ items, Reader.Restores (value levels) (v.indented (level + 1)) v :=
      fun v hv => ih v hv (integral_array.1 hintegral v hv) (level + 1)
    refine ⟨startsItem_block rfl (by decide) _ _ _, fun rest _ => ?_⟩
    obtain ⟨cs, hcs, hread⟩ := exists_array_block hparts rest
    rw [Value.indented, hcs, value_bracket, hread]
  | @object levels members hkeys _ ih =>
    have hparts : ∀ m ∈ members, Reader.Restores (value levels) (m.2.indented (level + 1)) m.2 :=
      fun m hm => ih m hm (integral_object.1 hintegral m hm) (level + 1)
    refine ⟨startsItem_block rfl (by decide) _ _ _, fun rest _ => ?_⟩
    obtain ⟨cs, hcs, hread⟩ := exists_object_block (value_blank levels) hkeys hparts rest
    rw [Value.indented, hcs, value_brace, hread]

/-- A value that was read is read back from its text over several lines, with or without white
space behind it. -/
theorem parse_indented {v : Value} (h : v.Nested maxLevels) (hintegral : v.Integral)
    {blank : List Char} (hblank : ∀ c ∈ blank, isSpace c = true) :
    parse (String.ofList (v.indented 0 ++ blank)) = .ok v := by
  have hread := (restores_indented h hintegral 0).read blank (Blank.numberEnds hblank)
  have hskip : skipSpace blank = [] := by
    have hskip := skipSpace_append hblank []
    rwa [List.append_nil] at hskip
  have hdocument : document (v.indented 0 ++ blank) = .ok v := by
    unfold document
    simp only [hread, bind, Except.bind, hskip]
  rw [parse, String.toList_ofList, hdocument]

end PickupGame.Json
