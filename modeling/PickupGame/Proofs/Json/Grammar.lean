import PickupGame.Proofs.Json.Layout
import PickupGame.Proofs.Json.Spelling

/-!
# The grammar of JSON

The texts that stand for a value, given apart from the reader. White space may stand around every
value and every key; an array or object takes one of the levels that may be opened; of the members of
an object, the last one written under a key counts. The reader takes exactly these texts.
-/

namespace PickupGame.Json

/-- An item of an array with the white space around it. -/
structure Item where
  before : List Char
  value : Value
  text : List Char
  after : List Char
  blank_before : Blank before
  blank_after : Blank after

def Item.layout (i : Item) : List Char :=
  i.before ++ (i.text ++ i.after)

/-- A member of an object as it is written, with the white space around its key and its value. -/
structure Entry where
  front : List Char
  key : String
  keyText : List Char
  gap : List Char
  item : Item
  blank_front : Blank front
  blank_gap : Blank gap
  spelled : CharsSpelled key.toList keyText

namespace Entry

def layout (e : Entry) : List Char :=
  e.front ++ '"' :: (e.keyText ++ '"' :: (e.gap ++ ':' :: e.item.layout))

def member (e : Entry) : String × Value :=
  (e.key, e.item.value)

end Entry

/-- The texts of a value inside which `levels` arrays and objects may still be opened in one
another. -/
inductive Value.Spelled : Nat → Value → List Char → Prop
  | null (levels : Nat) : Value.Spelled levels .null ['n', 'u', 'l', 'l']
  | true (levels : Nat) : Value.Spelled levels (.bool Bool.true) ['t', 'r', 'u', 'e']
  | false (levels : Nat) : Value.Spelled levels (.bool Bool.false) ['f', 'a', 'l', 's', 'e']
  | number (levels : Nat) {n : Number} {t : List Char} (h : n.Spelled t) :
      Value.Spelled levels (.number n) t
  | string (levels : Nat) {s : String} {t : List Char} (h : CharsSpelled s.toList t) :
      Value.Spelled levels (.string s) ('"' :: (t ++ ['"']))
  | emptyArray {levels : Nat} {blank : List Char} (hblank : Blank blank) :
      Value.Spelled (levels + 1) (.array []) ('[' :: (blank ++ [']']))
  | array {levels : Nat} {first : Item} {items : List Item}
      (hfirst : Value.Spelled levels first.value first.text)
      (hitems : ∀ i ∈ items, Value.Spelled levels i.value i.text) :
      Value.Spelled (levels + 1) (.array (first.value :: items.map Item.value))
        ('[' :: (first.layout ++ (items.flatMap (',' :: ·.layout) ++ [']'])))
  | emptyObject {levels : Nat} {blank : List Char} (hblank : Blank blank) :
      Value.Spelled (levels + 1) (.object []) ('{' :: (blank ++ ['}']))
  | object {levels : Nat} {first : Entry} {entries : List Entry} {ms : Members}
      (hfirst : Value.Spelled levels first.item.value first.item.text)
      (hentries : ∀ e ∈ entries, Value.Spelled levels e.item.value e.item.text)
      (hkeys : ms.Ascending)
      (hlast : ∀ key, ms.get? key =
        Members.get? ((first :: entries).map Entry.member).reverse key) :
      Value.Spelled (levels + 1) (.object ms)
        ('{' :: (first.layout ++ (entries.flatMap (',' :: ·.layout) ++ ['}'])))

/-- The text is a value with nothing but white space around it. -/
def Document (s : String) (v : Value) : Prop :=
  ∃ before t after, s.toList = before ++ (t ++ after) ∧ Blank before ∧ Blank after ∧
    v.Spelled maxLevels t

/-! ## Parts of arrays and objects -/

/-- The further parts of an array or object with what closes it and stands behind it. -/
def further {α : Type} (layout : α → List Char) (as : List α) (right : Char) (rest : List Char) :
    List Char :=
  as.flatMap (',' :: layout ·) ++ right :: rest

theorem further_cons {α : Type} (layout : α → List Char) (a : α) (as : List α) (right : Char)
    (rest : List Char) :
    further layout (a :: as) right rest = ',' :: (layout a ++ further layout as right rest) := by
  simp [further]

theorem length_le_further {α : Type} (layout : α → List Char) (as : List α) (right : Char)
    (rest : List Char) : as.length ≤ (further layout as right rest).length := by
  induction as with
  | nil => exact Nat.zero_le _
  | cons a as ih =>
    rw [further_cons]
    simp only [List.length_cons, List.length_append]
    omega

theorem Blank.numberEnds_append {b cs : List Char} (hb : Blank b) (hcs : NumberEnds cs) :
    NumberEnds (b ++ cs) := by
  cases b with
  | nil => exact hcs
  | cons c b => exact numberEnds_cons.2 (numberEnds_cons.1 hb.numberEnds)

/-- In front of further parts, or of what closes them, a number has ended. -/
theorem numberEnds_further {α : Type} {b : List Char} (hb : Blank b) (layout : α → List Char)
    (as : List α) {right : Char} (hright : ∀ rest, NumberEnds (right :: rest)) (rest : List Char) :
    NumberEnds (b ++ further layout as right rest) := by
  refine hb.numberEnds_append ?_
  cases as with
  | nil => exact hright rest
  | cons a as => exact numberEnds_cons.2 (by decide)

theorem numberEnds_bracket (rest : List Char) : NumberEnds (']' :: rest) :=
  numberEnds_cons.2 (by decide)

theorem numberEnds_brace (rest : List Char) : NumberEnds ('}' :: rest) :=
  numberEnds_cons.2 (by decide)

theorem Item.layout_append (i : Item) (rest : List Char) :
    i.layout ++ rest = i.before ++ (i.text ++ (i.after ++ rest)) := by
  simp [Item.layout]

/-- What stands behind the first quote of a member. -/
def Entry.behind (e : Entry) (rest : List Char) : List Char :=
  e.keyText ++ '"' :: (e.gap ++ ':' :: (e.item.layout ++ rest))

theorem Entry.layout_append (e : Entry) (rest : List Char) :
    e.layout ++ rest = e.front ++ '"' :: e.behind rest := by
  simp [Entry.layout, Entry.behind]

/-! ## Reading arrays -/

/-- Up to where a number ends, the reader takes white space and a text of the value, and takes every
such text. -/
structure Reader.Reads (item : Reader Value) (P : Value → List Char → Prop) : Prop where
  starts : ∀ {v t}, P v t → StartsItem t
  iff : ∀ {cs v rest}, NumberEnds rest →
    (item cs = .ok (v, rest) ↔ ∃ b t, cs = b ++ (t ++ rest) ∧ Blank b ∧ P v t)

section Parts

variable {item : Reader Value} {P : Value → List Char → Prop} (hitem : item.Reads P)
include hitem

theorem item_sound {before after cs rest : List Char} {v : Value} (hbefore : Blank before)
    (hafter : Blank after) (hrest : NumberEnds (after ++ rest))
    (h : item cs = .ok (v, after ++ rest)) :
    ∃ i : Item, i.value = v ∧ P i.value i.text ∧ before ++ cs = i.layout ++ rest := by
  obtain ⟨b, t, rfl, hb, hP⟩ := (hitem.iff hrest).1 h
  refine ⟨⟨before ++ b, v, t, after, hbefore.append hb, hafter⟩, rfl, hP, ?_⟩
  simp [Item.layout]

theorem item_complete {i : Item} (hi : P i.value i.text) {rest : List Char}
    (hrest : NumberEnds (i.after ++ rest)) :
    item (i.layout ++ rest) = .ok (i.value, i.after ++ rest) :=
  (hitem.iff hrest).2 ⟨i.before, i.text, i.layout_append rest, i.blank_before, hi⟩

theorem items_sound {fuel : Nat} {acc vs : List Value} {cs rest : List Char}
    (h : items item fuel acc cs = .ok (vs, rest)) :
    ∃ (b : List Char) (is : List Item), Blank b ∧ (∀ i ∈ is, P i.value i.text) ∧
      vs = acc.reverse ++ is.map Item.value ∧ cs = b ++ further Item.layout is ']' rest := by
  induction fuel generalizing acc cs with
  | zero =>
    obtain ⟨b, hb, hcs⟩ := exists_blank_append cs
    rcases items_cases h with ⟨rfl, hskip⟩ | ⟨k, v, tail, rest', ⟨⟩, -⟩
    rw [hskip] at hcs
    exact ⟨b, [], hb, nofun, (List.append_nil _).symm, hcs⟩
  | succ fuel ih =>
    obtain ⟨b, hb, hcs⟩ := exists_blank_append cs
    rcases items_cases h with ⟨rfl, hskip⟩ | ⟨k, v, tail, rest', ⟨⟩, hskip, hv, hmore⟩
    · rw [hskip] at hcs
      exact ⟨b, [], hb, nofun, (List.append_nil _).symm, hcs⟩
    · -- Only what follows the item shows that a number in it has ended.
      obtain ⟨before, hbefore, htail⟩ := exists_blank_append tail
      obtain ⟨after, is, hafter, his, rfl, rfl⟩ := ih hmore
      have hends := numberEnds_further hafter Item.layout is numberEnds_bracket rest
      obtain ⟨i, rfl, hi, hlayout⟩ := item_sound hitem hbefore hafter hends hv
      refine ⟨b, i :: is, hb, List.forall_mem_cons.2 ⟨hi, his⟩, by simp, ?_⟩
      rw [hcs, hskip, htail, hlayout, further_cons]

theorem items_complete {is : List Item} (his : ∀ i ∈ is, P i.value i.text) {b : List Char}
    (hb : Blank b) (rest : List Char) {fuel : Nat} (hfuel : is.length ≤ fuel) (acc : List Value) :
    items item fuel acc (b ++ further Item.layout is ']' rest) =
      .ok (acc.reverse ++ is.map Item.value, rest) := by
  induction is generalizing b fuel acc with
  | nil => exact (items_bracket (skipSpace_blank hb rfl rest) fuel acc).trans (by simp)
  | cons i is ih =>
    obtain ⟨fuel, rfl⟩ := Nat.exists_eq_add_one_of_ne_zero (Nat.ne_zero_of_lt hfuel)
    obtain ⟨hi, his⟩ := List.forall_mem_cons.1 his
    have hends := numberEnds_further i.blank_after Item.layout is numberEnds_bracket rest
    have hstarts := (hitem.starts hi).append (i.after ++ further Item.layout is ']' rest)
    have hread := (hitem.iff hends).2 ⟨[], i.text, rfl, blank_nil, hi⟩
    rw [further_cons, Item.layout_append, items_comma (skipSpace_blank hb rfl _)
      (hstarts.skipSpace_append i.blank_before) hstarts hread,
      ih his i.blank_after (Nat.le_of_succ_le_succ hfuel)]
    simp

theorem array_eq_ok {cs rest : List Char} {v : Value} :
    array item cs = .ok (v, rest) ↔
      (v = .array [] ∧ ∃ b, Blank b ∧ cs = b ++ ']' :: rest) ∨
        ∃ (first : Item) (is : List Item), P first.value first.text ∧
          (∀ i ∈ is, P i.value i.text) ∧ v = .array (first.value :: is.map Item.value) ∧
          cs = first.layout ++ further Item.layout is ']' rest := by
  constructor
  · intro h
    obtain ⟨b, hb, hcs⟩ := exists_blank_append cs
    rcases array_cases h with ⟨rfl, hskip⟩ | ⟨w, rest', vs, rfl, hw, hvs⟩
    · exact .inl ⟨rfl, b, hb, by rwa [hskip] at hcs⟩
    · obtain ⟨after, is, hafter, his, rfl, rfl⟩ := items_sound hitem hvs
      have hends := numberEnds_further hafter Item.layout is numberEnds_bracket rest
      obtain ⟨first, rfl, hfirst, hlayout⟩ := item_sound hitem hb hafter hends hw
      exact .inr ⟨first, is, hfirst, his, rfl, hcs.trans hlayout⟩
  · rintro (⟨rfl, b, hb, rfl⟩ | ⟨first, is, hfirst, his, rfl, rfl⟩)
    · exact array_bracket (skipSpace_blank hb rfl rest)
    · have hends := numberEnds_further first.blank_after Item.layout is numberEnds_bracket rest
      have hstarts := (hitem.starts hfirst).append (first.after ++ further Item.layout is ']' rest)
      have hread := (hitem.iff hends).2 ⟨[], first.text, rfl, blank_nil, hfirst⟩
      rw [Item.layout_append]
      refine array_item (hstarts.skipSpace_append first.blank_before) hstarts hread ?_
      refine items_complete hitem his first.blank_after rest ?_ [first.value]
      exact (length_le_further Item.layout is ']' rest).trans (by simp)

/-! ## Reading objects -/

theorem member_sound {front after cs rest : List Char} {m : String × Value} (hfront : Blank front)
    (hafter : Blank after) (hrest : NumberEnds (after ++ rest))
    (h : member item cs = .ok (m, after ++ rest)) :
    ∃ e : Entry, e.member = m ∧ P e.item.value e.item.text ∧
      front ++ '"' :: cs = e.layout ++ rest := by
  obtain ⟨rest', tail, hkey, hskip, hv⟩ := member_eq_ok h
  obtain ⟨keyText, rfl, hspelled⟩ := string_eq_ok.1 hkey
  obtain ⟨gap, hgap, hrest'⟩ := exists_blank_append rest'
  obtain ⟨i, hvalue, hi, hlayout⟩ := item_sound hitem blank_nil hafter hrest hv
  refine ⟨⟨front, m.1, keyText, gap, i, hfront, hgap, hspelled⟩, Prod.ext rfl hvalue, hi, ?_⟩
  rw [hrest', hskip, ← List.nil_append tail, hlayout]
  simp [Entry.layout]

theorem member_complete {e : Entry} (he : P e.item.value e.item.text) {rest : List Char}
    (hrest : NumberEnds (e.item.after ++ rest)) :
    member item (e.behind rest) = .ok (e.member, e.item.after ++ rest) := by
  have hkey : string (e.behind rest) = .ok (e.key, e.gap ++ ':' :: (e.item.layout ++ rest)) :=
    string_eq_ok.2 ⟨e.keyText, rfl, e.spelled⟩
  have hread := item_complete hitem he hrest
  unfold member
  rw [hkey]
  simp only [bind, Except.bind, skipSpace_blank e.blank_gap (c := ':') rfl, hread]
  rfl

theorem members_sound {fuel : Nat} {acc ms : Members} {cs rest : List Char}
    (h : members item fuel acc cs = .ok (ms, rest)) :
    ∃ (b : List Char) (es : List Entry), Blank b ∧ (∀ e ∈ es, P e.item.value e.item.text) ∧
      ms = (es.map Entry.member).foldl (fun acc m => acc.insert m.1 m.2) acc ∧
      cs = b ++ further Entry.layout es '}' rest := by
  induction fuel generalizing acc cs with
  | zero =>
    obtain ⟨b, hb, hcs⟩ := exists_blank_append cs
    rcases members_cases h with ⟨rfl, hskip⟩ | ⟨n, k, v, tail, tail', rest', ⟨⟩, -⟩
    rw [hskip] at hcs
    exact ⟨b, [], hb, nofun, rfl, hcs⟩
  | succ fuel ih =>
    obtain ⟨b, hb, hcs⟩ := exists_blank_append cs
    rcases members_cases h with
      ⟨rfl, hskip⟩ | ⟨n, k, v, tail, tail', rest', ⟨⟩, hskip, hquote, hv, hmore⟩
    · rw [hskip] at hcs
      exact ⟨b, [], hb, nofun, rfl, hcs⟩
    · obtain ⟨front, hfront, htail⟩ := exists_blank_append tail
      obtain ⟨after, es, hafter, hes, rfl, rfl⟩ := ih hmore
      have hends := numberEnds_further hafter Entry.layout es numberEnds_brace rest
      obtain ⟨e, he, hP, hlayout⟩ := member_sound hitem hfront hafter hends hv
      refine ⟨b, e :: es, hb, List.forall_mem_cons.2 ⟨hP, hes⟩, ?_, ?_⟩
      · rw [List.map_cons, List.foldl_cons, he]
      · rw [hcs, hskip, htail, hquote, hlayout, further_cons]

theorem members_complete {es : List Entry} (hes : ∀ e ∈ es, P e.item.value e.item.text)
    {b : List Char} (hb : Blank b) (rest : List Char) {fuel : Nat} (hfuel : es.length ≤ fuel)
    (acc : Members) :
    members item fuel acc (b ++ further Entry.layout es '}' rest) =
      .ok ((es.map Entry.member).foldl (fun acc m => acc.insert m.1 m.2) acc, rest) := by
  induction es generalizing b fuel acc with
  | nil => exact members_brace (skipSpace_blank hb rfl rest) fuel acc
  | cons e es ih =>
    obtain ⟨fuel, rfl⟩ := Nat.exists_eq_add_one_of_ne_zero (Nat.ne_zero_of_lt hfuel)
    obtain ⟨he, hes⟩ := List.forall_mem_cons.1 hes
    have hends := numberEnds_further e.item.blank_after Entry.layout es numberEnds_brace rest
    rw [further_cons, Entry.layout_append, members_comma (skipSpace_blank hb rfl _)
      (skipSpace_blank e.blank_front rfl _) (member_complete hitem he hends),
      ih hes e.item.blank_after (Nat.le_of_succ_le_succ hfuel)]
    rfl

theorem object_eq_ok {cs rest : List Char} {v : Value} :
    object item cs = .ok (v, rest) ↔
      (v = .object [] ∧ ∃ b, Blank b ∧ cs = b ++ '}' :: rest) ∨
        ∃ (first : Entry) (es : List Entry), P first.item.value first.item.text ∧
          (∀ e ∈ es, P e.item.value e.item.text) ∧
          v = .object (Members.ofList ((first :: es).map Entry.member)) ∧
          cs = first.layout ++ further Entry.layout es '}' rest := by
  constructor
  · intro h
    obtain ⟨b, hb, hcs⟩ := exists_blank_append cs
    rcases object_cases h with ⟨rfl, hskip⟩ | ⟨tail, k, w, rest', ms, rfl, hskip, hw, hms⟩
    · exact .inl ⟨rfl, b, hb, by rwa [hskip] at hcs⟩
    · obtain ⟨after, es, hafter, hes, rfl, rfl⟩ := members_sound hitem hms
      have hends := numberEnds_further hafter Entry.layout es numberEnds_brace rest
      obtain ⟨first, hfirst, hP, hlayout⟩ := member_sound hitem hb hafter hends hw
      refine .inr ⟨first, es, hP, hes, ?_, ?_⟩
      · rw [Members.ofList, List.map_cons, List.foldl_cons, hfirst]
        rfl
      · rw [hcs, hskip, hlayout]
  · rintro (⟨rfl, b, hb, rfl⟩ | ⟨first, es, hfirst, hes, rfl, rfl⟩)
    · exact object_brace (skipSpace_blank hb rfl rest)
    · have hends := numberEnds_further first.item.blank_after Entry.layout es numberEnds_brace rest
      rw [Entry.layout_append]
      refine object_member (skipSpace_blank first.blank_front rfl _)
        (member_complete hitem hfirst hends) ?_
      refine members_complete hitem hes first.item.blank_after rest ?_ [first.member]
      exact (length_le_further Entry.layout es '}' rest).trans (by simp)

end Parts

/-! ## Reading values -/

theorem word_eq_ok {v w : Value} {ws cs rest : List Char} :
    word v ws cs = .ok (w, rest) ↔ w = v ∧ cs = ws ++ rest := by
  induction ws generalizing cs with
  | nil =>
    rw [word, Except.ok.injEq, Prod.mk.injEq, List.nil_append]
    exact and_congr_left' eq_comm
  | cons c ws ih =>
    cases cs with
    | nil => exact iff_of_false nofun (by simp)
    | cons d cs =>
      rw [word]
      split
      · rename_i h
        rw [ih, h, List.cons_append, List.cons_inj_right]
      · rename_i h
        exact iff_of_false nofun fun hcs => h (List.cons.inj hcs.2).1

theorem NumberText.startsItem (n : NumberText) : StartsItem n.text := by
  cases hsign : n.negative with
  | true => exact ⟨'-', n.unsigned, by simp [NumberText.text, hsign], rfl, by decide⟩
  | false =>
    obtain ⟨c, cs, hc⟩ := List.exists_cons_of_ne_nil n.nonempty
    have hdigit : c.isDigit = true := n.isDigit c (hc ▸ List.mem_cons_self)
    refine ⟨c, cs ++ n.tail.text, ?_, isSpace_of_isDigit hdigit, Numeral.ne_of_isDigit hdigit rfl⟩
    simp [NumberText.text, NumberText.unsigned, hsign, hc]

theorem Number.Spelled.startsItem {n : Number} {t : List Char} (h : n.Spelled t) :
    StartsItem t := by
  cases h with
  | integer n low high => exact startsItem_integerText n
  | float _ _ => exact NumberText.startsItem _

theorem Value.Spelled.startsItem {levels : Nat} {v : Value} {t : List Char} (h : v.Spelled levels t) :
    StartsItem t := by
  cases h with
  | number _ h => exact h.startsItem
  | _ => exact ⟨_, _, rfl, rfl, by decide⟩

/-- One level of the grammar, given the levels below it. -/
theorem value_eq_ok_of_lt {levels : Nat}
    (hitem : ∀ k, levels = k + 1 → Reader.Reads (value k) (Value.Spelled k)) {cs rest : List Char}
    {v : Value} (hrest : NumberEnds rest) :
    value levels cs = .ok (v, rest) ↔
      ∃ b t, cs = b ++ (t ++ rest) ∧ Blank b ∧ v.Spelled levels t := by
  constructor
  · intro h
    obtain ⟨b, hb, hcs⟩ := exists_blank_append cs
    refine ⟨b, ?_⟩
    unfold value at h
    split at h
    · cases h
    all_goals
      rename_i hskip
      rw [hskip] at hcs
    · obtain ⟨rfl, rfl⟩ := word_eq_ok.1 h
      exact ⟨_, hcs, hb, .null levels⟩
    · obtain ⟨rfl, rfl⟩ := word_eq_ok.1 h
      exact ⟨_, hcs, hb, .true levels⟩
    · obtain ⟨rfl, rfl⟩ := word_eq_ok.1 h
      exact ⟨_, hcs, hb, .false levels⟩
    · obtain ⟨k, t, rfl, hk, ht⟩ := exists_spelled_of_number hrest h
      exact ⟨t, hcs.trans (congrArg (b ++ ·) ht), hb, .number levels hk⟩
    · obtain ⟨⟨s, rest'⟩, hs, htail⟩ := Decode.bind_eq_ok.1 h
      cases htail
      obtain ⟨t, rfl, ht⟩ := string_eq_ok.1 hs
      exact ⟨_, by simpa using hcs, hb, .string levels ht⟩
    · split at h
      · cases h
      · rcases (array_eq_ok (hitem _ rfl)).1 h with
          ⟨rfl, blank, hblank, rfl⟩ | ⟨first, is, hfirst, his, rfl, rfl⟩
        · exact ⟨_, by simpa using hcs, hb, .emptyArray hblank⟩
        · exact ⟨_, by simpa [further] using hcs, hb, .array hfirst his⟩
    · split at h
      · cases h
      · rcases (object_eq_ok (hitem _ rfl)).1 h with
          ⟨rfl, blank, hblank, rfl⟩ | ⟨first, es, hfirst, hes, rfl, rfl⟩
        · exact ⟨_, by simpa using hcs, hb, .emptyObject hblank⟩
        · obtain ⟨hkeys, hlast⟩ := Members.eq_ofList_iff.1
            (Eq.refl (Members.ofList ((first :: es).map Entry.member)))
          exact ⟨_, by simpa [further] using hcs, hb, .object hfirst hes hkeys hlast⟩
    · split at h
      · obtain ⟨k, t, rfl, hk, ht⟩ := exists_spelled_of_number hrest h
        exact ⟨t, hcs.trans (congrArg (b ++ ·) ht), hb, .number levels hk⟩
      · cases h
  · rintro ⟨b, t, rfl, hb, h⟩
    rw [value_append hb]
    cases h with
    | null => exact (value_constants levels rest).1
    | true => exact (value_constants levels rest).2.1
    | false => exact (value_constants levels rest).2.2
    | number _ h => exact value_of_spelled levels h hrest
    | @string _ s t h =>
      have hread : string (t ++ '"' :: rest) = .ok (s, rest) := string_eq_ok.2 ⟨t, rfl, h⟩
      rw [List.cons_append, List.append_assoc, List.singleton_append]
      unfold value
      rw [skipSpace_cons rfl]
      simp only [hread]
      rfl
    | @emptyArray k blank hblank =>
      rw [List.cons_append, value_bracket, List.append_assoc]
      exact (array_eq_ok (hitem k rfl)).2 (.inl ⟨rfl, blank, hblank, rfl⟩)
    | @array k first is hfirst his =>
      rw [List.cons_append, value_bracket]
      refine (array_eq_ok (hitem k rfl)).2 (.inr ⟨first, is, hfirst, his, rfl, ?_⟩)
      simp [further]
    | @emptyObject k blank hblank =>
      rw [List.cons_append, value_brace, List.append_assoc]
      exact (object_eq_ok (hitem k rfl)).2 (.inl ⟨rfl, blank, hblank, rfl⟩)
    | @object k first es ms hfirst hes hkeys hlast =>
      rw [List.cons_append, value_brace]
      refine (object_eq_ok (hitem k rfl)).2 (.inr ⟨first, es, hfirst, hes, ?_, ?_⟩)
      · rw [Members.eq_ofList_iff.2 ⟨hkeys, hlast⟩]
      · simp [further]

/-- The reader of values takes the texts of the grammar, and no others. -/
theorem reads_value (levels : Nat) : Reader.Reads (value levels) (Value.Spelled levels) := by
  induction levels with
  | zero => exact ⟨Value.Spelled.startsItem, value_eq_ok_of_lt fun k hk => absurd hk (Nat.succ_ne_zero k).symm⟩
  | succ levels ih =>
    refine ⟨Value.Spelled.startsItem, value_eq_ok_of_lt fun k hk => ?_⟩
    cases hk
    exact ih

theorem document_eq_ok {cs : List Char} {v : Value} :
    document cs = .ok v ↔ ∃ before t after, cs = before ++ (t ++ after) ∧ Blank before ∧
      Blank after ∧ v.Spelled maxLevels t := by
  constructor
  · intro h
    unfold document at h
    obtain ⟨⟨w, rest⟩, hw, htail⟩ := Decode.bind_eq_ok.1 h
    simp only at htail
    split at htail
    · rename_i hskip
      cases htail
      obtain ⟨after, hafter, hrest⟩ := exists_blank_append rest
      rw [hskip, List.append_nil] at hrest
      subst hrest
      obtain ⟨b, t, rfl, hb, ht⟩ := ((reads_value maxLevels).iff hafter.numberEnds).1 hw
      exact ⟨b, t, rest, rfl, hb, hafter, ht⟩
    · cases htail
  · rintro ⟨before, t, after, rfl, hbefore, hafter, ht⟩
    have hread := ((reads_value maxLevels).iff hafter.numberEnds).2 ⟨before, t, rfl, hbefore, ht⟩
    have hskip : skipSpace after = [] := by
      have hskip := skipSpace_append hafter []
      rwa [List.append_nil] at hskip
    unfold document
    simp only [hread, bind, Except.bind, hskip]

/-- A text is read as a value exactly if it is one with nothing but white space around it. -/
theorem parse_eq_ok {s : String} {v : Value} : parse s = .ok v ↔ Document s v := by
  rw [Document, ← document_eq_ok, parse]
  split
  · rename_i hdocument
    rw [hdocument]
    simp
  · rename_i hdocument
    rw [hdocument]
    simp

/-- Of two members under one key, the last one counts. -/
example : Document "\x7b\"response\": 1000, \"response\": 1001\x7d"
    (.object [("response", .number (.integer 1001 (by decide) (by decide)))]) :=
  parse_eq_ok.1 rfl

end PickupGame.Json
