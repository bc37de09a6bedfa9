import Mathlib.Data.List.TakeWhile
import PickupGame.Url.Base
import PickupGame.Url.Parse

/-!
# Paths below an address

A path put behind an address is read together with it. When the address has no query and no
fragment of its own, the path stays whole: its names are the last ones of the path that is read,
and nothing of it gets into the query. When it has one, the path is lost in that.
-/

namespace PickupGame.Url

/-! ## Names of letters and digits -/

theorem toNat_of_isAlphanum {c : Char} (h : c.isAlphanum = true) :
    0x30 ≤ c.toNat ∧ c.toNat < 0x7F := by
  have hbounds {low high : Char} (hlow : low.val ≤ c.val) (hhigh : c.val ≤ high.val) :
      low.toNat ≤ c.toNat ∧ c.toNat ≤ high.toNat :=
    ⟨UInt32.le_iff_toNat_le.1 hlow, UInt32.le_iff_toNat_le.1 hhigh⟩
  rcases Bool.or_eq_true_iff.1 h with hletter | hdigit
  · rcases Bool.or_eq_true_iff.1 hletter with hupper | hlower
    · have hupper : c.val ≥ 'A'.val ∧ c.val ≤ 'Z'.val := of_decide_eq_true hupper
      have hc := hbounds hupper.1 hupper.2
      simp only [Char.reduceToNat] at hc
      omega
    · obtain ⟨hlow, hhigh⟩ := Bool.and_eq_true_iff.1 hlower
      have hc := hbounds (of_decide_eq_true hlow) (of_decide_eq_true hhigh)
      simp only [Char.reduceToNat] at hc
      omega
  · obtain ⟨hlow, hhigh⟩ := Bool.and_eq_true_iff.1 hdigit
    have hc := hbounds (of_decide_eq_true hlow) (of_decide_eq_true hhigh)
    simp only [Char.reduceToNat] at hc
    omega

theorem ne_of_isAlphanum {c d : Char} (hc : c.isAlphanum = true) (hd : d.isAlphanum = false) :
    c ≠ d := by
  rintro rfl
  exact Bool.noConfusion (hc.symm.trans hd)

theorem not_inPathSet_of_isAlphanum {c : Char} (h : c.isAlphanum = true) :
    inPathSet c = false := by
  have hle := (toNat_of_isAlphanum h).1
  have hne (d : Char) (hd : d.isAlphanum = false) : c ≠ d := ne_of_isAlphanum h hd
  simp [inPathSet, inFragmentSet, isControl, hne, show ¬ c.toNat < 0x20 by omega]

theorem percentEncode_of_isAlphanum {name : List Char} (h : ∀ c ∈ name, c.isAlphanum = true) :
    percentEncode inPathSet name = name := by
  induction name with
  | nil => rfl
  | cons c name ih =>
    have hc := h c List.mem_cons_self
    have hlt : ¬ 0x7F ≤ c.toNat := by have := (toNat_of_isAlphanum hc).2; omega
    rw [percentEncode, List.flatMap_cons, ← percentEncode,
      ih fun d hd => h d (List.mem_cons_of_mem c hd),
      if_neg (by simp [not_inPathSet_of_isAlphanum hc, hlt])]
    rfl

theorem le_toNat_toLower {c : Char} (h : 0x30 ≤ c.toNat) : 0x30 ≤ c.toLower.toNat := by
  unfold Char.toLower
  split
  · rename_i hu
    have hlow : 'A'.val.toNat ≤ c.val.toNat := UInt32.le_iff_toNat_le.1 hu.1
    have hhigh : c.val.toNat ≤ 'Z'.val.toNat := UInt32.le_iff_toNat_le.1 hu.2
    change 0x30 ≤ (c.val + 32).toNat
    rw [UInt32.toNat_add]
    simp at hlow hhigh ⊢
    omega
  · exact h

theorem isDot_of_isAlphanum {name : List Char} (h : ∀ c ∈ name, c.isAlphanum = true) :
    isDot name = false ∧ isDoubleDot name = false := by
  have hne : ∀ c ∈ name.map Char.toLower, c ≠ '.' ∧ c ≠ '%' := by
    intro c hc
    obtain ⟨d, hd, rfl⟩ := List.mem_map.1 hc
    have hle := le_toNat_toLower (toNat_of_isAlphanum (h d hd)).1
    exact ⟨fun he => absurd hle (by rw [he]; decide), fun he => absurd hle (by rw [he]; decide)⟩
  unfold isDot isDoubleDot
  cases hn : name.map Char.toLower with
  | nil => exact ⟨rfl, rfl⟩
  | cons c cs =>
    obtain ⟨hdot, hpercent⟩ := hne c (hn ▸ List.mem_cons_self)
    simp [hdot, hpercent]

/-! ## Plain paths -/

/-- Letters, digits and slashes. -/
def isRoutine (c : Char) : Bool :=
  c.isAlphanum || c = '/'

theorem ne_of_isRoutine {c d : Char} (hc : isRoutine c = true) (hd : isRoutine d = false) :
    c ≠ d := by
  rintro rfl
  exact Bool.noConfusion (hc.symm.trans hd)

theorem toNat_of_isRoutine {c : Char} (h : isRoutine c = true) : 0x20 < c.toNat := by
  simp only [isRoutine, Bool.or_eq_true, decide_eq_true_eq] at h
  rcases h with h | rfl
  · have := (toNat_of_isAlphanum h).1
    omega
  · decide

theorem splitPath_ne_nil (special : Bool) (cs : List Char) : splitPath special cs ≠ [] := by
  cases cs with
  | nil => simp [splitPath]
  | cons c cs =>
    unfold splitPath
    split
    · simp
    · split <;> simp

theorem splitPath_append (special : Bool) (cs ds : List Char) :
    splitPath special (cs ++ '/' :: ds) = splitPath special cs ++ splitPath special ds := by
  induction cs with
  | nil => simp [splitPath, isSlash]
  | cons c cs ih =>
    rw [List.cons_append, splitPath, splitPath, ih]
    split
    · rfl
    · cases hs : splitPath special cs with
      | nil => exact absurd hs (splitPath_ne_nil special cs)
      | cons p ps => rfl

theorem isSlash_of_isRoutine {special : Bool} {c : Char} (h : isRoutine c = true) :
    isSlash special c = decide (c = '/') := by
  simp [isSlash, ne_of_isRoutine h (d := '\\') rfl]

theorem isAlphanum_of_mem_splitPath {special : Bool} {cs : List Char}
    (h : ∀ c ∈ cs, isRoutine c = true) :
    ∀ name ∈ splitPath special cs, ∀ c ∈ name, c.isAlphanum = true := by
  induction cs with
  | nil => simp [splitPath]
  | cons c cs ih =>
    have hc := h c List.mem_cons_self
    have ih := ih fun d hd => h d (List.mem_cons_of_mem c hd)
    rw [splitPath, isSlash_of_isRoutine hc]
    by_cases hslash : c = '/'
    · simpa [hslash] using ih
    · have hc : c.isAlphanum = true := by simpa [isRoutine, hslash] using hc
      cases hs : splitPath special cs with
      | nil => exact absurd hs (splitPath_ne_nil special cs)
      | cons p ps =>
        rw [hs] at ih
        simp only [hslash, decide_false, Bool.false_eq_true, if_false, List.mem_cons]
        rintro name (rfl | hname) d hd
        · rcases List.mem_cons.1 hd with rfl | hd
          · exact hc
          · exact ih p List.mem_cons_self d hd
        · exact ih name (List.mem_cons_of_mem p hname) d hd

/-- The pieces of a path with a slash before each are the path with a slash before it. -/
theorem flatMap_splitPath (special : Bool) {cs : List Char} (h : ∀ c ∈ cs, isRoutine c = true) :
    (splitPath special cs).flatMap ('/' :: ·) = '/' :: cs := by
  induction cs with
  | nil => rfl
  | cons c cs ih =>
    have ih := ih fun d hd => h d (List.mem_cons_of_mem c hd)
    rw [splitPath, isSlash_of_isRoutine (h c List.mem_cons_self)]
    by_cases hslash : c = '/'
    · subst hslash
      simpa using ih
    · cases hs : splitPath special cs with
      | nil => exact absurd hs (splitPath_ne_nil special cs)
      | cons p ps =>
        rw [hs] at ih
        simpa [hslash] using ih

/-! ## Segments -/

theorem resolve_cons (acc : List (List Char)) (p : List Char) {ps : List (List Char)}
    (h : ps ≠ []) : ∃ acc', resolve acc (p :: ps) = resolve acc' ps := by
  cases ps with
  | nil => exact absurd rfl h
  | cons q qs =>
    by_cases hdouble : isDoubleDot p = true
    · exact ⟨acc.dropLast, by rw [resolve, if_pos hdouble]; simp⟩
    by_cases hdot : isDot p = true
    · exact ⟨acc, by rw [resolve, if_neg hdouble, if_pos hdot]; simp⟩
    · exact ⟨acc ++ [percentEncode inPathSet p], by
        rw [resolve, if_neg hdouble, if_neg hdot]; simp⟩

theorem resolve_plain {names : List (List Char)}
    (h : ∀ name ∈ names, ∀ c ∈ name, c.isAlphanum = true) (acc : List (List Char)) :
    resolve acc names = acc ++ names := by
  induction names generalizing acc with
  | nil => simp [resolve]
  | cons name names ih =>
    have hname := h name List.mem_cons_self
    obtain ⟨hdot, hdouble⟩ := isDot_of_isAlphanum hname
    cases names with
    | nil => simp [resolve, hdot, hdouble, percentEncode_of_isAlphanum hname]
    | cons q qs =>
      have ih := ih (fun p hp => h p (List.mem_cons_of_mem name hp)) (acc ++ [name])
      simp only [resolve, hdot, hdouble, percentEncode_of_isAlphanum hname, Bool.false_eq_true,
        if_false]
      rw [ih, List.append_assoc, List.singleton_append]

/-- Plain names at the end of a path are its last segments, whatever stands in front of them. -/
theorem exists_resolve_append {names : List (List Char)} (hne : names ≠ [])
    (h : ∀ name ∈ names, ∀ c ∈ name, c.isAlphanum = true) (ps acc : List (List Char)) :
    ∃ front, resolve acc (ps ++ names) = front ++ names := by
  induction ps generalizing acc with
  | nil => exact ⟨acc, resolve_plain h acc⟩
  | cons p ps ih =>
    have hne' : ps ++ names ≠ [] := by simp [hne]
    obtain ⟨acc', hacc⟩ := resolve_cons acc p hne'
    obtain ⟨front, hfront⟩ := ih acc'
    exact ⟨front, (List.cons_append ▸ hacc).trans hfront⟩

variable {path : List Char}

theorem exists_segments_append (special : Bool) (hpath : ∀ c ∈ path, isRoutine c = true)
    (cs : List Char) :
    ∃ front, segments special (cs ++ '/' :: path) = front ++ splitPath special path := by
  unfold segments
  rw [splitPath_append]
  exact exists_resolve_append (splitPath_ne_nil special path) (isAlphanum_of_mem_splitPath hpath) _ _

theorem exists_pathBehindHost_append (special : Bool) (hpath : ∀ c ∈ path, isRoutine c = true)
    (cs : List Char) :
    ∃ front, pathBehindHost special (cs ++ '/' :: path) =
      .segments (front ++ splitPath special path) := by
  cases cs with
  | nil =>
    refine ⟨[], ?_⟩
    have h : resolve [] (splitPath special path) = [] ++ splitPath special path :=
      resolve_plain (isAlphanum_of_mem_splitPath hpath) []
    simpa [pathBehindHost, isSlash, segments] using h
  | cons c cs =>
    simp only [List.cons_append, pathBehindHost]
    split
    · obtain ⟨front, h⟩ := exists_segments_append special hpath cs
      exact ⟨front, congrArg Path.segments h⟩
    · obtain ⟨front, h⟩ := exists_segments_append special hpath (c :: cs)
      exact ⟨front, congrArg Path.segments h⟩

/-! ## Reading an address with a path behind it -/

theorem takeWhile_append_of_ne_nil {p : Char → Bool} {cs : List Char} (h : cs.dropWhile p ≠ [])
    (ds : List Char) : (cs ++ ds).takeWhile p = cs.takeWhile p := by
  induction cs with
  | nil => exact absurd rfl h
  | cons c cs ih =>
    by_cases hc : p c = true
    · simpa [hc] using ih (by simpa [hc] using h)
    · simp [hc]

theorem mem_dropWhile_of_eq_false {p : Char → Bool} {cs : List Char} {c : Char} (hc : c ∈ cs)
    (hp : p c = false) : c ∈ cs.dropWhile p := by
  rw [← List.takeWhile_append_dropWhile (p := p) (l := cs)] at hc
  rcases List.mem_append.1 hc with htake | hdrop
  · have htrue := List.mem_takeWhile_imp htake
    rw [hp] at htrue
    cases htrue
  · exact hdrop

theorem dropWhile_append_of_ne_nil {p : Char → Bool} {cs : List Char} (h : cs.dropWhile p ≠ [])
    (ds : List Char) : (cs ++ ds).dropWhile p = cs.dropWhile p ++ ds := by
  rw [List.dropWhile_append, if_neg (by simpa using h)]

theorem exists_dropWhile_append {p : Char → Bool} (cs : List Char) {d : Char} (hd : p d = false)
    (ds : List Char) : ∃ t, (cs ++ d :: ds).dropWhile p = t ++ d :: ds := by
  by_cases h : cs.dropWhile p = []
  · exact ⟨[], by rw [List.dropWhile_append, h]; simp [hd]⟩
  · exact ⟨cs.dropWhile p, dropWhile_append_of_ne_nil h _⟩

/-- Blanks at the end of an address remain when something else than blanks is put behind it. -/
theorem exists_clean_append {ds : List Char} (hne : ds ≠ []) (hds : ∀ c ∈ ds, 0x20 < c.toNat)
    (cs : List Char) :
    ∃ w : List Char, (∀ c ∈ w, c.toNat ≤ 0x20) ∧ clean (cs ++ ds) = clean cs ++ w ++ ds := by
  let blank (c : Char) : Bool := c.toNat ≤ 0x20
  let kept (c : Char) : Bool := c ≠ '\t' && c ≠ '\n' && c ≠ '\r'
  have hblank : ∀ c ∈ ds, blank c = false := fun c hc => by simpa [blank] using hds c hc
  have hstart : (cs ++ ds).dropWhile blank = cs.dropWhile blank ++ ds := by
    cases ds with
    | nil => exact absurd rfl hne
    | cons d ds =>
      rw [List.dropWhile_append]
      split
      · rename_i h
        simp [List.isEmpty_iff.1 h, hblank d List.mem_cons_self]
      · rfl
  have hend : ((cs.dropWhile blank ++ ds).reverse.dropWhile blank).reverse =
      cs.dropWhile blank ++ ds := by
    rw [List.reverse_append]
    cases hr : ds.reverse with
    | nil => exact absurd (List.reverse_eq_nil_iff.1 hr) hne
    | cons d ds' =>
      have hd : blank d = false := hblank d (List.mem_reverse.1 (hr ▸ List.mem_cons_self))
      rw [List.cons_append, List.dropWhile_cons_of_neg (by simp [hd]), ← List.cons_append, ← hr,
        List.reverse_append, List.reverse_reverse, List.reverse_reverse]
  have hkept : ds.filter kept = ds := by
    refine List.filter_eq_self.2 fun c hc => ?_
    have hlt := hds c hc
    have h : c ≠ '\t' ∧ c ≠ '\n' ∧ c ≠ '\r' := by
      refine ⟨?_, ?_, ?_⟩ <;> rintro rfl <;> exact absurd hlt (by decide)
    simp [kept, h]
  have hsplit := congrArg List.reverse
    (List.takeWhile_append_dropWhile (p := blank) (l := (cs.dropWhile blank).reverse))
  rw [List.reverse_append, List.reverse_reverse] at hsplit
  refine ⟨(((cs.dropWhile blank).reverse.takeWhile blank).reverse).filter kept, ?_, ?_⟩
  · intro c hc
    have hc := List.mem_reverse.1 (List.mem_filter.1 hc).1
    simpa [blank] using List.all_eq_true.1 List.all_takeWhile c hc
  · change ((((cs ++ ds).dropWhile blank).reverse.dropWhile blank).reverse).filter kept =
      (((cs.dropWhile blank).reverse.dropWhile blank).reverse).filter kept ++ _ ++ ds
    rw [hstart, hend, List.filter_append, hkept, ← List.filter_append, hsplit]

theorem scheme?_append {cs scheme rest : List Char} (h : scheme? cs = some (scheme, rest))
    (ds : List Char) : scheme? (cs ++ ds) = some (scheme, rest ++ ds) := by
  have hne : cs.dropWhile isSchemeChar ≠ [] := by
    intro hd
    simp [scheme?, hd] at h
  unfold scheme? at h ⊢
  rw [takeWhile_append_of_ne_nil hne, dropWhile_append_of_ne_nil hne]
  cases hd : cs.dropWhile isSchemeChar with
  | nil => exact absurd hd hne
  | cons c cs' =>
    rw [hd] at h
    by_cases hc : c = ':'
    · subst hc
      simp only [List.cons_append] at h ⊢
      split at h
      · rename_i ha
        simp only [Option.some.injEq, Prod.mk.injEq] at h
        simp [ha, h]
      · exact absurd h (by simp)
    · simp [hc] at h

section

variable [Idna]

/-- An address of a special scheme is its authority with the path, query and fragment behind it. -/
theorem exists_authority {scheme cs : List Char} {u : Url} (hs : isSpecial scheme = true)
    (h : parseAuthority scheme cs = .ok u) :
    ∃ a, Authority.parse scheme ((beforeQuery cs).takeWhile (!endsAuthority true ·)) = .ok a ∧
      u = ⟨scheme, a.username, a.password, some a.host, a.port,
        pathBehindHost true ((beforeQuery cs).dropWhile (!endsAuthority true ·)),
        query? true cs, fragment? cs⟩ := by
  simp only [parseAuthority, hs, Bool.not_true, Bool.and_false, Bool.false_eq_true, if_false] at h
  cases ha : Authority.parse scheme ((beforeQuery cs).takeWhile (!endsAuthority true ·)) with
  | error e => simp [ha, bind, Except.bind] at h
  | ok a =>
    refine ⟨a, rfl, ?_⟩
    simpa [ha, bind, Except.bind, pure, Except.pure, eq_comm] using h

theorem parseAuthority_of_authority {scheme cs : List Char} (hs : isSpecial scheme = true)
    {a : Authority}
    (h : Authority.parse scheme ((beforeQuery cs).takeWhile (!endsAuthority true ·)) = .ok a) :
    parseAuthority scheme cs = .ok ⟨scheme, a.username, a.password, some a.host, a.port,
      pathBehindHost true ((beforeQuery cs).dropWhile (!endsAuthority true ·)), query? true cs,
      fragment? cs⟩ := by
  simp [parseAuthority, hs, h, bind, Except.bind, pure, Except.pure]

theorem not_authority_nil {scheme : List Char} (hs : isSpecial scheme = true) (a : Authority) :
    Authority.parse scheme [] ≠ .ok a := by
  simp [Authority.parse, splitUserinfo, splitHost, hs, bind, Except.bind, throw, throwThe,
    MonadExceptOf.throw]

theorem of_parseFile {scheme cs : List Char} {u : Url} (h : parseFile scheme cs = .ok u) :
    u.scheme = scheme ∧ u.query = query? true cs := by
  simp only [parseFile, bind, Except.bind, pure, Except.pure] at h
  repeat' split at h
  all_goals cases h <;> exact ⟨rfl, rfl⟩

theorem of_parseAuthority {scheme cs : List Char} {u : Url} (h : parseAuthority scheme cs = .ok u) :
    u.scheme = scheme ∧ u.query = query? (isSpecial scheme) cs := by
  simp only [parseAuthority, bind, Except.bind, pure, Except.pure] at h
  repeat' split at h
  all_goals cases h <;> exact ⟨rfl, rfl⟩

/-- Reading finds the scheme first, and the address keeps it. The query is that of what follows. -/
theorem exists_scheme {text : String} {u : Url} (h : parse text = .ok u) :
    ∃ rest, scheme? (clean text.toList) = some (u.scheme, rest) ∧
      ∃ special cs, cs <:+ rest ∧ u.query = query? special cs := by
  unfold parse at h
  cases hs : scheme? (clean text.toList) with
  | none => simp [hs] at h
  | some p =>
    obtain ⟨scheme, rest⟩ := p
    rw [hs] at h
    simp only at h
    split at h
    · obtain ⟨hscheme, hquery⟩ := of_parseFile h
      exact ⟨rest, by rw [hscheme], _, rest, List.suffix_refl rest, hquery⟩
    split at h
    · obtain ⟨hscheme, hquery⟩ := of_parseAuthority h
      exact ⟨rest, by rw [hscheme], _, _, List.dropWhile_suffix _, hquery⟩
    split at h
    · rename_i behind
      obtain ⟨hscheme, hquery⟩ := of_parseAuthority h
      exact ⟨'/' :: '/' :: behind, by rw [hscheme], _, behind,
        List.suffix_append ['/', '/'] behind, hquery⟩
    · rename_i behind _
      cases h
      exact ⟨'/' :: behind, rfl, false, behind, List.suffix_append ['/'] behind, rfl⟩
    · cases h
      exact ⟨rest, rfl, false, rest, List.suffix_refl rest, rfl⟩

theorem parse_special {text : String} {scheme rest : List Char}
    (h : scheme? (clean text.toList) = some (scheme, rest)) (hs : isSpecial scheme = true)
    (hf : isFileScheme scheme = false) :
    parse text = parseAuthority scheme (rest.dropWhile (isSlash true)) := by
  simp [parse, h, hs, hf]

end

theorem beforeQuery_of_notMem {cs : List Char} (h : ∀ c ∈ cs, c ≠ '?' ∧ c ≠ '#') :
    beforeQuery cs = cs :=
  List.takeWhile_eq_self_iff.2 fun c hc => by simp [h c hc]

theorem query?_of_notMem (special : Bool) {cs : List Char} (h : '?' ∉ cs) :
    query? special cs = none := by
  unfold query?
  split
  · rename_i hmark
    exact absurd ((List.dropWhile_suffix _).subset (hmark ▸ List.mem_cons_self)) h
  · rfl

theorem fragment?_of_notMem {cs : List Char} (h : ∀ c ∈ cs, c ≠ '#') : fragment? cs = none := by
  have hnil : cs.dropWhile (· ≠ '#') = [] :=
    List.dropWhile_eq_nil_iff.2 fun c hc => by simp [h c hc]
  rw [fragment?, hnil]

theorem mem_of_mem_clean {cs : List Char} {c : Char} (h : c ∈ clean cs) : c ∈ cs := by
  have h := List.mem_reverse.1 (List.mem_filter.1 h).1
  have h := List.mem_reverse.1 ((List.dropWhile_suffix _).subset h)
  exact (List.dropWhile_suffix _).subset h

theorem mem_of_mem_scheme? {cs scheme rest : List Char} (h : scheme? cs = some (scheme, rest))
    {c : Char} (hc : c ∈ rest) : c ∈ cs := by
  unfold scheme? at h
  simp only at h
  split at h
  · rename_i cs' hd
    split at h
    · simp only [Option.some.injEq, Prod.mk.injEq] at h
      refine (List.dropWhile_suffix isSchemeChar).subset ?_
      rw [hd, h.2]
      exact List.mem_cons_of_mem ':' hc
    · exact absurd h (by simp)
  · exact absurd h (by simp)

theorem query_of_parse [Idna] {text : String} {u : Url} (h : parse text = .ok u) (hmark : '?' ∉ text.toList) :
    u.query = none := by
  obtain ⟨rest, hscheme, special, cs, hcs, hquery⟩ := exists_scheme h
  rw [hquery]
  refine query?_of_notMem special fun hmem => hmark ?_
  exact mem_of_mem_clean (mem_of_mem_scheme? hscheme (hcs.subset hmem))

theorem toList_below (base path : String) :
    (below base path).toList = base.toList ++ '/' :: path.toList := by
  simp [below]

section Behind

variable [Idna] {text : String} {scheme cs path : List Char}
  (hscheme : scheme? (clean text.toList) = some (scheme, cs ++ '/' :: path))
  (hs : isSpecial scheme = true) (hf : isFileScheme scheme = false)
  (hcs : cs.dropWhile (isSlash true) ≠ [])
include hscheme hs hf hcs

/-- What is read of an authority with a plain path behind it. -/
theorem exists_parse_plain (hmarks : ∀ c ∈ cs, c ≠ '?' ∧ c ≠ '#')
    (hpath : ∀ c ∈ path, isRoutine c = true) {v : Url} (hv : parse text = .ok v) :
    v.scheme = scheme ∧ v.host.isSome = true ∧ v.query = none ∧ v.fragment = none ∧
      ∃ front, v.path = .segments (front ++ splitPath true path) := by
  rw [parse_special hscheme hs hf, dropWhile_append_of_ne_nil hcs] at hv
  have hall : ∀ c ∈ cs.dropWhile (isSlash true) ++ '/' :: path, c ≠ '?' ∧ c ≠ '#' := by
    intro c hc
    rcases List.mem_append.1 hc with hc | hc
    · exact hmarks c ((List.dropWhile_suffix _).subset hc)
    rcases List.mem_cons.1 hc with rfl | hc
    · decide
    · exact ⟨ne_of_isRoutine (hpath c hc) rfl, ne_of_isRoutine (hpath c hc) rfl⟩
  obtain ⟨a, -, rfl⟩ := exists_authority hs hv
  refine ⟨rfl, rfl, query?_of_notMem true fun h => (hall '?' h).1 rfl,
    fragment?_of_notMem fun c hc => (hall c hc).2, ?_⟩
  rw [beforeQuery_of_notMem hall]
  obtain ⟨t, ht⟩ := exists_dropWhile_append (p := (!endsAuthority true ·))
    (cs.dropWhile (isSlash true)) (d := '/') rfl path
  obtain ⟨front, hfront⟩ := exists_pathBehindHost_append true hpath t
  exact ⟨front, by rw [← hfront, ← ht]⟩

/-- Behind a query or a fragment, it makes no difference for the path which path is put there. -/
theorem exists_parse_marked (hmark : ∃ c ∈ cs, c = '?' ∨ c = '#') {text' : String}
    {path' : List Char} (hscheme' : scheme? (clean text'.toList) = some (scheme, cs ++ '/' :: path'))
    {v : Url} (hv : parse text = .ok v) :
    v.host.isSome = true ∧
      ∃ v', parse text' = .ok v' ∧ v'.host.isSome = true ∧ v'.pathText = v.pathText := by
  rw [parse_special hscheme hs hf, dropWhile_append_of_ne_nil hcs] at hv
  obtain ⟨c, hc, hmark⟩ := hmark
  have hends : isSlash true c = false ∧ (c ≠ '?' && c ≠ '#') = false := by
    rcases hmark with rfl | rfl
    · decide
    · decide
  have hbefore (ds : List Char) : beforeQuery (cs.dropWhile (isSlash true) ++ ds) =
      beforeQuery (cs.dropWhile (isSlash true)) :=
    takeWhile_append_of_ne_nil (List.ne_nil_of_mem
      (mem_dropWhile_of_eq_false (mem_dropWhile_of_eq_false hc hends.1) hends.2)) ds
  obtain ⟨a, ha, rfl⟩ := exists_authority hs hv
  have hsame := (hbefore ('/' :: path)).trans (hbefore ('/' :: path')).symm
  rw [hsame] at ha
  have hparse : parse text' = parseAuthority scheme (cs.dropWhile (isSlash true) ++ '/' :: path') := by
    rw [parse_special hscheme' hs hf, dropWhile_append_of_ne_nil hcs]
  refine ⟨rfl, _, hparse.trans (parseAuthority_of_authority hs ha), rfl, ?_⟩
  simp only [pathText, hsame]

end Behind

/-- What is read of an address with a plain path below it. -/
theorem exists_parse_below [Idna] {base path : String} {u v : Url} (hu : parse base = .ok u)
    (hs : isSpecial u.scheme = true) (hf : isFileScheme u.scheme = false)
    (hbase : ∀ c ∈ base.toList, c ≠ '?' ∧ c ≠ '#') (hpath : ∀ c ∈ path.toList, isRoutine c = true)
    (hv : parse (below base path) = .ok v) :
    v.scheme = u.scheme ∧ v.host.isSome = true ∧ v.query = none ∧ v.fragment = none ∧
      ∃ front, v.path = .segments (front ++ splitPath true path.toList) := by
  obtain ⟨rest, hscheme, -⟩ := exists_scheme hu
  rw [parse_special hscheme hs hf] at hu
  -- The authority is not empty, so the slashes in front of it end before the path.
  have hauthority : rest.dropWhile (isSlash true) ≠ [] := by
    intro hnil
    obtain ⟨a, ha, -⟩ := exists_authority hs hu
    rw [hnil] at ha
    exact not_authority_nil hs a ha
  have hplain : ∀ c ∈ '/' :: path.toList, isRoutine c = true := by
    intro c hc
    rcases List.mem_cons.1 hc with rfl | hc
    · rfl
    · exact hpath c hc
  obtain ⟨w, hw, hclean⟩ := exists_clean_append (List.cons_ne_nil '/' path.toList)
    (fun c hc => toNat_of_isRoutine (hplain c hc)) base.toList
  rw [← toList_below, List.append_assoc] at hclean
  have hscheme' := scheme?_append hscheme (w ++ '/' :: path.toList)
  rw [← hclean, ← List.append_assoc] at hscheme'
  have hblanks : (rest ++ w).dropWhile (isSlash true) ≠ [] := by
    rw [dropWhile_append_of_ne_nil hauthority]
    simp [hauthority]
  refine exists_parse_plain hscheme' hs hf hblanks (fun c hc => ?_) hpath hv
  rcases List.mem_append.1 hc with hc | hc
  · exact hbase c (mem_of_mem_clean (mem_of_mem_scheme? hscheme hc))
  · have hle := hw c hc
    exact ⟨by rintro rfl; exact absurd hle (by decide), by rintro rfl; exact absurd hle (by decide)⟩

end PickupGame.Url
