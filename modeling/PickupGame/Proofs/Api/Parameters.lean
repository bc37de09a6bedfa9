import PickupGame.Proofs.Api.Request

/-!
# Parameters of calls

The parameters of a call stand in one order for all operations: the key, the id of a player, a name,
a size, the id of a pug and a map, as far as the call has them. No name comes twice, so what is
looked up under a name is what is sent under it, and the parameters determine the call.
-/

namespace PickupGame.Api

open Numeral (IsNumeral)

/-- The parameters besides the key that every call of an operation has. -/
def Endpoint.required : Endpoint → List String
  | addPlayer | createPug => ["steamid", "name", "size"]
  | removePlayer => ["steamid"]
  | endPug | pugStatus | listPugPlayers | forceMap => ["pugid"]
  | listPugs => []
  | addMapVote => ["steamid", "map"]

/-! ## Optional parameters -/

theorem lookup_optionalParam (name other : String) (value : Option String) :
    (optionalParam name value).lookup other = if other = name then value else none := by
  cases value with
  | none => simp [optionalParam]
  | some text =>
    by_cases h : other = name
    · simp [optionalParam, h]
    · have hb : (other == name) = false := by simpa using h
      simp [optionalParam, List.lookup_cons, hb, h]

theorem keys_optionalParam_sublist (name : String) (value : Option String) :
    ((optionalParam name value).map Prod.fst).Sublist [name] := by
  cases value with
  | none => exact List.nil_sublist [name]
  | some text => exact List.Sublist.refl [name]

theorem isNumeral_decimal (n : Nat) : IsNumeral (decimal n).toList n := by
  rw [decimal, String.toList_ofList]
  exact Numeral.isNumeral_digits n

/-! ## Looking up -/

namespace Request

variable {r : Request} {name text : String}

theorem contains_iff : r.contains name = true ↔ name ∈ r.keys := by
  simp only [contains, get?, keys, List.lookup_isSome_iff, beq_iff_eq, List.mem_map]
  simp only [eq_comm]

/-- Where no name comes twice, the first value under a name is the only one. -/
theorem get?_eq_some (h : r.keys.Nodup) : r.get? name = some text ↔ (name, text) ∈ r.params := by
  rw [get?, List.lookup_eq_some_iff]
  constructor
  · rintro ⟨front, back, hparams, -⟩
    rw [hparams]
    exact List.mem_append_right front List.mem_cons_self
  · intro hmem
    obtain ⟨front, back, hparams⟩ := List.append_of_mem hmem
    refine ⟨front, back, hparams, fun p hp => bne_iff_ne.2 ?_⟩
    rintro rfl
    rw [keys, hparams, List.map_append, List.nodup_append] at h
    exact h.2.2 p.1 (List.mem_map_of_mem hp) p.1 List.mem_cons_self rfl

end Request

namespace Call

/-! ## Arguments by name -/

def steamId? : Call → Option UInt64
  | addPlayer steamId .. | removePlayer steamId | createPug steamId .. | addMapVote steamId _ =>
    some steamId
  | _ => none

def name? : Call → Option String
  | addPlayer _ name .. | createPug _ name .. => some name
  | _ => none

def size? : Call → Option UInt32
  | addPlayer _ _ size _ | createPug _ _ size _ => some size
  | _ => none

def pugId? : Call → Option UInt64
  | addPlayer _ _ _ pugId => pugId
  | endPug pugId | pugStatus pugId | listPugPlayers pugId | forceMap pugId _ => some pugId
  | _ => none

/-- An empty map is none, except where it is voted for. -/
def map? : Call → Option String
  | createPug _ _ _ map => map.filter (· ≠ "")
  | addMapVote _ map => some map
  | forceMap _ map => (some map).filter (· ≠ "")
  | _ => none

/-- The parameters that other calls of the same operation may lack. -/
def optional : Call → List String
  | addPlayer _ _ _ (some _) => ["pugid"]
  | createPug _ _ _ (some map) | forceMap _ map => if map = "" then [] else ["map"]
  | _ => []

/-! ## Parameters -/

theorem arguments_eq (c : Call) :
    c.arguments = optionalParam "steamid" (c.steamId?.map fun n => decimal n.toNat)
      ++ (optionalParam "name" c.name?
      ++ (optionalParam "size" (c.size?.map fun n => decimal n.toNat)
      ++ (optionalParam "pugid" (c.pugId?.map fun n => decimal n.toNat)
      ++ optionalParam "map" c.map?))) := by
  cases c with
  | addPlayer steamId name size pugId => cases pugId <;> rfl
  | _ => rfl

theorem keys_request (key : String) (c : Call) :
    (c.request key).keys = "key" :: (c.endpoint.required ++ c.optional) := by
  cases c with
  | addPlayer steamId name size pugId => cases pugId <;> rfl
  | createPug steamId name size map =>
    cases map with
    | none => rfl
    | some map =>
      by_cases h : map = "" <;>
        simp [Request.keys, arguments, mapParam, optionalParam, Option.filter, endpoint,
          Endpoint.required, optional, h]
  | forceMap pugId map =>
    by_cases h : map = "" <;>
      simp [Request.keys, arguments, mapParam, optionalParam, Option.filter, endpoint,
        Endpoint.required, optional, h]
  | _ => rfl

theorem nodup_keys_request (key : String) (c : Call) : (c.request key).keys.Nodup := by
  have hall : ["key", "steamid", "name", "size", "pugid", "map"].Nodup := by decide
  have hsublist : (c.arguments.map Prod.fst).Sublist ["steamid", "name", "size", "pugid", "map"] := by
    rw [arguments_eq]
    simp only [List.map_append]
    exact (keys_optionalParam_sublist _ _).append <| (keys_optionalParam_sublist _ _).append <|
      (keys_optionalParam_sublist _ _).append <| (keys_optionalParam_sublist _ _).append <|
      keys_optionalParam_sublist _ _
  exact (hsublist.cons_cons "key").nodup hall

theorem get?_request (key : String) (c : Call) (name : String) :
    (c.request key).get? name = if name = "key" then some key else c.arguments.lookup name := by
  by_cases h : name = "key"
  · simp [Request.get?, h]
  · have hb : (name == "key") = false := by simpa using h
    simp [Request.get?, List.lookup_cons, hb, h]

theorem lookup_arguments (c : Call) (name : String) :
    c.arguments.lookup name =
      if name = "steamid" then c.steamId?.map fun n => decimal n.toNat
      else if name = "name" then c.name?
      else if name = "size" then c.size?.map fun n => decimal n.toNat
      else if name = "pugid" then c.pugId?.map fun n => decimal n.toNat
      else if name = "map" then c.map?
      else none := by
  simp only [arguments_eq, List.lookup_append, lookup_optionalParam]
  split_ifs <;> simp_all

/-- What is known of the parameters that are sent for a call. -/
structure Exact (key : String) (c : Call) (r : Request) : Prop where
  endpoint : r.endpoint = c.endpoint
  keys : r.keys = "key" :: (c.endpoint.required ++ c.optional)
  nodup : r.keys.Nodup
  contains_iff : ∀ name, r.contains name = true ↔ name ∈ r.keys
  /-- What is looked up under a name is what is sent under it. -/
  get?_iff : ∀ name text, r.get? name = some text ↔ (name, text) ∈ r.params
  apiKey : r.get? "key" = some key
  steamId : Option.Rel (fun text n => IsNumeral text.toList n.toNat) (r.get? "steamid") c.steamId?
  name : r.get? "name" = c.name?
  size : Option.Rel (fun text n => IsNumeral text.toList n.toNat) (r.get? "size") c.size?
  pugId : Option.Rel (fun text n => IsNumeral text.toList n.toNat) (r.get? "pugid") c.pugId?
  map : r.get? "map" = c.map?
  determined : ∀ (key' : String) (c' : Call), c'.request key' = r ↔ key' = key ∧ c'.plain = c.plain

theorem rel_map_decimal {α : Type} (value : α → Nat) (o : Option α) :
    Option.Rel (fun text n => IsNumeral text.toList (value n)) (o.map fun n => decimal (value n)) o := by
  cases o with
  | none => exact .none
  | some n => exact .some (isNumeral_decimal (value n))

/-- Each call has the parameters of its operation in their order, each of them once and with the
argument of its name, and another call with the same parameters is the same. -/
theorem exact_request (key : String) (c : Call) : Exact key c (c.request key) := by
  have hnodup := c.nodup_keys_request key
  constructor
  case endpoint => rfl
  case keys => exact c.keys_request key
  case nodup => exact hnodup
  case contains_iff => exact fun name => Request.contains_iff
  case get?_iff => exact fun name text => Request.get?_eq_some hnodup
  case apiKey => exact c.get?_request key "key"
  case steamId =>
    rw [get?_request, lookup_arguments]
    exact rel_map_decimal UInt64.toNat c.steamId?
  case name =>
    rw [get?_request, lookup_arguments]
    rfl
  case size =>
    rw [get?_request, lookup_arguments]
    exact rel_map_decimal UInt32.toNat c.size?
  case pugId =>
    rw [get?_request, lookup_arguments]
    exact rel_map_decimal UInt64.toNat c.pugId?
  case map =>
    rw [get?_request, lookup_arguments]
    rfl
  case determined =>
    intro key' c'
    constructor
    · intro h
      have hparams := (Request.mk.inj h).2
      obtain rfl : key' = key := (Prod.mk.inj (List.cons.inj hparams).1).2
      exact ⟨rfl, request_eq_iff.1 h⟩
    · rintro ⟨rfl, hplain⟩
      exact request_eq_iff.2 hplain

end Call

end PickupGame.Api
