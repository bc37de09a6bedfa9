import PickupGame.Numeral.Shortest

/-!
# JSON values

Numbers are integers of 64 bits, signed or unsigned, or else doubles. The members of an object are
kept in ascending order of their keys, each key once; `insert` and `Value.Sorted` say so.
-/

namespace PickupGame.Json

/-- An integer between `-2 ^ 63` and `2 ^ 64 - 1`, or a double. -/
inductive Number
  | integer (n : Int) (low : -0x8000000000000000 ≤ n) (high : n < 0x10000000000000000)
  | float (x : Float)
  deriving DecidableEq

inductive Value
  | null
  | bool (b : Bool)
  | number (n : Number)
  | string (s : String)
  | array (items : List Value)
  | object (members : List (String × Value))

instance : Inhabited Value := ⟨.null⟩

abbrev Members := List (String × Value)

namespace Members

def get? : Members → String → Option Value
  | [], _ => none
  | (k, v) :: ms, key => if k = key then some v else get? ms key

@[simp] theorem get?_nil (key : String) : get? [] key = none := rfl

theorem get?_cons (k : String) (v : Value) (ms : Members) (key : String) :
    get? ((k, v) :: ms) key = if k = key then some v else get? ms key := rfl

/-- Puts a value under a key, in place of the one that was there, keeping the order of keys. -/
def insert : Members → String → Value → Members
  | [], key, value => [(key, value)]
  | (k, v) :: ms, key, value =>
    if key < k then (key, value) :: (k, v) :: ms
    else if key = k then (k, value) :: ms
    else (k, v) :: insert ms key value

/-- The members written one after the other; of equal keys the last one counts. -/
def ofList (ms : List (String × Value)) : Members :=
  ms.foldl (fun acc m => insert acc m.1 m.2) []

def keys (ms : Members) : List String :=
  ms.map Prod.fst

/-- The members whose keys are not among `names`. -/
def without (ms : Members) (names : List String) : Members :=
  ms.filter fun m => !names.contains m.1

@[simp] theorem get?_insert_self (ms : Members) (key : String) (value : Value) :
    get? (insert ms key value) key = some value := by
  induction ms with
  | nil => simp [insert, get?]
  | cons m ms ih =>
    obtain ⟨k, v⟩ := m
    unfold insert
    split
    · simp [get?]
    · split
      · rename_i h; simp [get?, h]
      · rename_i h
        have hk : k ≠ key := fun hk => h hk.symm
        simp [get?, hk, ih]

theorem get?_insert_of_ne {key other : String} (h : other ≠ key) (ms : Members) (value : Value) :
    get? (insert ms key value) other = get? ms other := by
  have h' : key ≠ other := fun e => h e.symm
  induction ms with
  | nil => simp [insert, get?, h']
  | cons m ms ih =>
    obtain ⟨k, v⟩ := m
    unfold insert
    split
    · simp [get?, h']
    · split
      · rename_i hk; subst hk; simp [get?, h']
      · simp [get?, ih]

end Members

def Value.ofUInt64 (n : UInt64) : Value :=
  .number (.integer n.toNat (by omega) (by have := n.toNat_lt; omega))

def Value.ofInt64 (n : Int64) : Value :=
  .number (.integer n.toInt (by have := n.le_toInt; omega) (by have := n.toInt_lt; omega))

def Value.ofUInt32 (n : UInt32) : Value :=
  .number (.integer n.toNat (by omega) (by have := n.toNat_lt; omega))

def Value.ofUInt16 (n : UInt16) : Value :=
  .number (.integer n.toNat (by omega) (by have := n.toNat_lt; omega))

def Value.ofUInt8 (n : UInt8) : Value :=
  .number (.integer n.toNat (by omega) (by have := n.toNat_lt; omega))

mutual

/-- Every object in the value has its keys in strictly ascending order. -/
def Value.Sorted : Value → Prop
  | .array items => allSorted items
  | .object members => (Members.keys members).Pairwise (· < ·) ∧ membersSorted members
  | _ => True

def allSorted : List Value → Prop
  | [] => True
  | v :: vs => v.Sorted ∧ allSorted vs

def membersSorted : List (String × Value) → Prop
  | [] => True
  | (_, v) :: ms => v.Sorted ∧ membersSorted ms

end

end PickupGame.Json
