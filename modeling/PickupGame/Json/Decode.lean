import PickupGame.Json.Writer
import PickupGame.Text.Quoted

/-!
# Typed views of JSON

Decoders take a value to a type or say what does not fit. The fields of an object are decoded in
ascending order of their names, which is the order of its members, and only then are the required
ones that are absent reported.
-/

namespace PickupGame.Json

inductive Mismatch
  | type (found : Value) (wanted : String)
  | value (found : Value) (wanted : String)
  | length (found : Nat) (wanted : String)
  | missing (field : String)

/-- What kind of value was found. -/
def Value.describe : Value → String
  | .null => "null"
  | .bool b => s!"boolean `{b}`"
  | .number (.integer n low high) => s!"integer `{String.ofList (Number.integer n low high).text}`"
  | .number (.float x) => s!"floating point `{String.ofList (floatText x)}`"
  | .string s => s!"string {Text.quoted s}"
  | .array _ => "sequence"
  | .object _ => "map"

def Mismatch.message : Mismatch → String
  | .type found wanted => s!"invalid type: {found.describe}, expected {wanted}"
  | .value found wanted => s!"invalid value: {found.describe}, expected {wanted}"
  | .length found wanted => s!"invalid length {found}, expected {wanted}"
  | .missing field => s!"missing field `{field}`"

abbrev Decoder (α : Type) := Value → Except Mismatch α

namespace Decode

/-- A whole number of at most `limit`. -/
def natural (wanted : String) (limit : Nat) : Decoder Nat
  | .number (.integer n low high) =>
    if 0 ≤ n ∧ n.toNat ≤ limit then .ok n.toNat
    else .error (.value (.number (.integer n low high)) wanted)
  | v => .error (.type v wanted)

def uint64 : Decoder UInt64 := fun v =>
  (natural "u64" Numeral.maxU64 v).map UInt64.ofNat

def uint32 : Decoder UInt32 := fun v =>
  (natural "u32" Numeral.maxU32 v).map UInt32.ofNat

def uint16 : Decoder UInt16 := fun v =>
  (natural "u16" Numeral.maxU16 v).map UInt16.ofNat

def uint8 : Decoder UInt8 := fun v =>
  (natural "u8" 255 v).map UInt8.ofNat

def int64 : Decoder Int64
  | .number (.integer n low high) =>
    if n ≤ Numeral.maxI64 then .ok (Int64.ofInt n)
    else .error (.value (.number (.integer n low high)) "i64")
  | v => .error (.type v "i64")

def string : Decoder String
  | .string s => .ok s
  | v => .error (.type v "a string")

def bool : Decoder Bool
  | .bool b => .ok b
  | v => .error (.type v "a boolean")

/-- Null stands for nothing. -/
def option {α : Type} (item : Decoder α) : Decoder (Option α)
  | .null => .ok none
  | v => (item v).map some

def list {α : Type} (item : Decoder α) : Decoder (List α)
  | .array items => items.mapM item
  | v => .error (.type v "a sequence")

def object (wanted : String) : Decoder Members
  | .object members => .ok members
  | v => .error (.type v wanted)

def field? {α : Type} (ms : Members) (name : String) (item : Decoder α) :
    Except Mismatch (Option α) :=
  match ms.get? name with
  | none => .ok none
  | some v => (item v).map some

def fieldD {α : Type} (ms : Members) (name : String) (item : Decoder α) (default : α) :
    Except Mismatch α :=
  (field? ms name item).map (·.getD default)

def required {α : Type} (name : String) : Option α → Except Mismatch α
  | some a => .ok a
  | none => .error (.missing name)

/-- The element of an array at an index, for a record written as the array of its fields. -/
def element {α : Type} (items : List Value) (index : Nat) (wanted : String) (item : Decoder α) :
    Except Mismatch α :=
  match items[index]? with
  | some v => item v
  | none => .error (.length index wanted)

/-- Refuses elements behind the fields of a record written as an array. -/
def noMore (items : List Value) (count : Nat) : Except Mismatch Unit :=
  if items.length ≤ count then .ok () else .error (.length items.length "fewer elements in array")

end Decode

end PickupGame.Json
