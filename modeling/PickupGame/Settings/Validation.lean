import PickupGame.Numeral.Decimal
import PickupGame.Settings.Fault
import PickupGame.Text.Blank

/-!
# Validation of settings

An address must begin with one of two schemes; nothing else of it is looked at. A timeout is a whole
number of seconds, not zero, with blanks around it if need be.
-/

namespace PickupGame.Settings

/-- The schemes that an address may begin with. -/
def urlSchemes : List (List Char) :=
  ["http://".toList, "https://".toList]

def validateUrl (url : String) : Except Fault Unit :=
  if url = "" then .error (.invalidValue "api_url" url "URL cannot be empty")
  else if urlSchemes.any (·.isPrefixOf url.toList) then .ok ()
  else .error (.invalidValue "api_url" url "URL must start with http:// or https://")

/-- The seconds of a timeout. -/
def validateTimeout (value : String) : Except Fault UInt64 :=
  match Numeral.readNat Numeral.maxU64 (Text.trim value.toList) with
  | .ok 0 => .error (.invalidValue "timeout_seconds" value "timeout must be positive")
  | .ok n => .ok (UInt64.ofNat n)
  | .error e => .error (.invalidValue "timeout_seconds" value e.message)

end PickupGame.Settings
