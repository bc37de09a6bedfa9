import PickupGame.Display.Table
import PickupGame.Http.Exchange
import PickupGame.Log

/-!
# Platform

What a run takes from where it runs: how domains and answers are read, what output is shown on, what
shows the log, and the account it runs for. Nothing else in this library depends on the machine.
-/

namespace PickupGame

/-- The account that a program runs for, with the home directory on record for it. -/
class Account where
  home? : Option String

class Platform extends Url.Idna, Http.Decoding, Display.Screen, Log.Logger, Account

end PickupGame
