import PickupGame.CommandLine.Vocabulary

/-!
# Faults of a command line

Why a command line is no command. Asking for help or for the version counts as one of the reasons.
-/

namespace PickupGame.CommandLine

inductive Fault
  | helpRequested
  | versionRequested
  | nothingGiven (about : String)
  | missingCommand (words : String)
  | missingOperands
  | unknownArgument (text : String)
  | unknownCommand (word : String)
  | repeated (option : Opt)
  | valueMissing (option : Opt)
  | valueRefused (option : Opt) (value : String)
  | invalidValue (item value reason : String)
  deriving DecidableEq, Repr

/-- The text that reports a fault; there is none where help or the version is shown instead. -/
def Fault.message? : Fault → Option String
  | .helpRequested | .versionRequested => none
  | .nothingGiven about => some about
  | .missingCommand words =>
    some s!"error: '{words}' requires a subcommand but one was not provided"
  | .missingOperands => some "error: the following required arguments were not provided:"
  | .unknownArgument text => some s!"error: unexpected argument '{text}' found"
  | .unknownCommand word => some s!"error: unrecognized subcommand '{word}'"
  | .repeated o => some s!"error: the argument '{o.display}' cannot be used multiple times"
  | .valueMissing o =>
    some s!"error: a value is required for '{o.display}' but none was supplied"
  | .valueRefused o value =>
    some s!"error: unexpected value '{value}' for '{o.display}' found; no more were expected"
  | .invalidValue item value reason =>
    some s!"error: invalid value '{value}' for '{item}': {reason}"

end PickupGame.CommandLine
