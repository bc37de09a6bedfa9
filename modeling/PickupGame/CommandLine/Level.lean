import PickupGame.CommandLine.Fault

/-!
# One level of a command line

The program's name, a topic and a verb each open a level, which has its own options and operands and
ends at a word that opens the next one. Arguments are taken in order. The value of an option or an
operand is checked when the next one comes, so a fault in the shape of an argument is reported before
the fault of a value right in front of it.
-/

namespace PickupGame.CommandLine

/-- What may stand at a level: words that open the next level, options and operands. The word `help`
is understood where there are other words, and answered from the words behind it. -/
structure Level (σ : Type) where
  words : List (String × σ)
  help : List String → Fault
  options : List Opt
  operands : List Operand

/-- What a value is given for. -/
inductive Slot
  | option (o : Opt)
  | operand (p : Operand)
  deriving DecidableEq, Repr

/-- What was begun last: nothing, an option that waits for its value, or a value yet unchecked. -/
inductive Pending
  | nothing
  | waiting (o : Opt)
  | ready (slot : Slot) (value : String)
  deriving DecidableEq, Repr

/-- What has been found at a level; `begun` counts the operands, checked or not. -/
structure Found where
  options : List (Opt × Datum)
  operands : List Datum
  begun : Nat
  pending : Pending
  deriving DecidableEq, Repr

namespace Found

def empty : Found := ⟨[], [], 0, .nothing⟩

def get? (f : Found) (o : Opt) : Option Datum :=
  f.options.lookup o

def has (f : Found) (o : Opt) : Bool :=
  (f.get? o).isSome

def addOption (f : Found) (o : Opt) (value : String) : Except Fault Found :=
  if f.has o then .error (.repeated o)
  else match o.value? with
    | none => .ok { f with options := f.options ++ [(o, .text "")] }
    | some (kind, _) =>
      match kind.read value with
      | .ok d => .ok { f with options := f.options ++ [(o, d)] }
      | .error reason => .error (.invalidValue o.display value reason)

def addOperand (f : Found) (p : Operand) (value : String) : Except Fault Found :=
  match p.kind.read value with
  | .ok d => .ok { f with operands := f.operands ++ [d] }
  | .error reason => .error (.invalidValue p.display value reason)

/-- Checks and records what was begun last. -/
def flush (f : Found) : Except Fault Found :=
  let rest := { f with pending := .nothing }
  match f.pending with
  | .nothing => .ok rest
  | .waiting o => .error (.valueMissing o)
  | .ready (.option o) value => rest.addOption o value
  | .ready (.operand p) value => rest.addOperand p value

def giveOption (f : Found) (o : Opt) (value : String) : Except Fault Found :=
  match f.flush with
  | .ok f => f.addOption o value
  | .error e => .error e

def giveFlag (f : Found) (o : Opt) : Except Fault Found :=
  match f.flush with
  | .error e => .error e
  | .ok f =>
    match o with
    | .help => .error .helpRequested
    | .version => .error .versionRequested
    | _ => f.addOption o ""

def beginOption (f : Found) (o : Opt) : Except Fault Found :=
  match f.flush with
  | .ok f => .ok { f with pending := .waiting o }
  | .error e => .error e

end Found

/-! ## Shapes of arguments -/

inductive Shape
  | endOfOptions
  | long (name : String) (value : Option String)
  | short (letters : List Char)
  | plain
  deriving DecidableEq, Repr

/-- The name and the value of a long option, split at the first equals sign. -/
def Shape.ofLong (cs : List Char) : Shape :=
  let name := String.ofList (cs.takeWhile (· ≠ '='))
  match cs.dropWhile (· ≠ '=') with
  | [] => .long name none
  | _ :: value => .long name (some (String.ofList value))

/-- A single dash is a plain argument. -/
def Shape.ofChars : List Char → Shape
  | ['-', '-'] => .endOfOptions
  | '-' :: '-' :: cs => .ofLong cs
  | '-' :: c :: cs => .short (c :: cs)
  | _ => .plain

namespace Level

variable {σ : Type}

def long? (l : Level σ) (name : String) : Option Opt :=
  l.options.find? (·.long = name)

def short? (l : Level σ) (letter : Char) : Option Opt :=
  l.options.find? (·.short? = some letter)

def isWord (l : Level σ) (arg : String) : Bool :=
  !l.words.isEmpty && (arg = "help" || (l.words.lookup arg).isSome)

def takeLong (l : Level σ) (f : Found) (name : String) (value : Option String) :
    Except Fault Found :=
  match l.long? name with
  | none => .error (.unknownArgument ("--" ++ name))
  | some o =>
    match o.value?, value with
    | none, none => f.giveFlag o
    | none, some v => .error (.valueRefused o v)
    | some _, some v => f.giveOption o v
    | some _, none => f.beginOption o

/-- Takes letters behind one dash. What follows the letter of an option that takes a value is the
value, with or without an equals sign in front. -/
def takeShort (l : Level σ) (f : Found) : List Char → Except Fault Found
  | [] => .ok f
  | c :: cs =>
    match l.short? c with
    | none => .error (.unknownArgument (String.ofList ['-', c]))
    | some o =>
      match o.value?, cs with
      | none, _ =>
        match f.giveFlag o with
        | .ok f => takeShort l f cs
        | .error e => .error e
      | some _, [] => f.beginOption o
      | some _, '=' :: value => f.giveOption o (String.ofList value)
      | some _, value => f.giveOption o (String.ofList value)

def surplus (l : Level σ) (onlyOperands : Bool) (arg : String) : Fault :=
  if onlyOperands && l.isWord arg then .unknownArgument arg
  else if l.words.isEmpty then .unknownArgument arg
  else .unknownCommand arg

def takeOperand (l : Level σ) (onlyOperands : Bool) (f : Found) (arg : String) :
    Except Fault Found :=
  match l.operands[f.begun]? with
  | none => .error (l.surplus onlyOperands arg)
  | some p =>
    match f.flush with
    | .ok f => .ok { f with pending := .ready (.operand p) arg, begun := f.begun + 1 }
    | .error e => .error e

/-- Takes arguments that are all operands. -/
def takeOperands (l : Level σ) : Found → List String → Except Fault Found
  | f, [] => .ok f
  | f, arg :: args =>
    match l.takeOperand true f arg with
    | .ok f => takeOperands l f args
    | .error e => .error e

/-- Takes a plain argument: a value that is waited for, or else an operand. -/
def takePlain (l : Level σ) (f : Found) (arg : String) : Except Fault Found :=
  match f.pending with
  | .waiting o => .ok { f with pending := .ready (.option o) arg }
  | _ => l.takeOperand false f arg

/-- The word that an argument is. An option that waits for its value gets it first. -/
def word? (l : Level σ) (f : Found) (arg : String) : Option (Option σ) :=
  match f.pending with
  | .waiting _ => none
  | _ =>
    if l.isWord arg then some (l.words.lookup arg) else none

/-- Takes the arguments of the level, up to a word that opens the next one. -/
def scan (l : Level σ) : Found → List String → Except Fault (Found × Option (σ × List String))
  | f, [] => .ok (f, none)
  | f, arg :: args =>
    match l.word? f arg with
    | some (some next) => .ok (f, some (next, args))
    | some none => .error (l.help args)
    | none =>
      match Shape.ofChars arg.toList with
      | .endOfOptions => (l.takeOperands f args).map (·, none)
      | .long name value =>
        match l.takeLong f name value with
        | .ok f => scan l f args
        | .error e => .error e
      | .short letters =>
        match l.takeShort f letters with
        | .ok f => scan l f args
        | .error e => .error e
      | .plain =>
        match l.takePlain f arg with
        | .ok f => scan l f args
        | .error e => .error e

end Level

end PickupGame.CommandLine
