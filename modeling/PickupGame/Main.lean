import PickupGame.Http.Wire
import PickupGame.Program
import Std.Async.DNS
import Std.Async.TCP
import Std.Async.Timer

/-!
# The program

Reads arguments, environment and the file of settings, sends the one request of a run if there is
one, and prints what the run printed. Which steps are taken and what is said is decided by
`Program.run`.
-/

namespace PickupGame

open Std.Async
open Storage (Cause Disk Node)

/-! ## Network -/

/-- The addresses that a host stands for. -/
def hostAddresses : Url.Host → Async (Array Std.Net.IPAddr)
  | .ipv4 a =>
    let octet (n : Nat) : UInt8 := UInt8.ofNat (a / n % 256)
    pure #[.v4 (.ofParts (octet 0x1000000) (octet 0x10000) (octet 256) (octet 1))]
  | .ipv6 ns =>
    let group (i : Nat) : UInt16 := UInt16.ofNat (ns.getD i 0)
    pure #[.v6 (.ofParts (group 0) (group 1) (group 2) (group 3) (group 4) (group 5) (group 6)
      (group 7))]
  | .domain name | .named name => DNS.getAddrInfo name ""

def socketAddress (port : UInt16) : Std.Net.IPAddr → Std.Net.SocketAddress
  | .v4 addr => .v4 ⟨addr, port⟩
  | .v6 addr => .v6 ⟨addr, port⟩

/-- All that comes over a connection until it is closed. -/
partial def receiveAll (socket : TCP.Socket.Client) (acc : ByteArray) : Async ByteArray := do
  match ← socket.recv? 65536 with
  | some bytes => receiveAll socket (acc ++ bytes)
  | none => return acc

def talk (r : Http.Request) (address : Std.Net.SocketAddress) : Async Http.Reply := do
  let socket ← TCP.Socket.Client.mk
  socket.connect address
  socket.send r.text.toUTF8
  let bytes ← receiveAll socket .empty
  return .ofBytes bytes.toList

def unsent (r : Http.Request) (reason : String) : Http.Reply :=
  .broken s!"error sending request for url ({r.url.display}): {reason}"

def deliver (r : Http.Request) : Async Http.Reply := do
  if r.url.scheme ≠ "http".toList then return unsent r "no secure connections"
  let some host := r.url.host | return unsent r "no host"
  let port := UInt16.ofNat (r.url.port.getD 80)
  match (← hostAddresses host)[0]? with
  | some address => talk r (socketAddress port address)
  | none => return unsent r "no address for host"

instance : Inhabited Http.Reply := ⟨.late⟩

def expire (seconds : UInt64) : Async Http.Reply := do
  sleep (Std.Time.Millisecond.Offset.ofInt (1000 * (min seconds.toNat 1000000000 : Nat)))
  return .late

/-- The reply to a request within a number of seconds. -/
def send (r : Http.Request) (seconds : UInt64) : IO Http.Reply := do
  try
    (Async.race (deliver r) (expire seconds)).block
  catch e => return unsent r (toString e)

/-! ## Files -/

def workingDirectory : IO (List String) := do
  return Storage.Path.names (toString (← IO.currentDir))

def pathOf (names : List String) : String := "/" ++ "/".intercalate names

def nodeAt? (names : List String) : IO (Option Node) := do
  let path := (← IO.currentDir) / pathOf names
  if ← path.isDir then return some .directory
  else if ← path.pathExists then return some (.file (← IO.FS.readBinFile path).toList)
  else return none

/-- What is recorded of a path: the nodes that its steps could lead to, one after the other. -/
def snapshot (d : Disk) (names : List String) : List String → IO Disk
  | [] => return d
  | step :: steps => do
    let names := Storage.Path.enter names step
    match ← nodeAt? names with
    | some node => snapshot (d.set names node) names steps
    | none => snapshot d names steps

def causeOf : IO.Error → Cause
  | .noFileOrDirectory .. => .notFound
  | .permissionDenied .. => .permissionDenied
  | .alreadyExists .. => .alreadyExists
  | .inappropriateType .. => .notADirectory
  | e => .other (toString e)

/-- Makes one change to the files of this machine. -/
def store (names : List String) : Node → IO Unit
  | .directory => IO.FS.createDirAll (pathOf names)
  | .file content => IO.FS.writeBinFile (pathOf names) ⟨content.toArray⟩

/-- Makes the changes that lead from one disk to another. -/
def commit (before after : Disk) : IO (Except Settings.StorageFault Unit) := do
  for (names, node) in after.nodes.reverse do
    if before.node? names ≠ some node then
      try store names node
      catch e => return .error (.file (pathOf names) (causeOf e))
  return .ok ()

/-! ## Runs -/

def environment : IO CommandLine.Environment := do
  let mut bindings := []
  for name in Program.variableNames do
    if let some value ← IO.getEnv name then bindings := (name, value) :: bindings
  return ⟨bindings⟩

def emit (o : Program.Outcome) : IO UInt32 := do
  IO.print o.output
  IO.eprint o.errors
  return o.exitCode.toUInt32

/-- The disk as far as a run looks at it. -/
def currentDisk (file : Option String) : IO Disk := do
  let base ← workingDirectory
  let bare := { Disk.empty with workingDirectory := base }
  match file with
  | some path => snapshot bare [] (Storage.Path.resolve base path)
  | none => return bare

def finish (before : Disk) (o : Program.Outcome) : IO UInt32 := do
  match ← commit before o.disk with
  | .ok () => emit o
  | .error e => emit (Program.withStorageFault before e)

def runProgram (args : List String) : IO UInt32 := do
  let env ← environment
  let file := Program.file? env args
  let disk ← try pure (Except.ok (← currentDisk file)) catch e => pure (.error e)
  match disk with
  | .error e =>
    emit (Program.withoutSettings (Program.logSetup env false) .empty
      (.file (file.getD "") (causeOf e)))
  | .ok disk =>
    match Program.run env disk args with
    | .done o => finish disk o
    | .send request seconds next => finish disk (next (← send request seconds))

end PickupGame

def main (args : List String) : IO UInt32 := PickupGame.runProgram args
