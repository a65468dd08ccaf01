import BeaconLight.Command.Run
import BeaconLight.Node.Wire
import BeaconLight.Pool.Dispatch
import Std.Async.DNS
import Std.Async.TCP
import Std.Async.Timer

/-!
# The command line program

The program runs `Program.plan` and `Program.execute` over files and connections. A request
goes to all nodes of the pool at once, each over a connection of its own and under the time
limit of the pool, and `Dispatch.turn` looks at the attempts as they complete. Connections
are plain, so nothing answers at a URL of the secure scheme.
-/

namespace BeaconLight.Network

open Std.Async Std.Net

/-- The most bytes that are received at a time. -/
def pieceSize : UInt64 := 65536

/-- The address of a service on a machine. -/
def socketAddress (service : Nat) : IPAddr → SocketAddress
  | .v4 addr => .v4 ⟨addr, service.toUInt16⟩
  | .v6 addr => .v6 ⟨addr, service.toUInt16⟩

/-- The addresses of the host of a URL. -/
def addresses (url : WebUrl) : Async (List SocketAddress) := do
  let name := String.ofList (Text.stripBoth (fun c => c == '[' || c == ']') url.host.render.toList)
  let found ← DNS.getAddrInfo name (Text.decimal url.service)
  return found.toList.map (socketAddress url.service)

/-- A connection to the first of some addresses that takes one. -/
def connect : List SocketAddress → Async TCP.Socket.Client
  | [] => throw (IO.userError "no address")
  | address :: rest =>
    try
      let socket ← TCP.Socket.Client.mk
      socket.connect address
      return socket
    catch _ => connect rest

/-- All that is received before a connection is closed. -/
partial def receive (socket : TCP.Socket.Client) (received : ByteArray) : Async ByteArray := do
  match ← socket.recv? pieceSize with
  | some piece => receive socket (received ++ piece)
  | none => return received

/-- Gets the reply of a node. -/
def exchange (get : Get) : Async (Except NodeError Reply) := do
  let unreachable := .error (.outage (.unsent (.unreachable get.url.render)))
  if get.url.scheme != .http then return unreachable
  try
    let socket ← connect (← addresses get.url)
    socket.send get.text.toUTF8
    match Reply.ofBytes? (← receive socket ByteArray.empty).toList with
    | some reply => return .ok reply
    | none => return unreachable
  catch _ => return unreachable

/-- Makes a request of a node under a limit in milliseconds. -/
def attempt (node : Node) (limit : Nat) (r : Request) : Async (Except NodeError r.Answer) := do
  match node.get r with
  | .error e => return .error (.outage (.unsent e))
  | .ok get =>
    let expire : Async (Except NodeError Reply) := do
      sleep (.ofNat limit)
      return .error (.outage (.timedOut limit))
    let reply ← Async.raceAll [exchange get, expire]
    return (reply.bind r.read).map (r.operation.mapServed Response.data)

/-- An attempt that is going on. -/
abbrev Running (α : Type) : Type := AsyncTask (Completion α)

/-- Starts a request of a backend. -/
def start (limit : Nat) (r : Request) (backend : String × Node) : IO (Running r.Answer) := do
  let (name, node) := backend
  Async.toIO (do return ⟨name, ← attempt node limit r⟩)

/-- Follows a dispatch until no attempt is going on or it is settled. -/
partial def follow {α : Type} (operation : Operation) (d : Dispatch α)
    (running : List (Nat × Running α)) :
  IO (Except PoolError α) := do
  match d, running with
  | .settled result, _ => return result
  | .waiting .., [] => return d.conclude operation
  | .waiting .., first :: rest =>
    let marked := (first :: rest).map fun (place, task) => task.map fun c => (place, c)
    let (place, completion) ← IO.ofExcept (← IO.waitAny marked (by simp [marked]))
    follow operation (d.turn operation false (some completion))
      ((first :: rest).filter fun other => other.1 != place)

/-- Asks the nodes of a pool, in the order of the configuration. -/
def ask (config : PoolConfig) : Asking IO := fun r => do
  let running ← config.nodes.mapM (start config.limit r)
  follow r.operation (.start running.length) (running.mapIdx fun place task => (place, task))

/-- The content of a file, if it can be read. -/
def content? (path : String) : IO (Option (List UInt8)) := do
  try
    return some (← IO.FS.readBinFile path).toList
  catch _ => return none

/-- Runs the program and gives its outcome. -/
def run (args : List String) : IO Outcome := do
  match ← Program.plan content? args with
  | .error outcome => return outcome
  | .ok (settings, query) => Program.execute (ask settings.beacon) query

end BeaconLight.Network

/-- Runs the program with the arguments behind its name. -/
def main (args : List String) : IO UInt32 := do
  let outcome ← BeaconLight.Network.run args
  IO.print outcome.output
  IO.eprint outcome.report
  return outcome.exitCode.toUInt32
