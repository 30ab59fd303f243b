import NodeLabels.Cluster.Kubeconfig
import NodeLabels.CommandLine.Usage
import NodeLabels.Http.Wire
import NodeLabels.Log.Line
import NodeLabels.Metrics
import NodeLabels.Program
import Std.Async.DNS
import Std.Async.Signal
import Std.Async.TCP
import Std.Async.Timer
import Std.Time.DateTime.Timestamp
/-!
# The command line program

Plays the dialogue of the program on a real machine: files and the environment are read, requests go
over plain connections, and signals end the pauses. Servers that want an encrypted connection cannot
be reached.
-/

namespace NodeLabels.Console

open Std.Async

def present : IO Calendar.Instant := do
  let t ← Std.Time.Timestamp.now
  return (Calendar.Instant.of? t.val.second.val t.val.nano.val.toNat).getD { secs := 0 }

def fileAt (path : String) : IO Program.File := do
  try
    return .content (← IO.FS.readBinFile path).toList
  catch
    | .noFileOrDirectory .. => return .absent
    | _ => return .unreadable

def variableNames : List String :=
  ["LABELER_LOG_LEVEL", "LABELER_LOG_JSON", "GOOGLE_CLOUD_PROJECT",
    Cloud.TokenSource.environmentName, Program.filterVariable, "KUBECONFIG", "HOME"]

def environment : IO CommandLine.Environment :=
  variableNames.filterMapM fun name => return (← IO.getEnv name).map (name, ·)

/-- The server that the cluster configuration of this machine names. -/
def clusterServer (env : CommandLine.Environment) : IO (Option String) := do
  let path := (env.get? "KUBECONFIG").getD ((env.get? "HOME").getD "" ++ "/.kube/config")
  let bytes := (← fileAt path).bytes?
  return bytes >>= Text.decode? >>= fun text => Cluster.serverIn? (String.ofList text)

/-! ## Requests -/

/-- All that comes over a connection until it is closed. -/
partial def receive (socket : TCP.Socket.Client) (before : ByteArray) : Async ByteArray := do
  match ← socket.recv? 65536 with
  | some bytes => receive socket (before ++ bytes)
  | none => return before

def socketAddress (address : Std.Net.IPAddr) (port : Nat) : Std.Net.SocketAddress :=
  match address with
  | .v4 addr => .v4 { addr, port := port.toUInt16 }
  | .v6 addr => .v6 { addr, port := port.toUInt16 }

/-- Sends a request to a host and waits for the end of the answer. -/
def talk (host : String) (port : Nat) (r : Http.Request) : Async Http.Reply := do
  match (← DNS.getAddrInfo host (toString port))[0]? with
  | none => return .noConnection "no address"
  | some address =>
    let socket ← TCP.Socket.Client.mk
    socket.connect (socketAddress address port)
    socket.sendAll #[⟨r.bytes.toArray⟩]
    return .ofBytes (← receive socket .empty).toList

/-- The host of a URL without brackets, and the port. -/
def addressOf (u : Url) : Option (String × Nat) := do
  let a ← u.authority
  let host := a.host.chars.filter fun c => c ≠ '[' && c ≠ ']'
  return (String.ofList host, ← a.port.or (Url.defaultPort? u.scheme))

def milliseconds (s : Span) : Std.Time.Millisecond.Offset := .ofInt (s.toNanos / 1000000 : Nat)

/-- Sends a request, and gives it up when the limit is reached. -/
def send (limit : Option Span) (r : Http.Request) : IO Http.Reply := do
  match Url.parse r.origin with
  | .error fault => return .noConnection fault.message
  | .ok u =>
    match addressOf u with
    | none => return .noConnection "no host"
    | some (host, port) =>
      if u.scheme ≠ "http".toList then return .noConnection "no encrypted connection is possible"
      try
        match limit with
        | none => Async.block (talk host port r)
        | some limit =>
          let reply ← Async.toIO (talk host port r)
          let late ← Async.toIO (sleep (milliseconds limit))
          IO.ofExcept (← IO.waitAny
            [reply, late.map fun _ => Http.Reply.lost ["operation timed out"]])
      catch e => return .noConnection (toString e)

/-! ## Metrics -/

def answerScrape (metrics : IO.Ref Metrics) (socket : TCP.Socket.Client) : Async Unit := do
  let _ ← socket.recv? 1024
  socket.sendAll #[(← metrics.get).response.toUTF8]
  socket.shutdown

partial def answerScrapes (metrics : IO.Ref Metrics) (server : TCP.Socket.Server) : Async Unit := do
  let socket ← server.accept
  background (answerScrape metrics socket)
  answerScrapes metrics server

def serveMetrics (metrics : IO.Ref Metrics) (port : Nat) : IO (Except String Unit) := do
  try
    let server ← TCP.Socket.Server.mk
    server.bind (.v4 { addr := .ofParts 0 0 0 0, port := port.toUInt16 })
    server.listen 128
    let _ ← Async.toIO (answerScrapes metrics server)
    return .ok ()
  catch e => return .error (toString e)

/-! ## Playing the dialogue -/

/-- The first signal that asks the process to end, once there is one. -/
structure Signals where
  terminated : AsyncTask Int
  interrupted : AsyncTask Int

def Signals.install : IO Signals := do
  return {
    terminated := ← (← Signal.Waiter.mk .sigterm false).wait
    interrupted := ← (← Signal.Waiter.mk .sigint false).wait }

def pause (signals : Signals) (interval : Span) : IO Machine.Interruption := do
  let due ← Async.toIO (sleep (milliseconds interval))
  IO.ofExcept (← IO.waitAny [signals.terminated.map fun _ => Machine.Interruption.terminated,
    signals.interrupted.map fun _ => .interrupted, due.map fun _ => .due])

structure State where
  logging : Program.Logging
  metrics : IO.Ref Metrics
  /-- Set at the first pause: a program that never pauses can be ended at once. -/
  signals : IO.Ref (Option Signals)

def State.signalsOf (s : State) : IO Signals := do
  match ← s.signals.get with
  | some signals => return signals
  | none =>
    let signals ← Signals.install
    s.signals.set (some signals)
    return signals

def State.reply (s : State) : (c : Machine.Call) → IO (Machine.port.Reply c)
  | .send limit request => send limit request
  | .now => present
  | .count outcome => s.metrics.modify (·.count outcome)
  | .stampSuccess => do
    let t ← present
    s.metrics.modify (·.stamp t.secs)
  | .pause interval => do pause (← s.signalsOf) interval
  | .serveMetrics port => serveMetrics s.metrics port

def State.log (s : State) (e : Event) : IO Unit := do
  if s.logging.filter.shows e then
    let t ← present
    IO.println (if s.logging.json then Log.jsonLine t e else Log.plainLine t e)
    (← IO.getStdout).flush

def State.play {α : Type} (s : State) : Dialogue Machine.port α → IO (Except Halt α)
  | .done a => return .ok a
  | .halt why => return .error why
  | .report e d => do
    s.log e
    s.play d
  | .call c k => do s.play (k (← s.reply c))

/-- More cycles and pages than a lifetime has room for. -/
def patience : Nat := 4611686018427387904

def refuse (refusal : CommandLine.Refusal) : IO UInt32 := do
  match refusal, refusal.complaint? with
  | .version, _ => IO.println s!"labeler {Program.version}"
  | .help, _ => IO.println CommandLine.usage
  | _, some complaint => IO.eprintln s!"error: {complaint}\n\n{CommandLine.usage}"
  | _, none => IO.eprintln CommandLine.usage
  return refusal.exitCode.toUInt32

def work (env : CommandLine.Environment) (line : CommandLine) (args : List String) : IO UInt32 := do
  let logging := Program.Logging.of env line
  logging.complaints.forM (IO.eprintln ·)
  let config ← fileAt line.config
  let around : Program.Surroundings :=
    { environment := env, file := fun path => if path = line.config then config else .absent
      cluster := ← clusterServer env }
  let state : State := { logging, metrics := ← IO.mkRef {}, signals := ← IO.mkRef none }
  match ← state.play (Program.run patience around args) with
  | .ok exit =>
    exit.lines.forM (IO.eprintln ·)
    return exit.code.toUInt32
  | .error why =>
    IO.eprintln why.message
    return 101

end NodeLabels.Console

open NodeLabels in
def main (args : List String) : IO UInt32 := do
  let env ← Console.environment
  match CommandLine.parse env args with
  | .error refusal => Console.refuse refusal
  | .ok line => Console.work env line args
