import IndicatorFeeds.CommandLine.Basic
import IndicatorFeeds.CommandLine.Help
import IndicatorFeeds.Http.Wire
import IndicatorFeeds.Store.Memory
import Std.Async

namespace IndicatorFeeds.Machine

open Std.Async

/-- What a process keeps between its requests. -/
structure State where
  memory : IO.Ref Store.Memory
  /-- The lease services that have their index. -/
  ready : IO.Ref (List Nat)

def file (path : String) : IO FileContent := do
  if let some why := Files.refusal? path then return .missing why
  try
    let content ← IO.FS.readBinFile path
    match String.fromUTF8? content with
    | some s => return .text s
    | none => return .bytes content.toList
  catch
    | .inappropriateType _ 21 _ => return .directory
    | .inappropriateType _ 20 _ => return .missing .notDirectory
    | .invalidArgument _ 36 _ => return .missing .nameTooLong
    | _ => return .missing .noEntry

/-- What the machine's clock shows. -/
def now : IO Reading := do
  let nanos := (← Std.Time.Timestamp.now).toNanosecondsSinceUnixEpoch.val
  match Instant.ofMillis? (nanos / 1000000) with
  | some t =>
    have below : nanos % 1000000 < 1000000 := Int.emod_lt_of_pos nanos (by decide)
    return ⟨t, (nanos % 1000000).toNat, (Int.toNat_lt' (Nat.succ_pos 999999)).mpr below⟩
  | none => return .whole .epoch

/-- All bytes that come over a connection until it ends. -/
partial def receiveAll (client : TCP.Socket.Client) (received : ByteArray) : Async ByteArray := do
  match ← client.recv? 65536 with
  | some bytes => receiveAll client (received ++ bytes)
  | none => return received

/-- The reply to a request over a connection of its own. -/
def exchange (request : Http.Request) (host : Host) (port : UInt16) :
    Async (Option Http.Reply) := do
  let name := match host with
    | .ipv6 pieces => Host.ipv6Text pieces
    | host => host.text
  let addresses ← DNS.getAddrInfo name (toString port.toNat)
  match addresses[0]? with
  | none => return none
  | some address =>
    let client ← TCP.Socket.Client.mk
    client.connect (match address with
      | .v4 address => .v4 ⟨address, port⟩
      | .v6 address => .v6 ⟨address, port⟩)
    client.sendAll #[request.wire]
    let received ← receiveAll client .empty
    return Http.Reply.ofBytes? request.method received.toList

def send (request : Http.Request) : IO (Option Http.Reply) := do
  match request.url.scheme, request.url.authority with
  | "http", some authority =>
    try (exchange request authority.host (authority.port.getD 80)).block
    catch _ => return none
  | _, _ => return none

/-- The answer to a request. A timer of a lease is taken to ring before every step, since a lease
that is young is not renewed anyway. -/
def answer (s : State) : (r : Request) → IO r.Answer
  | .store call => do
    let (answer, memory) := (← s.memory.get).answer call
    s.memory.set memory
    return answer
  | .http request => send request
  | .feedFor _ => return .ok none
  | .file path => file path
  | .now => now
  | .stopwatch => IO.monoMsNow
  | .sleep millis => IO.sleep (min millis (UInt32.size - 1)).toUInt32
  | .turn => return ()
  | .rings => return (1 : Nat)
  | .renewLease => return ()
  | .leaseIndexReady service => return (← s.ready.get).contains service
  | .markLeaseIndexReady service => s.ready.modify (service :: ·)

def run (s : State) : Program α → IO (Except Failure α)
  | .done a => return .ok a
  | .fail failure => return .error failure
  | .ask r next => do run s (next (← answer s r))

end IndicatorFeeds.Machine

open IndicatorFeeds in
def main (arguments : List String) : IO UInt32 := do
  let inherited ← Std.Async.System.getEnv
  let s : Machine.State := ⟨← IO.mkRef .empty, ← IO.mkRef []⟩
  let exit := CommandLine.Exit.ofResult
    (← Machine.run s (CommandLine.run arguments ⟨inherited.get?⟩))
  match exit with
  | .help => IO.print CommandLine.help
  | .usage => IO.eprint CommandLine.usage
  | exit => IO.eprint (exit.text?.getD "")
  return exit.code.toUInt32
