import Std.Async.DNS
import Std.Async.TCP
import Std.Async.Timer
import IndexFeed.CommandLine.Run
import IndexFeed.Http.Wire

/-! The program: the command line with its files, its standard input and its connections. -/
namespace IndexFeed.Main

open Std Async

/-- All bytes that a connection brings until the other side closes it. -/
partial def receive (client : TCP.Socket.Client) (received : ByteArray) : Async ByteArray := do
  match ← client.recv? 65536 with
  | none => return received
  | some more => receive client (received ++ more)

/-- A connection to the first of some addresses that takes one. -/
def connect (port : UInt16) : List Net.IPAddr → Async TCP.Socket.Client
  | [] => throw (IO.userError "the host has no address")
  | address :: others => do
    let client ← TCP.Socket.Client.mk
    try
      client.connect (match address with
        | .v4 a => .v4 ⟨a, port⟩
        | .v6 a => .v6 ⟨a, port⟩)
      return client
    catch failure => if others.isEmpty then throw failure else connect port others

def converse (call : Http.Call) (name : String) (port : UInt16) : Async ByteArray := do
  let client ← connect port (← DNS.getAddrInfo name (toString port)).toList
  client.send call.wire.toUTF8
  receive client ByteArray.empty

/-- What the clock says when a call is given up. -/
def giveUp (seconds : Nat) : Async ByteArray := do
  sleep (Time.Millisecond.Offset.ofNat (1000 * seconds))
  throw (IO.userError "the call timed out")

/-- Exchanges a call for a reply over a connection of its own. -/
def exchange (call : Http.Call) : IO Http.Exchange := do
  match call.url.scheme, call.url.authority with
  | "http", some authority =>
    let name := String.ofList (match authority.host with
      | .ipv6 pieces => Url.Ipv6.chars pieces
      | host => host.chars)
    let port := (authority.port.getD 80).toUInt16
    try
      let received ← (Async.race (converse call name port) (giveUp call.timeout)).block
      match Http.Reply.ofBytes? call.method received.toList with
      | some reply => return .ok reply
      | none => return .error "the reply is incomplete"
    catch failure => return .error (toString failure)
  | _, _ => return .error "the connection cannot be encrypted"

def stored (path : String) : IO Stored := do
  match ← (IO.FS.Handle.mk path .read).toBaseIO with
  | .error (.permissionDenied ..) => return .unreadable
  | .error _ => return .missing
  | .ok handle =>
    match ← handle.readBinToEnd.toBaseIO with
    | .error _ => return .unreadable
    | .ok bytes => return .ofBytes bytes

/-- The whole standard input, if it is text. -/
partial def readInput (input : IO.FS.Stream) (received : ByteArray) : IO (Except String String) := do
  let more ← input.read 65536
  if more.isEmpty then
    match String.fromUTF8? received with
    | some text => return .ok text
    | none => return .error "stream did not contain valid UTF-8"
  else readInput input (received ++ more)

/-- Answers what a run asks. Nothing is kept of the log. -/
def answer : (query : Outside.Query) → IO (Outside.Answer query)
  | .exchange call => exchange call
  | .lookup _ => return .error (.settings .noLookup)
  | .log _ => return ()
  | .input => do readInput (← IO.getStdin) ByteArray.empty
  | .file path => stored path

end IndexFeed.Main

def main (arguments : List String) : IO UInt32 := do
  let names := IndexFeed.CommandLine.directoryVariable :: IndexFeed.Settings.variableNames
  let values ← names.filterMapM fun name => do
    return (← IO.getEnv name).map (name, ·)
  let environment : IndexFeed.Environment := fun name => values.lookup name
  let exit ← (IndexFeed.CommandLine.run arguments environment).perform IndexFeed.Main.answer
  IO.print exit.output
  IO.eprint exit.diagnostics
  return exit.status.toUInt32
