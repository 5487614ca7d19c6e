import ProcessWatch.Http
import ProcessWatch.Program
import Std.Async.DNS
import Std.Async.Signal
import Std.Async.TCP
import Std.Async.Timer

/-!
# The command line

The program in the world: files, plain HTTP, the terminal, the clock and the interrupt key.
-/

namespace ProcessWatch.Terminal

open Std.Async

/-- The user interrupted the program. -/
structure Interrupt where

/-- Running in the world, until the user interrupts. The reference holds the interrupt that is
waited for, if there is one. -/
abbrev Run := ReaderT (IO.Ref (Option (Task Unit))) (ExceptT Interrupt IO)

/-- Waits for something, or for the interrupt of the user. -/
def await {α : Type} (awaited : Task (Except IO.Error α)) : Run (Except IO.Error α) := do
  match ← (← read).get with
  | none => return ← IO.wait awaited
  | some interrupt =>
    match ← IO.waitAny [awaited.map some, interrupt.map fun _ => none] with
    | some value => return value
    | none => throw ⟨⟩

/-- Runs something until it ends or the user interrupts it. -/
def untilInterrupted (action : Run Unit) : Run Bool := do
  let signal ← Signal.Waiter.mk .sigint false
  let caught : Task (Except IO.Error Int) ← signal.wait
  (← read).set (some (caught.map fun _ => ()))
  let interrupted ← tryCatch (action *> pure false) fun _ => pure true
  (← read).set none
  signal.stop
  return interrupted

def fileError (error : IO.Error) : FileError :=
  match error with
  | .noFileOrDirectory .. => .missing
  | .inappropriateType _ code _ => if code = 21 || code = 0 - 21 then .directory else .notDirectory
  | error => .other (toString error)

def contentOf (path : String) : IO (Except FileError ByteArray) := do
  try
    return .ok (← IO.FS.readBinFile path)
  catch error => return .error (fileError error)

/-- Receives all that comes on a connection. -/
partial def receiveAll (client : TCP.Socket.Client) (received : ByteArray) : Async ByteArray := do
  match ← client.recv? 65536 with
  | some bytes => receiveAll client (received ++ bytes)
  | none => return received

/-- Exchanges a request for a reply. -/
def exchange (url : Url) : Async Reply := do
  if url.scheme ≠ "http" then
    throw (.userError ("the scheme " ++ url.scheme ++ " is not supported"))
  let host := match url.host with
    | some (.ipv6 pieces) => Url.ipv6Text pieces
    | host => host.elim "" Url.Host.text
  let some address := (← DNS.getAddrInfo host "")[0]?
    | throw (.userError ("the host " ++ host ++ " is unknown"))
  let port := (url.port.getD 80).toUInt16
  let client ← TCP.Socket.Client.mk
  client.connect <| match address with
    | .v4 address => .v4 ⟨address, port⟩
    | .v6 address => .v6 ⟨address, port⟩
  client.send (Http.request ("pmon/" ++ World.version) url).toUTF8
  let some reply := Http.reply? (← receiveAll client .empty)
    | throw (.userError Http.closed)
  return reply

def fetch (url : Url) : Run (Except Failure Reply) := do
  if !Http.isWeb url then return .error (Http.refusal url)
  let exchanged : Task (Except IO.Error Reply) ← (exchange url).asTask
  match ← await exchanged with
  | .ok reply => return .ok reply
  | .error error => return .error (Http.interruption url (toString error))

def wait (milliseconds : UInt64) : Run Unit := do
  let sleeping : Task (Except IO.Error Unit) ← (sleep (.ofNat milliseconds.toNat)).asTask
  discard <| await sleeping

def print (stream : Stream) (text : String) : IO Unit := do
  let target ← match stream with
    | .output => IO.getStdout
    | .error => IO.getStderr
  target.putStr text
  target.flush

def variableNames : List String :=
  ["HOME", "XDG_CONFIG_HOME", "PMON_URL", "PMON_CONFIG_NAME", "PMON_INTERVAL_MS", "PMON_LOG"]

/-- The world as it is. -/
def world : IO (World Run) := do
  let vars ← variableNames.filterMapM fun name => do
    return (← IO.getEnv name).map (name, ·)
  return {
    vars := fun name => vars.lookup name
    colored := ← (← IO.getStdout).isTty
    contentOf := fun path => contentOf path
    fetch
    print := fun stream text => print stream text
    wait
    untilInterrupted }

end ProcessWatch.Terminal

def main (words : List String) : IO UInt32 := do
  let world ← ProcessWatch.Terminal.world
  match ← ((world.main words).run (← IO.mkRef none)).run with
  | .ok code => return code
  | .error _ => return 130
