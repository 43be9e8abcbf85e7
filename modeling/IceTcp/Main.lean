import IceTcp.CommandLine.Program
import Std.Async.TCP
import Std.Async.Timer
import Std.Time.Format

/-!
# The executable

Sockets, clock, files and output for the program: everything that is decided is decided
elsewhere, and this module carries it out. Each connection is served by a task of its own.
-/

namespace IceTcp.Main

open Std.Async

/-! ## Addresses -/

/-- The socket address of an endpoint; a scope is left to the machine. -/
def socketAddress : Endpoint → Std.Net.SocketAddress
  | .v4 address port =>
    .v4 ⟨⟨#v[address.first, address.second, address.third, address.fourth]⟩, port⟩
  | .v6 address port _ =>
    .v6 ⟨⟨⟨address.groups.toArray, by rw [List.size_toArray, address.length_groups]⟩⟩, port⟩

/-- The endpoint of a socket address. -/
def endpoint : Std.Net.SocketAddress → Endpoint
  | .v4 address =>
    let octets := address.addr.octets
    .v4 ⟨octets[0], octets[1], octets[2], octets[3]⟩ address.port
  | .v6 address =>
    .v6 ⟨address.addr.segments.toList, address.addr.segments.length_toList⟩ address.port 0

/-! ## Output -/

/-- Prints the log lines that the level allows, each with the time. -/
def report (level : LogLevel) (lines : List LogLine) : IO Unit := do
  let now := Std.Time.DateTime.ofTimestampWithZone (← Std.Time.Timestamp.now) .UTC
  let time := now.format "uuuu-MM-dd'T'HH:mm:ss.SSS'Z'"
  let output ← IO.getStdout
  for line in Program.printed level lines do
    output.putStr s!"{time} {line}\n"
  output.flush

/-- The number of an error of the machine. Network operations give it with a minus sign. -/
def systemCode? (error : IO.Error) : Option UInt32 :=
  let code? := match error with
    | .noFileOrDirectory _ code _ | .permissionDenied _ code _ | .inappropriateType _ code _
    | .invalidArgument _ code _ | .noSuchThing _ code _ | .resourceBusy code _
    | .unsupportedOperation code _ | .otherError code _ => some code
    | _ => none
  code?.map fun code => if code < 0x80000000 then code else 0 - code

/-- The error of the system behind an error of the machine. -/
def systemError (error : IO.Error) : SystemError :=
  let known? := do SystemError.ofCode? (← systemCode? error).toNat
  known?.getD (.other error.toString)

/-- Ends the program. -/
def leave (exit : Exit) : IO UInt32 := do
  (← IO.getStdout).putStr exit.output
  (← IO.getStderr).putStr exit.errors
  return exit.code.toUInt32

/-! ## Sessions -/

/-- What a session waits for. -/
inductive Arrival where
  | bytes (data : ByteArray)
  | ending
  | patience

/-- Waits until something arrives or the session has been silent for too long. -/
def await (socket : TCP.Socket.Client) (session : Session) : Async Arrival := do
  let now ← IO.monoMsNow
  let rest := Std.Time.Millisecond.Offset.ofNat (session.deadline - now)
  Selectable.one #[
    .case (socket.recvSelector Session.readSize.toUInt64) fun data? =>
      return match data? with
        | some data => if data.isEmpty then .ending else .bytes data
        | none => .ending,
    .case (← Selector.sleep rest) fun _ => return .patience]

/-- Serves a connection until its session closes. -/
partial def converse (say : List Session.Entry → IO Unit) (socket : TCP.Socket.Client)
    (session : Session) : Async Unit := do
  if session.isOpen then
    let arrival ← try some <$> await socket session catch _ => pure none
    let now ← IO.monoMsNow
    let (after, entries) := match arrival with
      | some (.bytes data) => session.send now data.toList
      | some .ending => session.close none
      | some .patience => session.expire now
      | none => session.close (some .reset)
    say entries
    converse say socket after

/-- Serves a connection from the moment at which a listener has taken it. -/
def attend (level : LogLevel) (settings : Session.Settings) (listener : String)
    (socket : TCP.Socket.Client) : Async Unit := do
  let client := (endpoint (← socket.getPeerName)).text
  let naming : Naming := ⟨fun _ => client, fun _ => listener⟩
  let say (entries : List Session.Entry) : IO Unit :=
    report level (entries.filterMap (Program.entryLine? naming 0))
  let (session, entries) := Session.start 0 settings (← IO.monoMsNow)
  say (entries.take 1)
  try socket.noDelay catch error => report level [Session.noDelayLine client (systemError error)]
  say (entries.drop 1)
  converse say socket session
  try socket.shutdown catch _ => pure ()

/-! ## Listeners -/

/-- A listener that is bound. -/
structure Listener where
  socket : TCP.Socket.Server
  settings : Session.Settings
  /-- The address that it is bound to. -/
  name : String

/-- The names of a program with this listener only. -/
def Listener.naming (listener : Listener) : Naming := ⟨fun _ => "", fun _ => listener.name⟩

/-- Listens on an interface. -/
def listen (config : Config) (interface : Interface) : IO (Except SystemError Listener) := do
  try
    let socket ← TCP.Socket.Server.mk
    socket.bind (socketAddress interface.listen)
    socket.listen 1024
    let name := (endpoint (← socket.getSockName)).text
    let listener : Listener := ⟨socket, config.settings interface, name⟩
    report config.log.level [interface.listen.listeningLine listener.naming 0]
    return .ok listener
  catch error => return .error (systemError error)

/-- Ends the program in this way. -/
def conclude (level : LogLevel) (ending : Program.Ending) : IO UInt32 := do
  report level ending.lines
  leave ending.exit

/-- Takes connections until that fails. -/
partial def accept (level : LogLevel) (listener : Listener) : Async Program.Ending := do
  let socket? ← try some <$> listener.socket.accept catch _ => pure none
  match socket? with
  | some socket =>
    background (attend level listener.settings listener.name socket)
    accept level listener
  | none => return Program.stopping listener.naming 0

/-- Starts the server of a configuration and serves until a listener stops. -/
def serve (config : Config) : IO UInt32 := do
  let level := config.log.level
  let (listeners, outcome) ← config.start (listen config)
  match Program.proceed outcome with
  | .error ending => conclude level ending
  | .ok _ =>
    match ← listeners.mapM fun listener => (accept level listener).toIO with
    | [] => return 0
    | task :: others =>
      let ending ← IO.ofExcept (← IO.waitAny (task :: others))
      conclude level ending

/-- Reads a file. -/
def read (path : String) : IO (Except SystemError Bytes) :=
  try return .ok (← IO.FS.readBinFile path).toList
  catch error => return .error (systemError error)

end IceTcp.Main

/-- Runs the program. -/
def main (arguments : List String) : IO UInt32 := do
  match IceTcp.Program.plan arguments with
  | .exit exit => IceTcp.Main.leave exit
  | .serve path =>
    match IceTcp.Config.load (← IceTcp.Main.read path) with
    | .ok config => IceTcp.Main.serve config
    | .error error => IceTcp.Main.leave (IceTcp.Program.failure error.message)
