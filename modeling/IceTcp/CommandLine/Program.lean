import IceTcp.CommandLine.Help
import IceTcp.Config
import IceTcp.Host
import IceTcp.Server.Service

/-!
# The program

What the program does with its arguments, up to the point where it serves connections: it explains
itself, or reads its configuration and starts a server. Files and host are given from outside. What
it prints while it serves are the log lines of its sessions and one for each packet, and at last the
line of the listener that stops.

The definitions are models of `main` of the source, of `load` and of the observer `Logger`.
-/

namespace IceTcp

/-- How the program ends. -/
structure Exit where
  code : UInt8
  /-- What it has printed. -/
  output : String
  /-- What it has printed as errors. -/
  errors : String
  deriving DecidableEq, Repr

/-- Why a file gives no configuration. -/
inductive LoadError where
  | unreadable (error : SystemError)
  /-- It is no UTF-8 text. -/
  | noText
  | noConfig (error : Config.Error)
  deriving DecidableEq, Repr

def LoadError.message : LoadError → String
  | .unreadable error => error.message
  | .noText => "stream did not contain valid UTF-8"
  | .noConfig .malformed => "the configuration is no JSON5 document"
  | .noConfig (.unfit error) => error.message

/-- The second half of `load`: the configuration in a file of which this has been read. -/
def Config.load (contents : Except SystemError Bytes) : Except LoadError Config :=
  match contents with
  | .error error => .error (.unreadable error)
  | .ok bytes =>
    match String.fromUTF8? ⟨bytes.toArray⟩ with
    | none => .error .noText
    | some text => (Config.parse text).mapError LoadError.noConfig

namespace Program

/-- What the arguments alone decide. -/
inductive Plan where
  | exit (exit : Exit)
  /-- Serve as the configuration in this file says. -/
  | serve (path : String)
  deriving DecidableEq, Repr

/-- What the program does with its arguments. -/
def plan (arguments : List String) : Plan :=
  match Command.ofArguments arguments with
  | .ok (.help false) => .exit ⟨0, unlines Help.brief, ""⟩
  | .ok (.help true) => .exit ⟨0, unlines Help.detailed, ""⟩
  | .ok .version => .exit ⟨0, unlines [Help.versionLine], ""⟩
  | .ok (.serve path) => .serve path
  | .error error => .exit ⟨2, "", error.message⟩

/-- What becomes of a run of the program. -/
inductive Outcome where
  | exit (exit : Exit)
  /-- It serves, and has logged this so far. -/
  | serving (config : Config) (server : Server) (lines : List LogLine)
  deriving DecidableEq, Repr

/-- The lines of a log that is set to some level, as they are printed. -/
def printed (level : LogLevel) (lines : List LogLine) : List String :=
  (LogLine.shown level lines).map LogLine.full

/-- The exit of a program that cannot go on. -/
def failure (message : String) : Exit := ⟨1, "", s!"Error: {message}\n"⟩

/-- The warning of a program that has nothing to listen on. -/
def nothingBound : LogLine :=
  ⟨.warn, .program, "No interfaces are bound, no features are enabled, " ++
    "it's just a program without any functionality :-)"⟩

/-- How the program ends once its configuration has been read. -/
structure Ending where
  /-- What it logs at last. -/
  lines : List LogLine
  exit : Exit
  deriving DecidableEq, Repr

/-- How the program ends that has logged some lines before. -/
def Ending.after (level : LogLevel) (before : List LogLine) (ending : Ending) : Exit :=
  { ending.exit with
    output := unlines (printed level (before ++ ending.lines)) ++ ending.exit.output }

/-- The rest of `main` behind the start: what the program serves, or how it ends. -/
def proceed : Server.Outcome → Except Ending Server
  | .finished => .error ⟨[nothingBound], ⟨0, "", ""⟩⟩
  | .refused error => .error ⟨[], failure error.message⟩
  | .serving server => .ok server

/-- Serves as a configuration says. -/
def serve (host : Host) (naming : Naming) (config : Config) : Outcome :=
  let start := host.start config
  let lines := listeningLines naming start.bound
  match proceed start.outcome with
  | .ok server => .serving config server lines
  | .error ending => .exit (ending.after config.log.level lines)

/-- Model of `main`: runs the program on a host, where files are read by `read`. -/
def run (host : Host) (naming : Naming) (read : String → Except SystemError Bytes)
    (arguments : List String) : Outcome :=
  match plan arguments with
  | .exit exit => .exit exit
  | .serve path =>
    match Config.load (read path) with
    | .ok config => serve host naming config
    | .error error => .exit (failure error.message)

/-! ## While it serves -/

/-- Model of `on_packet`: the line that the program logs for a packet. -/
def packetLine (naming : Naming) (client : Nat) (packet : Packet) : LogLine :=
  let channel := match packet.channelNumber with
    | some number => s!"Some({number.toNat})"
    | none => "None"
  ⟨.info, .program,
    s!"packet received: addr={naming.client client}, type={packet.kind.name}, " ++
      s!"size={packet.data.length}, channel={channel}"⟩

/-- The line for what happens in a session, if there is one. -/
def entryLine? (naming : Naming) (client : Nat) : Session.Entry → Option LogLine
  | .received packet => some (packetLine naming client packet)
  | entry => entry.logLine? naming client

/-- The lines for the answer of a step. -/
def answerLines (naming : Naming) : Server.Answer → List LogLine
  | .trace entries => entries.filterMap fun (client, entry) => entryLine? naming client entry
  | .notConnected | .refused => []

/-- How the program ends when a listener stops. -/
def stopping (naming : Naming) (listener : Nat) : Ending :=
  ⟨[Server.stoppedLine naming listener], ⟨0, "", ""⟩⟩

/-- The lines for what comes of an event. -/
def replyLines (naming : Naming) : Service.Reply → List LogLine
  | .answer answer => answerLines naming answer
  | .stopped listener => (stopping naming listener).lines
  | .gone => []

end Program

end IceTcp
