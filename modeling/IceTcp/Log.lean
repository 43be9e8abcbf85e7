/-!
# Logging

Every log record has a level, and a log shows the records that are at least as severe as the level
it is set to. A log line has a level, the part of the program that it comes from, and a text.
-/

namespace IceTcp

/-- How severe a log record is. -/
inductive LogLevel where
  | error
  | warn
  | info
  | debug
  | trace
  deriving DecidableEq, Repr

namespace LogLevel

/-- The place of a level, from the most severe one on. -/
def rank : LogLevel → Nat
  | .error => 1
  | .warn => 2
  | .info => 3
  | .debug => 4
  | .trace => 5

/-- Whether a log that is set to `limit` shows a record of this level. -/
def allows (limit level : LogLevel) : Bool := decide (level.rank ≤ limit.rank)

/-- The name of a level in log lines. -/
def name : LogLevel → String
  | .error => "ERROR"
  | .warn => "WARN"
  | .info => "INFO"
  | .debug => "DEBUG"
  | .trace => "TRACE"

end LogLevel

/-! ## Log lines -/

/-- The part of the program that a log line comes from. -/
inductive LogOrigin where
  | program
  | server
  | demux
  deriving DecidableEq, Repr

/-- The name of a part in log lines. -/
def LogOrigin.name : LogOrigin → String
  | .program => "ice_tcp_demux"
  | .server => "ice_tcp_demux::server"
  | .demux => "ice_tcp_demux::demux"

/-- A log line. -/
structure LogLine where
  level : LogLevel
  origin : LogOrigin
  text : String
  deriving DecidableEq, Repr

namespace LogLine

/-- The line with its level in front. -/
def brief (line : LogLine) : String := s!"{line.level.name} {line.text}"

/-- The line with its level, in a column of five characters, and its origin. -/
def full (line : LogLine) : String :=
  let level := line.level.name
  let blanks := String.ofList (List.replicate (5 - level.length) ' ')
  s!"{level}{blanks} [{line.origin.name}] {line.text}"

/-- The lines that a log shows. -/
def shown (limit : LogLevel) (lines : List LogLine) : List LogLine :=
  lines.filter fun line => limit.allows line.level

end LogLine

end IceTcp
