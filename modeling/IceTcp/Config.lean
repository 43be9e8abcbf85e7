import IceTcp.Framing
import IceTcp.Json5.Document
import IceTcp.Json5.Reader
import IceTcp.Log
import IceTcp.Net.Address

/-!
# Configuration

A configuration says where to listen and how long an idle connection is kept, how many bytes a
connection may hold unresolved, how the framing is detected, and how much is logged.

It is read from a JSON5 value. Every setting but the endpoint of an interface has a default, which
it takes when it is left out; so has every group of settings. How endpoints, numbers and choices are
read is kept apart from the records that they stand in.

The definitions are models of `Config` of the source with its parts `Interface`, `Server`, `Demux`
and `Log`, and of the operations `policy`, `from_json5` and `load`.
-/

namespace IceTcp

/-! ## Settings and their defaults -/

/-- Where to listen. -/
structure Interface where
  listen : Endpoint
  /-- The seconds without a byte after which a connection is closed. -/
  idleTimeout : Nat
  deriving DecidableEq, Repr

/-- The idle timeout of an interface that gives none. -/
def Interface.standardIdleTimeout : Nat := 20

/-- The settings of the listeners. -/
structure ServerSettings where
  interfaces : List Interface
  /-- The number of unresolved bytes beyond which a connection is closed. -/
  maxBufferSize : Nat
  deriving DecidableEq, Repr

/-- The buffer limit of a server that gives none: three frames of the greatest length. -/
def ServerSettings.standardMaxBufferSize : Nat := (65535 + 2) * 3

/-- The settings of a server that gives none. -/
def ServerSettings.standard : ServerSettings := ⟨[], standardMaxBufferSize⟩

/-- The settings of the detection. -/
structure DetectionSettings where
  /-- The threshold as it is configured. -/
  threshold : Nat
  fallback : Fallback
  deriving DecidableEq, Repr

/-- The settings of a detection that gives none. -/
def DetectionSettings.standard : DetectionSettings := ⟨minimumThreshold, .direct⟩

/-- Model of `policy`: the policy that the settings amount to. -/
def DetectionSettings.policy (settings : DetectionSettings) : Policy :=
  .ofThreshold settings.threshold settings.fallback

/-- The settings of the log. -/
structure LogSettings where
  level : LogLevel
  deriving DecidableEq, Repr

/-- The settings of a log that gives none. -/
def LogSettings.standard : LogSettings := ⟨.info⟩

/-- A configuration. -/
structure Config where
  server : ServerSettings
  detection : DetectionSettings
  log : LogSettings
  deriving DecidableEq, Repr

namespace Config

/-- The configuration that sets nothing. -/
def standard : Config := ⟨.standard, .standard, .standard⟩

instance : Inhabited Config := ⟨standard⟩

/-- The policy by which framings are detected. -/
def policy (config : Config) : Policy := config.detection.policy

end Config

open Json5

/-- How the settings are read that are no records. -/
structure Leaves where
  endpoint : Reader Endpoint
  /-- A number up to a greatest one. -/
  count : Nat → Reader Nat
  fallback : Reader Fallback
  level : Reader LogLevel

/-! ## Interfaces -/

/-- An interface of which some settings have been read. -/
structure InterfaceDraft where
  listen : Option Endpoint
  idleTimeout : Option Nat

def InterfaceDraft.fields (leaves : Leaves) : List (RecordField InterfaceDraft) :=
  [{ name := "listen"
     isSet := fun draft => draft.listen.isSome
     set := fun value draft => do return { draft with listen := some (← leaves.endpoint value) } },
   { name := "idle-timeout"
     isSet := fun draft => draft.idleTimeout.isSome
     set := fun value draft => do
       return { draft with idleTimeout := some (← leaves.count (UInt32.size - 1) value) } }]

/-- The interface that was read. The endpoint has no default. -/
def InterfaceDraft.finish (layout : Layout) (draft : InterfaceDraft) : Except ReadError Interface :=
  match draft.listen, layout with
  | some listen, _ => .ok ⟨listen, draft.idleTimeout.getD Interface.standardIdleTimeout⟩
  | none, .object => .error (.missingField "listen")
  | none, .array => .error (.invalidLength 0 "struct Interface with 2 elements")

def Leaves.interface (leaves : Leaves) : Reader Interface :=
  readRecord "Interface" (InterfaceDraft.fields leaves) ⟨none, none⟩ InterfaceDraft.finish

/-! ## Groups of settings -/

/-- Settings of the listeners of which some have been read. -/
structure ServerDraft where
  interfaces : Option (List Interface)
  maxBufferSize : Option Nat

def ServerDraft.fields (leaves : Leaves) : List (RecordField ServerDraft) :=
  [{ name := "interfaces"
     isSet := fun draft => draft.interfaces.isSome
     set := fun value draft => do
       return { draft with interfaces := some (← readList leaves.interface value) } },
   { name := "max-buffer-size"
     isSet := fun draft => draft.maxBufferSize.isSome
     set := fun value draft => do
       return { draft with maxBufferSize := some (← leaves.count (UInt64.size - 1) value) } }]

def ServerDraft.finish (_ : Layout) (draft : ServerDraft) : Except ReadError ServerSettings :=
  .ok ⟨draft.interfaces.getD [],
    draft.maxBufferSize.getD ServerSettings.standardMaxBufferSize⟩

def Leaves.server (leaves : Leaves) : Reader ServerSettings :=
  readRecord "Server" (ServerDraft.fields leaves) ⟨none, none⟩ ServerDraft.finish

/-- Settings of the detection of which some have been read. -/
structure DetectionDraft where
  threshold : Option Nat
  fallback : Option Fallback

def DetectionDraft.fields (leaves : Leaves) : List (RecordField DetectionDraft) :=
  [{ name := "fallback-threshold"
     isSet := fun draft => draft.threshold.isSome
     set := fun value draft => do
       return { draft with threshold := some (← leaves.count (UInt64.size - 1) value) } },
   { name := "fallback"
     isSet := fun draft => draft.fallback.isSome
     set := fun value draft => do
       return { draft with fallback := some (← leaves.fallback value) } }]

def DetectionDraft.finish (_ : Layout) (draft : DetectionDraft) :
    Except ReadError DetectionSettings :=
  .ok ⟨draft.threshold.getD minimumThreshold, draft.fallback.getD .direct⟩

def Leaves.detection (leaves : Leaves) : Reader DetectionSettings :=
  readRecord "Demux" (DetectionDraft.fields leaves) ⟨none, none⟩ DetectionDraft.finish

/-- Settings of the log of which some have been read. -/
structure LogDraft where
  level : Option LogLevel

def LogDraft.fields (leaves : Leaves) : List (RecordField LogDraft) :=
  [{ name := "level"
     isSet := fun draft => draft.level.isSome
     set := fun value _ => do return ⟨some (← leaves.level value)⟩ }]

def LogDraft.finish (_ : Layout) (draft : LogDraft) : Except ReadError LogSettings :=
  .ok ⟨draft.level.getD .info⟩

def Leaves.log (leaves : Leaves) : Reader LogSettings :=
  readRecord "Log" (LogDraft.fields leaves) ⟨none⟩ LogDraft.finish

/-! ## Configurations -/

/-- A configuration of which some groups have been read. -/
structure ConfigDraft where
  server : Option ServerSettings
  detection : Option DetectionSettings
  log : Option LogSettings

def ConfigDraft.fields (leaves : Leaves) : List (RecordField ConfigDraft) :=
  [{ name := "server"
     isSet := fun draft => draft.server.isSome
     set := fun value draft => do
       return { draft with server := some (← leaves.server value) } },
   { name := "demux"
     isSet := fun draft => draft.detection.isSome
     set := fun value draft => do
       return { draft with detection := some (← leaves.detection value) } },
   { name := "log"
     isSet := fun draft => draft.log.isSome
     set := fun value draft => do return { draft with log := some (← leaves.log value) } }]

def ConfigDraft.finish (_ : Layout) (draft : ConfigDraft) : Except ReadError Config :=
  .ok ⟨draft.server.getD .standard, draft.detection.getD .standard, draft.log.getD .standard⟩

def Leaves.config (leaves : Leaves) : Reader Config :=
  readRecord "Config" (ConfigDraft.fields leaves) ⟨none, none, none⟩ ConfigDraft.finish

/-! ## Single settings -/

/-- The names of the fallbacks. -/
def Fallback.variants : List (String × Fallback) :=
  [("ice-tcp-direct", .direct), ("turn-relay", .relay), ("reject", .reject)]

/-- The names of the log levels. -/
def LogLevel.variants : List (String × LogLevel) :=
  [("error", .error), ("warn", .warn), ("info", .info), ("debug", .debug), ("trace", .trace)]

/-- How the settings of a configuration are read. -/
def Leaves.standard : Leaves where
  endpoint := readEndpoint
  count := readCount
  fallback := readVariant Fallback.variants
  level := readVariant LogLevel.variants

/-- The interface that a JSON5 value describes. -/
def Interface.ofJson5 : Reader Interface := Leaves.standard.interface

namespace Config

/-- The configuration that a JSON5 value describes. -/
def ofJson5 : Reader Config := Leaves.standard.config

/-- Why a text is no configuration. -/
inductive Error where
  /-- It is no JSON5 document. -/
  | malformed
  /-- Its value does not fit. -/
  | unfit (error : ReadError)
  deriving DecidableEq, Repr

/-- The configuration that a text describes, by a parser for JSON5 and a reader for its values. -/
def parseWith (parser : String → Option Json5) (reader : Reader Config) (text : String) :
    Except Error Config :=
  match parser text with
  | none => .error .malformed
  | some value => (reader value).mapError Error.unfit

/-- Model of `from_json5`: the configuration that a text describes. -/
def parse (text : String) : Except Error Config := parseWith Json5.parse? ofJson5 text

end Config

end IceTcp
