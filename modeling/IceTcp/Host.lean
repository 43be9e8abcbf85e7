import IceTcp.Bytes
import IceTcp.Net.Address

/-!
# The host of a server

A host decides on which endpoints one can listen: by the addresses and network devices that it has,
by the ports that it keeps for privileged programs, and by what is listened on already. It holds the
file of the configuration. When it does not do what it is asked for, it says why by a number.

Main results:

* `SystemError.ofCode?_eq_some_iff`: an error and its number determine each other.
* `Host.bound_listenInOrder_isPrefix`: interfaces are bound in order.
* `Host.listenInOrder_eq_none_iff`: all of them are bound unless one is refused.
-/

namespace IceTcp

/-! ## Errors of the system

The errors that reading files and listening can meet have names here; any other error is kept as its
text.
-/

/-- Why the system does not do what it is asked for. -/
inductive SystemError where
  | notPermitted
  | notFound
  | permissionDenied
  | noDevice
  | notDirectory
  | isDirectory
  | invalidArgument
  | nameTooLong
  | addressInUse
  | addressUnavailable
  | connectionReset
  | other (text : String)
  deriving DecidableEq, Repr

namespace SystemError

/-- The number of an error that has a name here. -/
def code? : SystemError → Option Nat
  | .notPermitted => some 1
  | .notFound => some 2
  | .permissionDenied => some 13
  | .noDevice => some 19
  | .notDirectory => some 20
  | .isDirectory => some 21
  | .invalidArgument => some 22
  | .nameTooLong => some 36
  | .addressInUse => some 98
  | .addressUnavailable => some 99
  | .connectionReset => some 104
  | .other _ => none

/-- The text of an error. -/
def text : SystemError → String
  | .notPermitted => "Operation not permitted"
  | .notFound => "No such file or directory"
  | .permissionDenied => "Permission denied"
  | .noDevice => "No such device"
  | .notDirectory => "Not a directory"
  | .isDirectory => "Is a directory"
  | .invalidArgument => "Invalid argument"
  | .nameTooLong => "File name too long"
  | .addressInUse => "Address already in use"
  | .addressUnavailable => "Cannot assign requested address"
  | .connectionReset => "Connection reset by peer"
  | .other text => text

/-- How an error is reported: its text, and its number if it has one. -/
def message (error : SystemError) : String :=
  match error.code? with
  | some code => s!"{error.text} (os error {code})"
  | none => error.text

/-- The errors that have a number. -/
def numbered : List SystemError :=
  [.notPermitted, .notFound, .permissionDenied, .noDevice, .notDirectory, .isDirectory,
    .invalidArgument, .nameTooLong, .addressInUse, .addressUnavailable, .connectionReset]

/-- The error with this number. -/
def ofCode? (code : Nat) : Option SystemError :=
  numbered.find? fun error => error.code? == some code

/-- An error and its number determine each other. -/
theorem ofCode?_eq_some_iff {code : Nat} {error : SystemError} :
    ofCode? code = some error ↔ error.code? = some code := by
  constructor
  · intro h
    have := List.find?_some h
    exact eq_of_beq this
  · intro h
    cases error <;> simp only [code?, Option.some.injEq, reduceCtorEq] at h <;> subst h <;> rfl

end SystemError

/-! ## Files

What reading a file comes to: its bytes, or a reason why it cannot be read. A directory of plain
files tells it for every path that is seen from within the directory.
-/

/-- A directory that holds plain files only. -/
structure Directory where
  files : List (String × Bytes)
  deriving DecidableEq, Repr

namespace Directory

/-- The steps of a path that lead somewhere: empty ones and single points stay where they are. -/
def steps (path : String) : List String :=
  (path.splitOn "/").filter fun step => step != "" && step != "."

/-- Whether a path can only be that of a directory, by its last step. -/
def endsInDirectory (path : String) : Bool :=
  match (path.splitOn "/").getLast? with
  | some step => step == "" || step == "." || step == ".."
  | none => false

/-- A path has to be shorter than this, in bytes. -/
def pathLimit : Nat := 4096

/-- A name that is looked up may have this many bytes. -/
def nameLimit : Nat := 255

/-- Reads the file that a path leads to from the directory. Above the directory there are
directories only, and none that a path names. -/
def read (directory : Directory) (path : String) : Except SystemError Bytes :=
  if path.isEmpty then .error .notFound
  else if pathLimit ≤ path.utf8ByteSize then .error .nameTooLong
  else
    let steps := steps path
    match steps.dropWhile (· == "..") with
    | [] => .error .isDirectory
    | name :: later =>
      if nameLimit < name.utf8ByteSize then .error .nameTooLong
      else if path.startsWith "/" || steps.head? == some ".." then .error .notFound
      else
        match directory.files.lookup name with
        | none => .error .notFound
        | some bytes =>
          if later.isEmpty && !endsInDirectory path then .ok bytes else .error .notDirectory

end Directory

/-! ## Listening -/

/-- What a server depends on of the machine that it runs on. -/
structure Host where
  /-- Whether the host takes an IPv4 address for one that can be listened on. -/
  takes : Ipv4 → Bool
  /-- The IPv6 addresses of the host. -/
  addresses : List Ipv6
  /-- The numbers of its network devices. -/
  devices : List UInt32
  /-- Ports below this one are kept for privileged programs. -/
  firstOpenPort : UInt16

namespace Host

/-- What stands in the way of an IPv4 address. -/
def v4Refusal? (host : Host) (address : Ipv4) : Option SystemError :=
  if host.takes address then none else some .addressUnavailable

/-- What stands in the way of an IPv6 address. One that is only good within a network has to say by
its scope which device leads there. -/
def v6Refusal? (host : Host) (address : Ipv6) (scope : UInt32) : Option SystemError :=
  match address.mapped? with
  | some v4 => host.v4Refusal? v4
  | none =>
    if address = .unspecified then none
    else if address.isLinkLocal && scope == 0 then some .invalidArgument
    else if address.isLinkLocal && !host.devices.contains scope then some .noDevice
    else if host.addresses.contains address then none
    else some .addressUnavailable

/-- What stands in the way of a port. Port zero is any free port. -/
def portRefusal? (host : Host) (port : UInt16) : Option SystemError :=
  if port = 0 ∨ host.firstOpenPort ≤ port then none else some .permissionDenied

/-- What stands in the way of listening on an endpoint, beside those that are bound. With IPv6 the
port is looked at before the address. -/
def refusal? (host : Host) (bound : List Endpoint) (endpoint : Endpoint) : Option SystemError :=
  (match endpoint with
    | .v4 address port => host.v4Refusal? address <|> host.portRefusal? port
    | .v6 address port scope =>
      if address.isMulticast then some .invalidArgument
      else host.portRefusal? port <|> host.v6Refusal? address scope) <|>
  if bound.any endpoint.collides then some .addressInUse else none

end Host

/-! ### All endpoints -/

/-- Listens where each item says, in order, and gives up at the first one that is refused: what was
bound, and the refusal if there was one. How one listens is the matter of the machine. -/
def bindInOrder {m : Type → Type} [Monad m] {α β ε : Type} (listen : α → m (Except ε β)) :
    List α → m (List β × Option ε)
  | [] => pure ([], none)
  | item :: later => do
    match ← listen item with
    | .error error => pure ([], some error)
    | .ok bound =>
      let (others, refusal) ← bindInOrder listen later
      pure (bound :: others, refusal)

namespace Host

/-- Listens on an endpoint, beside those that are bound. -/
def listen (host : Host) (endpoint : Endpoint) :
    StateM (List Endpoint) (Except SystemError Endpoint) := fun bound =>
  match host.refusal? bound endpoint with
  | some error => (.error error, bound)
  | none => (.ok endpoint, endpoint :: bound)

/-- Listens on the interfaces in order. -/
def listenInOrder {α : Type} (host : Host) (endpoint : α → Endpoint) (interfaces : List α) :
    StateM (List Endpoint) (List Endpoint × Option SystemError) :=
  bindInOrder (fun interface => host.listen (endpoint interface)) interfaces

variable {α : Type} (host : Host) (endpoint : α → Endpoint)

theorem listenInOrder_cons (interface : α) (later : List α) (bound : List Endpoint) :
    host.listenInOrder endpoint (interface :: later) bound =
      match host.refusal? bound (endpoint interface) with
      | some error => (([], some error), bound)
      | none =>
        let after := host.listenInOrder endpoint later (endpoint interface :: bound)
        ((endpoint interface :: after.1.1, after.1.2), after.2) := by
  rw [listenInOrder, bindInOrder]
  simp only [bind, StateT.bind, listen]
  cases host.refusal? bound (endpoint interface) <;> rfl

/-- Interfaces are bound in order. -/
theorem bound_listenInOrder_isPrefix (interfaces : List α) (bound : List Endpoint) :
    (host.listenInOrder endpoint interfaces bound).1.1 <+: interfaces.map endpoint := by
  induction interfaces generalizing bound with
  | nil => exact List.prefix_refl _
  | cons interface later ih =>
    rw [listenInOrder_cons]
    cases host.refusal? bound (endpoint interface) with
    | some error => exact List.nil_prefix
    | none => exact (List.prefix_cons_inj _).mpr (ih _)

/-- All interfaces are bound unless one is refused. -/
theorem listenInOrder_eq_none_iff (interfaces : List α) (bound : List Endpoint) :
    (host.listenInOrder endpoint interfaces bound).1.2 = none ↔
      (host.listenInOrder endpoint interfaces bound).1.1 = interfaces.map endpoint := by
  induction interfaces generalizing bound with
  | nil => exact iff_of_true rfl rfl
  | cons interface later ih =>
    rw [listenInOrder_cons]
    cases host.refusal? bound (endpoint interface) with
    | some error => simp
    | none => simp [ih]

end Host

end IceTcp
