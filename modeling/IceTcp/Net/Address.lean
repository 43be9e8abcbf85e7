import IceTcp.Text.Digits

/-!
# Addresses and endpoints

An IPv4 address is four octets and an IPv6 address eight groups of 16 bits. An endpoint is an
address with a port; with an IPv6 address it also has a scope.

IPv6 addresses are written in their shortest usual form: lower case, no leading zeros, and the
first of the longest runs of two and more zero groups as `::`. Addresses that map IPv4 show it.
-/

namespace IceTcp

/-- An IPv4 address. -/
structure Ipv4 where
  first : UInt8
  second : UInt8
  third : UInt8
  fourth : UInt8
  deriving DecidableEq, Repr

/-- An IPv6 address: eight groups, most significant first. -/
structure Ipv6 where
  groups : List UInt16
  length_groups : groups.length = 8
  deriving DecidableEq, Repr

/-- An address of either version. -/
inductive IpAddress where
  | v4 (address : Ipv4)
  | v6 (address : Ipv6)
  deriving DecidableEq, Repr

/-- An address and a port to listen on. -/
inductive Endpoint where
  | v4 (address : Ipv4) (port : UInt16)
  | v6 (address : Ipv6) (port : UInt16) (scope : UInt32)
  deriving DecidableEq, Repr

namespace Ipv4

/-- The four octets in decimal, with points between them. -/
def text (address : Ipv4) : String :=
  s!"{address.first.toNat}.{address.second.toNat}.{address.third.toNat}.{address.fourth.toNat}"

/-- The two groups that the octets make at the end of an IPv6 address. -/
def groups (address : Ipv4) : List UInt16 :=
  [address.first.toUInt16 <<< 8 ||| address.second.toUInt16,
    address.third.toUInt16 <<< 8 ||| address.fourth.toUInt16]

/-- The address that stands for all addresses of a host. -/
def unspecified : Ipv4 := ⟨0, 0, 0, 0⟩

end Ipv4

namespace Ipv6

/-- The address with these groups, if there are eight of them. -/
def ofGroups? (groups : List UInt16) : Option Ipv6 :=
  if h : groups.length = 8 then some ⟨groups, h⟩ else none

/-- The address that stands for all addresses of a host. -/
def unspecified : Ipv6 := ⟨List.replicate 8 0, rfl⟩

/-- The start and the length of the first of the longest runs of zero groups. -/
def zeroRun (groups : List UInt16) : Nat × Nat :=
  (List.range groups.length).foldl
    (fun best start =>
      let length := ((groups.drop start).takeWhile (· == 0)).length
      if best.2 < length then (start, length) else best)
    (0, 0)

/-- Groups in hexadecimal, with colons between them. -/
def groupsText (groups : List UInt16) : String :=
  ":".intercalate (groups.map fun group => Hex.text group.toNat)

/-- The IPv4 address that an IPv6 address maps, if it does. -/
def mapped? (address : Ipv6) : Option Ipv4 :=
  match address.groups with
  | [0, 0, 0, 0, 0, 0xFFFF, high, low] =>
    some ⟨(high >>> 8).toUInt8, high.toUInt8, (low >>> 8).toUInt8, low.toUInt8⟩
  | _ => none

/-- Whether an address is that of a group of hosts. -/
def isMulticast (address : Ipv6) : Bool :=
  address.groups.head?.any fun group => group &&& 0xFF00 == 0xFF00

/-- Whether an address is only good within one network. -/
def isLinkLocal (address : Ipv6) : Bool :=
  address.groups.head?.any fun group => group &&& 0xFFC0 == 0xFE80

/-- The text of an IPv6 address. -/
def text (address : Ipv6) : String :=
  match address.mapped? with
  | some v4 => "::ffff:" ++ v4.text
  | none =>
    let (start, length) := zeroRun address.groups
    if 1 < length then
      groupsText (address.groups.take start) ++ "::" ++
        groupsText (address.groups.drop (start + length))
    else groupsText address.groups

end Ipv6

namespace IpAddress

def text : IpAddress → String
  | .v4 address => address.text
  | .v6 address => address.text

/-- The IPv4 address that an address is or maps. -/
def v4? : IpAddress → Option Ipv4
  | .v4 address => some address
  | .v6 address => address.mapped?

/-- Whether two addresses cannot be listened on with the same port: they are the same, or one of
them stands for the other too. What stands for all IPv6 addresses stands for all IPv4 addresses. -/
def overlaps (address other : IpAddress) : Bool :=
  match address.v4?, other.v4? with
  | some first, some second =>
    first == second || first == .unspecified || second == .unspecified
  | _, _ => address == other || address == .v6 .unspecified || other == .v6 .unspecified

end IpAddress

namespace Endpoint

def address : Endpoint → IpAddress
  | .v4 address _ => .v4 address
  | .v6 address _ _ => .v6 address

def port : Endpoint → UInt16
  | .v4 _ port => port
  | .v6 _ port _ => port

/-- Whether two endpoints cannot be listened on at the same time. Port zero is any free port. -/
def collides (endpoint other : Endpoint) : Bool :=
  endpoint.port != 0 && endpoint.port == other.port && endpoint.address.overlaps other.address

/-- The text of an endpoint; a scope of zero is not shown. -/
def text : Endpoint → String
  | .v4 address port => s!"{address.text}:{port.toNat}"
  | .v6 address port scope =>
    if scope = 0 then s!"[{address.text}]:{port.toNat}"
    else s!"[{address.text}%{scope.toNat}]:{port.toNat}"

end Endpoint

/-! ## Reading endpoints

An endpoint is `address:port` or `[address]:port`, and in the brackets `%` and a scope may follow
the address. The octets of an IPv4 address have no leading zeros. An IPv6 address has eight groups
of at most four digits, fewer with one `::`, and the last two may be written as an IPv4 address.
-/

namespace Net

/-- The value of a digit in base ten or sixteen. -/
def digit? (base : Nat) (c : Char) : Option Nat :=
  (Hex.digitValue? c).filter (· < base)

/-- The number that digits denote. -/
def value (base : Nat) (digits : List Char) : Nat :=
  Digits.value base (digits.map fun c => (digit? base c).getD 0)

/-- Whether digits may be read as a number: there is one, there are not too many, and a leading
zero stands alone unless it is allowed. -/
def admissible (maxDigits : Option Nat) (leadingZero : Bool) (digits : List Char) : Bool :=
  digits ≠ [] && maxDigits.all (digits.length ≤ ·) &&
    (leadingZero || digits.head? ≠ some '0' || digits.length = 1)

/-- Reads as many digits as there are as a number below `limit`. -/
def number? (base limit : Nat) (maxDigits : Option Nat) (leadingZero : Bool) (text : List Char) :
    Option (Nat × List Char) :=
  let digits := text.takeWhile fun c => (digit? base c).isSome
  if admissible maxDigits leadingZero digits = true ∧ value base digits < limit then
    some (value base digits, text.drop digits.length)
  else none

/-- Reads one given character. -/
def char? (expected : Char) : List Char → Option (Unit × List Char)
  | c :: rest => if c = expected then some ((), rest) else none
  | [] => none

/-- Reads an octet in decimal. -/
def octet? (text : List Char) : Option (UInt8 × List Char) := do
  let (n, rest) ← number? 10 256 (some 3) false text
  return (UInt8.ofNat n, rest)

/-- Reads an IPv4 address. -/
def ipv4? (text : List Char) : Option (Ipv4 × List Char) := do
  let (first, text) ← octet? text
  let ((), text) ← char? '.' text
  let (second, text) ← octet? text
  let ((), text) ← char? '.' text
  let (third, text) ← octet? text
  let ((), text) ← char? '.' text
  let (fourth, text) ← octet? text
  return (⟨first, second, third, fourth⟩, text)

/-- Groups of an IPv6 address that were read. -/
structure Groups where
  groups : List UInt16
  /-- Whether the last two were written as an IPv4 address. -/
  endsInIpv4 : Bool
  rest : List Char

/-- Reads groups with colons between them, `most` at most and as many as there are. -/
def readGroups (first : Bool) : (most : Nat) → List Char → Groups
  | 0, text => ⟨[], false, text⟩
  | most + 1, text =>
    let body := if first then some text else (char? ':' text).map Prod.snd
    match body with
    | none => ⟨[], false, text⟩
    | some body =>
      match if 1 ≤ most then ipv4? body else none with
      | some (address, rest) => ⟨address.groups, true, rest⟩
      | none =>
        match number? 16 65536 (some 4) true body with
        | none => ⟨[], false, text⟩
        | some (group, rest) =>
          let later := readGroups false most rest
          { later with groups := UInt16.ofNat group :: later.groups }

/-- Reads an IPv6 address: eight groups, or groups on both sides of one `::` that stands for at
least one zero group. -/
def ipv6? (text : List Char) : Option (Ipv6 × List Char) := do
  let head := readGroups true 8 text
  if head.groups.length = 8 then
    return (← Ipv6.ofGroups? head.groups, head.rest)
  else if head.endsInIpv4 then none
  else
    let ((), text) ← char? ':' head.rest
    let ((), text) ← char? ':' text
    let tail := readGroups true (7 - head.groups.length) text
    let zeros := List.replicate (8 - head.groups.length - tail.groups.length) 0
    return (← Ipv6.ofGroups? (head.groups ++ zeros ++ tail.groups), tail.rest)

/-- Reads a colon and a port. -/
def port? (text : List Char) : Option (UInt16 × List Char) := do
  let ((), text) ← char? ':' text
  let (n, rest) ← number? 10 UInt16.size none true text
  return (UInt16.ofNat n, rest)

/-- Reads a percent sign and a scope. -/
def scope? (text : List Char) : Option (UInt32 × List Char) := do
  let ((), text) ← char? '%' text
  let (n, rest) ← number? 10 UInt32.size none true text
  return (UInt32.ofNat n, rest)

/-- Reads an endpoint with an IPv4 address. -/
def endpointV4? (text : List Char) : Option (Endpoint × List Char) := do
  let (address, text) ← ipv4? text
  let (port, text) ← port? text
  return (.v4 address port, text)

/-- Reads an endpoint with an IPv6 address. Without a scope the scope is zero. -/
def endpointV6? (text : List Char) : Option (Endpoint × List Char) := do
  let ((), text) ← char? '[' text
  let (address, text) ← ipv6? text
  let (scope, text) := (scope? text).getD (0, text)
  let ((), text) ← char? ']' text
  let (port, text) ← port? text
  return (.v6 address port scope, text)

/-- The endpoint that a text writes, if the whole text is one. -/
def endpoint? (text : String) : Option Endpoint :=
  match (endpointV4? text.toList).or (endpointV6? text.toList) with
  | some (endpoint, []) => some endpoint
  | _ => none

end Net

end IceTcp
