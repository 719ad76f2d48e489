import SyscallTrace.Event.Header
import SyscallTrace.Net.Address

/-!
# Connection events

A connection was established, accepted or closed. The payload holds the source and destination
addresses, the two ports and the network namespace; IPv4 addresses are 32-bit words in network
order, IPv6 addresses sixteen bytes. The arguments are the addresses as text, then the ports
and the namespace in decimal.
-/

set_option autoImplicit false

namespace SyscallTrace.Event

open SyscallTrace.Bytes

/-- The IPv4 connection events. -/
def v4Kinds : List String := ["connect_v4", "accept_v4", "close_v4"]

/-- The IPv6 connection events. -/
def v6Kinds : List String := ["connect_v6", "accept_v6", "close_v6"]

/-- An IPv4 connection. -/
structure ConnectV4 where
  /-- Which of the IPv4 events it came from. -/
  kind : String
  saddr : UInt32
  daddr : UInt32
  sport : UInt16
  dport : UInt16
  netns : UInt32
  deriving DecidableEq, Repr

/-- An IPv6 connection. -/
structure ConnectV6 where
  /-- Which of the IPv6 events it came from. -/
  kind : String
  saddr : List UInt8
  daddr : List UInt8
  sport : UInt16
  dport : UInt16
  netns : UInt32
  deriving DecidableEq, Repr

/-- Bytes of an IPv4 connection payload. -/
def v4PayloadSize : Nat := 16

/-- Bytes of an IPv6 connection payload. -/
def v6PayloadSize : Nat := 40

/-- The argument `n` of a list of named arguments. -/
def nthArg (event : String) (args : List (String × String)) (n : Nat) : Except ArgError String :=
  match args[n]? with
  | some (_, v) => .ok v
  | none => .error (.outOfRange event n)

namespace ConnectV4

/-- Decodes an IPv4 connection payload. -/
def decode (kind : String) (payload : List UInt8) : Except DecodeError ConnectV4 :=
  match ensurePayload kind payload v4PayloadSize with
  | .error e => .error e
  | .ok () =>
    let (saddr, rest) := takeU32 payload
    let (daddr, rest) := takeU32 rest
    let (sport, rest) := takeU16 rest
    let (dport, rest) := takeU16 rest
    let (netns, _) := takeU32 rest
    .ok ⟨kind, saddr, daddr, sport, dport, netns⟩

/-- Every argument with its name. -/
def args (e : ConnectV4) : List (String × String) :=
  [("saddr", Net.ipv4OfWord e.saddr), ("daddr", Net.ipv4OfWord e.daddr),
   ("sport", toString e.sport.toNat), ("dport", toString e.dport.toNat),
   ("netns", toString e.netns.toNat)]

/-- The event as one line of text. -/
def render (e : ConnectV4) : String :=
  "Saddr " ++ Net.ipv4OfWord e.saddr ++ " Daddr " ++ Net.ipv4OfWord e.daddr ++ " Sport " ++
    toString e.sport.toNat ++ " Dport " ++ toString e.dport.toNat ++ " Netns " ++
    toString e.netns.toNat ++ " "

/-- The event message of the metric: addresses as raw words. -/
def metricEvent (e : ConnectV4) : MetricEvent :=
  ⟨"ConnectV4Event", [("saddr", .number e.saddr.toNat), ("daddr", .number e.daddr.toNat),
    ("sport", .number e.sport.toNat), ("dport", .number e.dport.toNat),
    ("netns", .number e.netns.toNat)]⟩

end ConnectV4

namespace ConnectV6

/-- Decodes an IPv6 connection payload. -/
def decode (kind : String) (payload : List UInt8) : Except DecodeError ConnectV6 :=
  match ensurePayload kind payload v6PayloadSize with
  | .error e => .error e
  | .ok () =>
    let saddr := payload.take 16
    let daddr := (payload.drop 16).take 16
    let (sport, rest) := takeU16 (payload.drop 32)
    let (dport, rest) := takeU16 rest
    let (netns, _) := takeU32 rest
    .ok ⟨kind, saddr, daddr, sport, dport, netns⟩

/-- Every argument with its name. -/
def args (e : ConnectV6) : List (String × String) :=
  [("saddr", Net.ipv6Text e.saddr), ("daddr", Net.ipv6Text e.daddr),
   ("sport", toString e.sport.toNat), ("dport", toString e.dport.toNat),
   ("netns", toString e.netns.toNat)]

/-- The event as one line of text. -/
def render (e : ConnectV6) : String :=
  "Saddr " ++ Net.ipv6Text e.saddr ++ " Daddr " ++ Net.ipv6Text e.daddr ++ " Sport " ++
    toString e.sport.toNat ++ " Dport " ++ toString e.dport.toNat ++ " Netns " ++
    toString e.netns.toNat ++ " "

/-- The event message of the metric: addresses as text. -/
def metricEvent (e : ConnectV6) : MetricEvent :=
  ⟨"ConnectV6Event", [("saddr", .text (Net.ipv6Text e.saddr)),
    ("daddr", .text (Net.ipv6Text e.daddr)), ("sport", .number e.sport.toNat),
    ("dport", .number e.dport.toNat), ("netns", .number e.netns.toNat)]⟩

end ConnectV6

end SyscallTrace.Event
