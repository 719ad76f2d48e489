/-!
# Address text

An IPv4 address is written as its four bytes in decimal, in memory order, joined by dots. A
socket keeps the address in network order, so a 32-bit word read from it little endian has its
first byte in the low bits.

An IPv6 address is sixteen bytes, read as eight 16-bit groups in network order. An
IPv4-mapped address (`::ffff:a.b.c.d`) is written with its IPv4 part in dotted decimal.
Otherwise the groups are written in lowercase hexadecimal without leading zeros, joined by
colons, with the longest run of at least two zero groups (the first of equal runs) replaced by
`::`.
-/

set_option autoImplicit false

namespace SyscallTrace.Net

/-! ## IPv4 -/

/-- The dotted-decimal text of four address bytes. -/
def ipv4Text (bytes : List UInt8) : String :=
  ".".intercalate (bytes.map fun b => toString b.toNat)

/-- The bytes of a 32-bit word in memory order, least significant first. -/
def wordBytes (addr : UInt32) : List UInt8 :=
  [addr.toUInt8, (addr >>> 8).toUInt8, (addr >>> 16).toUInt8, (addr >>> 24).toUInt8]

/-- The text of an address stored as a 32-bit word in network order. -/
def ipv4OfWord (addr : UInt32) : String :=
  ipv4Text (wordBytes addr)

example : ipv4OfWord 16777226 = "10.0.0.1" := by decide

/-! ## IPv6 -/

/-- The eight groups of an address. -/
def groups : List UInt8 → List Nat
  | a :: b :: rest => (a.toNat * 256 + b.toNat) :: groups rest
  | _ => []

/-- A group in lowercase hexadecimal without leading zeros. -/
def groupText (g : Nat) : String :=
  String.ofList (Nat.toDigits 16 g)

/-- Groups joined by colons. -/
def joinGroups (gs : List Nat) : String :=
  ":".intercalate (gs.map groupText)

/-- The longest run of zero groups as (start, length), the first of equal runs; scanning from
index `i` with the current run `cur` and the best `best` so far. -/
def longestZeroRun : List Nat → Nat → Nat × Nat → Nat × Nat → Nat × Nat
  | [], _, _, best => best
  | g :: gs, i, cur, best =>
    if g = 0 then
      let cur := if cur.2 = 0 then (i, 1) else (cur.1, cur.2 + 1)
      longestZeroRun gs (i + 1) cur (if cur.2 > best.2 then cur else best)
    else longestZeroRun gs (i + 1) (0, 0) best

/-- The text of a sixteen-byte address. -/
def ipv6Text (bytes : List UInt8) : String :=
  let gs := groups bytes
  if gs.take 6 = [0, 0, 0, 0, 0, 0xffff] then "::ffff:" ++ ipv4Text (bytes.drop 12)
  else
    let (start, len) := longestZeroRun gs 0 (0, 0) (0, 0)
    if len > 1 then joinGroups (gs.take start) ++ "::" ++ joinGroups (gs.drop (start + len))
    else joinGroups gs

example : ipv6Text [0x20, 0x01, 0x0d, 0xb8, 0, 0, 0, 0, 0, 0, 0, 0, 0, 0, 0, 2] = "2001:db8::2" := by
  decide

end SyscallTrace.Net
