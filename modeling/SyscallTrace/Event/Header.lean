import SyscallTrace.Bytes.LittleEndian
import SyscallTrace.Event.Buffer
import SyscallTrace.Text.Utf8

/-!
# The common event header and metrics

Every record the probe writes starts with the same 88 bytes: a timestamp, the process id and
the return value (64 bits each, little endian, the last two signed), then a 64-byte event name
padded with NUL bytes. A name is cut to 63 bytes, even inside a UTF-8 character, so that the
field always ends with a NUL.

Decoding takes the header off the front of a buffer; the name is the field up to its first NUL,
read lossily as UTF-8.

A decoded event may be shipped to collectors as a metric: an envelope that counts the event
once, carries its common header (with the aggregation keys `hash` and `flags` left at zero)
and holds one event message, named by its variant, whose fields are named as in the kernel
record.

## Results

* `CommonEvent.length_toBytes`: the header takes 88 bytes.
* `Header.decode_toBytes_append`: a written header is read back off the front of any buffer,
  leaving the bytes after it.
-/

set_option autoImplicit false

namespace SyscallTrace.Event

open SyscallTrace.Bytes

/-- Bytes of the event name field. -/
def nameFieldSize : Nat := 64

/-- Bytes of the common header. -/
def headerSize : Nat := 88

/-- The common header as the probe writes it. -/
structure CommonEvent where
  timestamp : UInt64
  pid : Int64
  ret : Int64
  /-- The name field, `nameFieldSize` bytes. -/
  nameField : List UInt8
  deriving DecidableEq, Repr

/-- `bs` cut or padded with zeros to exactly `n` bytes. -/
def padTo (n : Nat) (bs : List UInt8) : List UInt8 :=
  bs.take n ++ List.replicate (n - bs.length) 0

theorem length_padTo (n : Nat) (bs : List UInt8) : (padTo n bs).length = n := by
  simp only [padTo, List.length_append, List.length_take, List.length_replicate]
  omega

namespace CommonEvent

/-- The header of an event `name`, its name cut to `nameFieldSize - 1` bytes. -/
def new (timestamp : UInt64) (pid ret : Int64) (name : String) : CommonEvent :=
  ⟨timestamp, pid, ret, padTo nameFieldSize ((Text.Utf8.encode name).take (nameFieldSize - 1))⟩

/-- The name up to its first NUL byte. -/
def nameBytes (e : CommonEvent) : List UInt8 :=
  cString e.nameField

/-- The 88 bytes of the header. -/
def toBytes (e : CommonEvent) : List UInt8 :=
  u64 e.timestamp ++ i64 e.pid ++ i64 e.ret ++ padTo nameFieldSize e.nameField

theorem length_toBytes (e : CommonEvent) : e.toBytes.length = headerSize := by
  simp [toBytes, u64, i64, length_encode, length_padTo, nameFieldSize, headerSize]

end CommonEvent

/-- The decoded common header. -/
structure Header where
  timestamp : UInt64
  pid : Int64
  ret : Int64
  /-- The event name, read lossily. -/
  name : String
  deriving DecidableEq, Repr

/-- Takes the common header off the front of a buffer. -/
def Header.decode (buf : List UInt8) : Except DecodeError (Header × List UInt8) :=
  if buf.length < headerSize then .error (.truncatedHeader buf.length)
  else
    let (timestamp, rest) := takeU64 buf
    let (pid, rest) := takeI64 rest
    let (ret, rest) := takeI64 rest
    let name := Text.Utf8.decodeLossy (cString (rest.take nameFieldSize))
    .ok (⟨timestamp, pid, ret, name⟩, rest.drop nameFieldSize)

theorem Header.decode_toBytes_append (e : CommonEvent) (rest : List UInt8) :
    Header.decode (e.toBytes ++ rest) =
      .ok (⟨e.timestamp, e.pid, e.ret,
        Text.Utf8.decodeLossy (cString (padTo nameFieldSize e.nameField))⟩, rest) := by
  have hlen : ¬ (e.toBytes ++ rest).length < headerSize := by
    rw [List.length_append, CommonEvent.length_toBytes]
    omega
  have hp := length_padTo nameFieldSize e.nameField
  unfold Header.decode
  rw [if_neg hlen]
  simp only [CommonEvent.toBytes, List.append_assoc, takeU64_append, takeI64_append]
  rw [List.take_left' hp, List.drop_left' hp]

/-- The process id as the 32-bit value descriptors are keyed by. -/
def Header.pid32 (h : Header) : UInt32 :=
  h.pid.toUInt64.toUInt32

/-! ## Metrics -/

/-- A field value of a wire message. -/
inductive WireValue where
  | bytes (b : List UInt8)
  | text (s : String)
  | number (n : Int)
  deriving DecidableEq, Repr

/-- The common header as a wire message. -/
structure CommonMessage where
  timestamp : UInt64
  pid : Int64
  ret : Int64
  name : String
  hash : UInt64
  flags : UInt64
  deriving DecidableEq, Repr

/-- The wire message of a header; the aggregation keys are for collectors to fill. -/
def Header.message (h : Header) : CommonMessage :=
  ⟨h.timestamp, h.pid, h.ret, h.name, 0, 0⟩

/-- One event message of the envelope. -/
structure MetricEvent where
  variant : String
  fields : List (String × WireValue)
  deriving DecidableEq, Repr

/-- The envelope of one decoded event. -/
structure Metric where
  count : Nat
  commonEvent : Option CommonMessage
  event : Option MetricEvent
  deriving DecidableEq, Repr

end SyscallTrace.Event
