import SyscallTrace.Event.Header
import SyscallTrace.Codegen.Decoder
import SyscallTrace.Descriptor.Context

/-!
# Syscall events

A syscall event is decoded by its layout, the three views of its compiled schema: the payload
holds the fields of the kernel record in order, each at its record width, and nothing else is
read. A descriptor field is shown with the path the context resolves for it.

The text views follow the decoder view: `render` writes each field after its camel-case name
(a buffer quoted, a descriptor with its path in angle brackets), `args` pairs each kernel name
with the same text, and `arg` gives one field's plain text. The metric carries every field
under its kernel name, buffers whole.
-/

set_option autoImplicit false

namespace SyscallTrace.Event

open SyscallTrace.Schema SyscallTrace.Descriptor SyscallTrace.Bytes

/-- The three views of one syscall's schema. -/
structure SyscallLayout where
  decoder : Syscall DecoderType
  kernel : Syscall RecordType
  wire : Syscall WireType
  deriving DecidableEq, Repr

/-- The layouts of an aligned schema set, index by index. -/
def layoutsOf (s : SchemaSet) : List SyscallLayout :=
  (s.decoder.zip (s.kernel.zip s.wire)).map fun (d, k, w) => ⟨d, k, w⟩

/-- A field as read from a record. -/
inductive FieldValue where
  | buffer (bytes : List UInt8)
  | s32 (v : Int32)
  | u32 (v : UInt32)
  | s64 (v : Int64)
  | u64 (v : UInt64)
  deriving DecidableEq, Repr

namespace FieldValue

/-- Reads a field of record type `ty` off the front of a payload. -/
def read (ty : RecordType) (payload : List UInt8) : FieldValue × List UInt8 :=
  match ty with
  | .char => let (b, rest) := takeBuffer payload; (.buffer b, rest)
  | .s32 => let (v, rest) := takeI32 payload; (.s32 v, rest)
  | .u32 => let (v, rest) := takeU32 payload; (.u32 v, rest)
  | .s64 => let (v, rest) := takeI64 payload; (.s64 v, rest)
  | .u64 => let (v, rest) := takeU64 payload; (.u64 v, rest)

/-- The number a field holds; a buffer holds none. -/
def toInt : FieldValue → Int
  | .buffer _ => 0
  | .s32 v => v.toInt
  | .u32 v => v.toNat
  | .s64 v => v.toInt
  | .u64 v => v.toNat

/-- The low 32 bits of a number field, as descriptors and processes are keyed. -/
def word32 (v : FieldValue) : UInt32 :=
  UInt32.ofNat (v.toInt % 4294967296).toNat

end FieldValue

/-- Reads fields of the given record types in order. -/
def readValues : List RecordType → List UInt8 → List FieldValue
  | [], _ => []
  | ty :: tys, payload =>
    let (v, rest) := FieldValue.read ty payload
    v :: readValues tys rest

/-- A decoded field: its parameter, its value, and for a descriptor its resolved path. -/
structure DecodedField where
  param : Param DecoderType
  value : FieldValue
  path : Option String
  deriving DecidableEq, Repr

/-- A decoded syscall event. -/
structure SyscallEvent where
  layout : SyscallLayout
  fields : List DecodedField
  deriving DecidableEq, Repr

namespace SyscallEvent

/-- The event name. -/
def name (e : SyscallEvent) : String := e.layout.decoder.rawName

/-- The plain text of a field. -/
def shown (e : SyscallEvent) (ret : Int64) (f : DecodedField) : String :=
  match f.value with
  | .buffer b =>
    match e.layout.decoder.bufferPolicy with
    | .nulTerminated => Text.Utf8.decodeLossy (cString b)
    | .returnBounded => Text.Utf8.decodeLossy (retBounded b ret)
  | v => toString v.toInt

/-- The text of a field as `args` and `render` show it. -/
def argText (e : SyscallEvent) (ret : Int64) (f : DecodedField) : String :=
  match f.value, f.path with
  | .buffer _, _ => Text.quote (e.shown ret f)
  | _, some path => e.shown ret f ++ "<" ++ path ++ ">"
  | _, none => e.shown ret f

/-- The event as one line of text. -/
def render (e : SyscallEvent) (ret : Int64) : String :=
  String.join (e.fields.map fun f => f.param.name ++ " " ++ e.argText ret f ++ " ")

/-- Every argument with its kernel name. -/
def args (e : SyscallEvent) (ret : Int64) : List (String × String) :=
  e.fields.map fun f => (f.param.rawName, e.argText ret f)

/-- Argument `n` as plain text. -/
def arg (e : SyscallEvent) (n : Nat) (ret : Int64) : Except ArgError String :=
  match e.fields[n]? with
  | some f => .ok (e.shown ret f)
  | none => .error (.outOfRange e.name n)

/-- The event message of the metric. -/
def metricEvent (e : SyscallEvent) : MetricEvent :=
  ⟨e.layout.decoder.name, e.fields.map fun f => (f.param.rawName, match f.value with
    | .buffer b => .bytes b
    | v => .number v.toInt)⟩

end SyscallEvent

namespace SyscallLayout

/-- Bytes of payload the event needs. -/
def payloadSize (l : SyscallLayout) : Nat :=
  Codegen.payloadSize l.kernel

/-- Reads the fields of the event off its payload, after checking its size. -/
def readPayload (l : SyscallLayout) (payload : List UInt8) :
    Except DecodeError (List FieldValue) :=
  match ensurePayload l.decoder.rawName payload l.payloadSize with
  | .error e => .error e
  | .ok () => .ok (readValues (l.kernel.params.map (·.ty)) payload)

/-- What decoding the event asks of the context: the path of each descriptor field in order,
then, for `close`, to forget the closed descriptor. -/
def requests (l : SyscallLayout) (pid : UInt32) (values : List FieldValue) : List Request :=
  let fields := l.decoder.params.zip values
  (fields.filter (·.1.needsPath)).map (fun (_, v) => Request.resolve pid v.word32) ++
    (if l.decoder.rawName = "close" then
      ((fields.find? (·.1.rawName = "fd")).map fun (_, v) => Request.forget pid v.word32).toList
    else [])

/-- The decoded fields, descriptor fields taking the answers in order. -/
def withPaths : List (Param DecoderType) → List FieldValue → List String → List DecodedField
  | p :: ps, v :: vs, answers =>
    if p.needsPath then
      ⟨p, v, some (answers.headD "")⟩ :: withPaths ps vs answers.tail
    else ⟨p, v, none⟩ :: withPaths ps vs answers
  | _, _, _ => []

/-- The event, once the context has answered its requests. -/
def complete (l : SyscallLayout) (values : List FieldValue) (answers : List String) :
    SyscallEvent :=
  ⟨l, withPaths l.decoder.params values answers⟩

end SyscallLayout

end SyscallTrace.Event
