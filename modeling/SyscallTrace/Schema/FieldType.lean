/-!
# Field types of a syscall record

A tracepoint describes each argument of a syscall by its C type, such as `const char *` or
`umode_t`. Three representations follow from it:

* the decoder type, the value user space keeps (`DecoderType`);
* the record type, the layout the probe writes into the kernel record (`RecordType`);
* the wire type, the field of the message sent to collectors (`WireType`).

String-like arguments are copied by value into a buffer of `bufferSize` bytes; pointers that
the probe does not follow are carried as plain 64-bit addresses.

The decoder and record tables are kept as two lists, each a lookup from a C type; the wire
table is a lookup from the decoder type. It has an entry for every decoder type, so the wire
type follows from the decoder type alone (`WireType.ofDecoder?_eq`).
-/

set_option autoImplicit false

namespace SyscallTrace.Schema

/-- Bytes of the by-value copy the probe makes of a string-like argument. -/
def bufferSize : Nat := 256

/-- A field as the decoder keeps it. -/
inductive DecoderType where
  /-- A byte buffer of `bufferSize` bytes. -/
  | buffer
  | i32
  | u32
  | i64
  | u64
  deriving DecidableEq, Repr

/-- A field as the probe writes it into the kernel record. -/
inductive RecordType where
  /-- `char[bufferSize]`. -/
  | char
  | s32
  | u32
  | s64
  | u64
  deriving DecidableEq, Repr

/-- A field of a message sent to collectors. -/
inductive WireType where
  | bytes
  | string
  | int32
  | uint32
  | int64
  | uint64
  deriving DecidableEq, Repr

namespace DecoderType

/-- The name of the type in schemas and messages. -/
def name : DecoderType → String
  | .buffer => "Buffer"
  | .i32 => "I32"
  | .u32 => "U32"
  | .i64 => "I64"
  | .u64 => "U64"

/-- Bytes the field takes in a captured buffer. -/
def size : DecoderType → Nat
  | .buffer => bufferSize
  | .i32 | .u32 => 4
  | .i64 | .u64 => 8

def isSigned : DecoderType → Bool
  | .i32 | .i64 => true
  | _ => false

def isBuffer : DecoderType → Bool
  | .buffer => true
  | _ => false

/-- Every decoder type, in declaration order. -/
def all : List DecoderType := [.buffer, .i32, .u32, .i64, .u64]

/-- The decoder type of a name given by `name`. -/
def ofName? (s : String) : Option DecoderType :=
  all.find? (·.name == s)

end DecoderType

namespace RecordType

/-- The name of the type in schemas and messages. -/
def name : RecordType → String
  | .char => "Char"
  | .s32 => "S32"
  | .u32 => "U32"
  | .s64 => "S64"
  | .u64 => "U64"

/-- Bytes the field takes in the kernel record. -/
def size : RecordType → Nat
  | .char => bufferSize
  | .s32 | .u32 => 4
  | .s64 | .u64 => 8

def isSigned : RecordType → Bool
  | .s32 | .s64 => true
  | _ => false

def isBuffer : RecordType → Bool
  | .char => true
  | _ => false

/-- Every record type, in declaration order. -/
def all : List RecordType := [.char, .s32, .u32, .s64, .u64]

/-- The record type of a name given by `name`. -/
def ofName? (s : String) : Option RecordType :=
  all.find? (·.name == s)

end RecordType

namespace WireType

/-- The name of the type in schemas and messages. -/
def name : WireType → String
  | .bytes => "Bytes"
  | .string => "String"
  | .int32 => "Int32"
  | .uint32 => "Uint32"
  | .int64 => "Int64"
  | .uint64 => "Uint64"

/-- The most bytes a value carries; `none` for the variable-length types. -/
def size? : WireType → Option Nat
  | .bytes | .string => none
  | .int32 | .uint32 => some 4
  | .int64 | .uint64 => some 8

def isSigned : WireType → Bool
  | .int32 | .int64 => true
  | _ => false

/-- The name of the type in a `.proto` definition. -/
def protoName : WireType → String
  | .bytes => "bytes"
  | .string => "string"
  | .int32 => "int32"
  | .uint32 => "uint32"
  | .int64 => "int64"
  | .uint64 => "uint64"

/-- Every wire type, in declaration order. -/
def all : List WireType := [.bytes, .string, .int32, .uint32, .int64, .uint64]

/-- The wire type of a name given by `name`. -/
def ofName? (s : String) : Option WireType :=
  all.find? (·.name == s)

/-- The wire type that carries a decoder type, as the wire table gives it. -/
def ofDecoder : DecoderType → WireType
  | .buffer => .bytes
  | .i32 => .int32
  | .u32 => .uint32
  | .i64 => .int64
  | .u64 => .uint64

end WireType

/-- The decoder type of each C type the probe knows. -/
def decoderTable : List (String × DecoderType) :=
  [("char *", .buffer), ("const char *", .buffer), ("unsigned char *", .buffer),
   ("int", .i64), ("long", .i64), ("pid_t", .i64), ("off_t", .i64), ("loff_t", .i64),
   ("key_t", .i64), ("mqd_t", .i64), ("timer_t", .i64), ("size_t", .i64),
   ("unsigned int", .u64), ("unsigned", .u64), ("unsigned long", .u64), ("umode_t", .u64),
   ("u64", .u64), ("__u64", .u64), ("aio_context_t", .u64),
   ("uid_t", .u32), ("gid_t", .u32), ("qid_t", .u32), ("u32", .u32),
   ("const clockid_t", .u32),
   ("__s32", .i32), ("key_serial_t", .i32),
   ("int *", .u64), ("const int *", .u64), ("size_t *", .u64), ("loff_t *", .u64),
   ("unsigned *", .u64), ("unsigned int *", .u64), ("unsigned long *", .u64),
   ("const unsigned long *", .u64), ("u32 *", .u64), ("uid_t *", .u64), ("gid_t *", .u64),
   ("timer_t *", .u64), ("time_t *", .u64), ("aio_context_t *", .u64), ("void *", .u64),
   ("const void *", .u64)]

/-- The record type of each C type the probe knows. -/
def recordTable : List (String × RecordType) :=
  [("char *", .char), ("const char *", .char), ("unsigned char *", .char),
   ("int", .s64), ("long", .s64), ("pid_t", .s64), ("off_t", .s64), ("loff_t", .s64),
   ("key_t", .s64), ("mqd_t", .s64), ("timer_t", .s64), ("size_t", .s64),
   ("unsigned int", .u64), ("unsigned", .u64), ("unsigned long", .u64), ("umode_t", .u64),
   ("u64", .u64), ("__u64", .u64), ("aio_context_t", .u64),
   ("uid_t", .u32), ("gid_t", .u32), ("qid_t", .u32), ("u32", .u32),
   ("const clockid_t", .u32),
   ("__s32", .s32), ("key_serial_t", .s32),
   ("int *", .u64), ("const int *", .u64), ("size_t *", .u64), ("loff_t *", .u64),
   ("unsigned *", .u64), ("unsigned int *", .u64), ("unsigned long *", .u64),
   ("const unsigned long *", .u64), ("u32 *", .u64), ("uid_t *", .u64), ("gid_t *", .u64),
   ("timer_t *", .u64), ("time_t *", .u64), ("aio_context_t *", .u64), ("void *", .u64),
   ("const void *", .u64)]

/-- The first entry of a table for a C type. -/
def lookupType {α : Type} (table : List (String × α)) (cType : String) : Option α :=
  (table.find? (·.1 == cType)).map (·.2)

/-- The decoder type of a C type, if the decoder table has it. -/
def DecoderType.ofKernel? (cType : String) : Option DecoderType :=
  lookupType decoderTable cType

/-- The record type of a C type, if the record table has it. -/
def RecordType.ofKernel? (cType : String) : Option RecordType :=
  lookupType recordTable cType

/-- The wire type of each decoder type. -/
def wireTable : List (DecoderType × WireType) :=
  [(.buffer, .bytes), (.i32, .int32), (.u32, .uint32), (.i64, .int64), (.u64, .uint64)]

/-- The wire type of a decoder type, if the wire table has it. -/
def WireType.ofDecoder? (d : DecoderType) : Option WireType :=
  (wireTable.find? (·.1 == d)).map (·.2)

/-- The wire table has every decoder type, each with the wire type that carries it. -/
theorem WireType.ofDecoder?_eq (d : DecoderType) : WireType.ofDecoder? d = some (WireType.ofDecoder d) := by
  cases d <;> rfl

end SyscallTrace.Schema
