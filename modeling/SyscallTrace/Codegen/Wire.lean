import SyscallTrace.Codegen.Messages
import SyscallTrace.Codegen.Source

/-!
# Generated wire sources

Two texts describe the wire messages: a `.proto` definition for collectors, and plain structs
of the same messages for the decoder. Both list the fixed messages, then one message per
syscall with its fields under their kernel names, then the `Metric` envelope.
-/

set_option autoImplicit false

namespace SyscallTrace.Codegen

open SyscallTrace.Schema

/-- The type of a wire field in the plain structs. -/
def wireTypeText : WireType → String
  | .bytes => "Vec<u8>"
  | .string => "String"
  | .int32 => "i32"
  | .uint32 => "u32"
  | .int64 => "i64"
  | .uint64 => "u64"

/-- The lines of `items`, each numbered from `first` on. -/
def numbered {α : Type} (first : Nat) (line : Nat → α → String) : List α → List String
  | [] => []
  | x :: xs => line first x :: numbered (first + 1) line xs

/-- One message of the `.proto` definition. -/
def protoMessageLines (name : String) (fields : List (String × WireType)) : List String :=
  ["", "message " ++ name ++ " \x7b"] ++
  numbered 1 (fun tag (f : String × WireType) =>
    "  " ++ f.2.protoName ++ " " ++ f.1 ++ " = " ++ toString tag ++ ";") fields ++
  ["\x7d"]

/-- The alternative of the `.proto` envelope that carries `e`, with its tag. -/
def oneofLine (tag : Nat) (e : EnvelopeEntry) : String :=
  "    " ++ e.message ++ " " ++ e.field ++ " = " ++ toString tag ++ ";"

/-- The lines of the `.proto` definition of a schema set. -/
def protoLines (s : SchemaSet) : List String :=
  banner ++ ["", "syntax = \"proto3\";", "", "package tracewell;"] ++
  (messageFields s).flatMap (fun m => protoMessageLines m.1 m.2) ++
  ["", "service MetricCollector \x7b", "  rpc Process (stream Metric) returns (Empty) \x7b\x7d",
    "\x7d", "", "message Empty \x7b\x7d", "", "message Metric \x7b", "  uint64 count = 1;",
    "  " ++ commonEventMessage.name ++ " common_event = 2;", "  oneof event \x7b"] ++
  numbered 3 oneofLine (envelope s.wire) ++
  ["  \x7d", "\x7d"]

/-- One message as a plain struct. -/
def structMessageLines (name : String) (fields : List (String × WireType)) : List String :=
  ["", "#[derive(Clone, Debug, Default, PartialEq, Eq)]", "pub struct " ++ name ++ " \x7b"] ++
  fields.map (fun f => fieldDeclLine (ident f.1) (wireTypeText f.2)) ++
  ["\x7d"]

/-- The variant of the plain `metric::Event` enum that carries `e`. -/
def variantLine (e : EnvelopeEntry) : String :=
  "        " ++ e.variant ++ "(" ++ e.message ++ "),"

/-- The lines of the plain wire structs of a schema set. -/
def wireLines (s : SchemaSet) : List String :=
  banner ++
  (messageFields s).flatMap (fun m => structMessageLines m.1 m.2) ++
  ["", "/// Envelope shipped to collectors, one per decoded event.",
    "#[derive(Clone, Debug, Default, PartialEq, Eq)]", "pub struct Metric \x7b",
    "    pub count: u64,",
    "    pub common_event: Option<" ++ commonEventMessage.name ++ ">,",
    "    pub event: Option<metric::Event>,", "\x7d", "", "pub mod metric \x7b",
    "    use super::*;", "", "    #[derive(Clone, Debug, PartialEq, Eq)]",
    "    pub enum Event \x7b"] ++
  (envelope s.wire).map variantLine ++
  ["    \x7d", "\x7d"]

/-- The `.proto` definition, or the first misalignment of the set. -/
def generateProto (s : SchemaSet) : Except Misalignment String :=
  match checkAligned s with
  | .error e => .error e
  | .ok () => .ok (render (protoLines s))

/-- The plain wire structs, or the first misalignment of the set. -/
def generateWire (s : SchemaSet) : Except Misalignment String :=
  match checkAligned s with
  | .error e => .error e
  | .ok () => .ok (render (wireLines s))

end SyscallTrace.Codegen
