import SyscallTrace.Codegen.Alignment

/-!
# Wire messages

Three messages exist whatever syscalls are traced: the common event header and the two
connection events. Every syscall adds one message, named by its wire view, whose fields are
its parameters. The `Metric` envelope carries one event of any kind: the two connection
events first, then the syscalls in schema order.
-/

set_option autoImplicit false

namespace SyscallTrace.Codegen

open SyscallTrace.Schema

/-- A message that exists regardless of the traced syscalls. -/
structure FixedMessage where
  name : String
  fields : List (String × WireType)
  /-- The envelope field that carries it, if it is one of the events. -/
  envelopeField : Option String

/-- The common header of every event. -/
def commonEventMessage : FixedMessage :=
  ⟨"ProtobufCommonEvent",
    [("timestamp", .uint64), ("pid", .int64), ("ret", .int64), ("name", .string),
     ("hash", .uint64), ("flags", .uint64)], none⟩

/-- An IPv4 connection. -/
def connectV4Message : FixedMessage :=
  ⟨"ProtobufConnectV4Event",
    [("saddr", .uint32), ("daddr", .uint32), ("sport", .uint32), ("dport", .uint32),
     ("netns", .uint32)], some "connect_v4_event"⟩

/-- An IPv6 connection; its addresses travel as text. -/
def connectV6Message : FixedMessage :=
  ⟨"ProtobufConnectV6Event",
    [("saddr", .string), ("daddr", .string), ("sport", .uint32), ("dport", .uint32),
     ("netns", .uint32)], some "connect_v6_event"⟩

/-- The fixed messages, in the order they are written. -/
def fixedMessages : List FixedMessage :=
  [commonEventMessage, connectV4Message, connectV6Message]

/-- One alternative of the envelope. -/
structure EnvelopeEntry where
  field : String
  variant : String
  message : String

/-- The envelope variant of a message: its name without the `Protobuf` prefix. -/
def variantName (name : String) : String :=
  if "Protobuf".isPrefixOf name then (name.drop "Protobuf".length).toString else name

/-- The alternatives of the envelope: the fixed events, then one per syscall. -/
def envelope (wire : List (Syscall WireType)) : List EnvelopeEntry :=
  (fixedMessages.filterMap fun m =>
    m.envelopeField.map fun f => ⟨f, variantName m.name, m.name⟩) ++
  wire.map fun s => ⟨s.rawName ++ "_event", s.camelName ++ "Event", s.name⟩

/-- The fields of every message, fixed ones first. -/
def messageFields (s : SchemaSet) : List (String × List (String × WireType)) :=
  fixedMessages.map (fun m => (m.name, m.fields)) ++
    s.wire.map fun w => (w.name, w.params.map fun p => (p.rawName, p.ty))

end SyscallTrace.Codegen
