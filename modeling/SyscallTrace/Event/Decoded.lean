import SyscallTrace.Event.Syscall
import SyscallTrace.Event.Connection
import SyscallTrace.Event.File
import SyscallTrace.Report.Line
import SyscallTrace.Schema.Snapshot

/-!
# Decoded events

A buffer written by the probe is the common header followed by the payload of the event the
header names; bytes after the payload are ignored. The name picks the decoder: first the
syscalls of the bundled snapshot, then descriptor installs, then the IPv4 and the IPv6
connection events; any other name is an event with nothing to decode.

Decoding is split in two. `parse` reads the buffer and says what the event needs from the
descriptor context (`Draft.requests`); once those requests are answered in order,
`Draft.complete` builds the event. So the same parse serves a context that answers directly
and one that is changed while a file is looked at.

Everything one can ask a decoded event is gathered once in `DecodeReport`: its one-line
rendering, its named arguments, each argument asked by index (every index up to one past the
last, then any further indices of interest), its metric, and the traced-call line in both
styles.

## Results

* `parse_short`: a buffer shorter than the header fails with its length.
* `parse_toBytes_append`: after a written header, the payload is parsed for the name the
  header carries.
-/

set_option autoImplicit false

namespace SyscallTrace.Event

open SyscallTrace.Schema SyscallTrace.Descriptor

/-- What follows the header of an event, decoded by the decoder its name picks. -/
inductive Body where
  | syscall (e : SyscallEvent)
  | file (e : FileEvent)
  | connectV4 (e : ConnectV4)
  | connectV6 (e : ConnectV6)
  /-- An event with no decoder. -/
  | other
  deriving DecidableEq, Repr

/-- The name events with no decoder go by. -/
def otherName : String := "default"

namespace Body

/-- The event as one line of text. -/
def render (e : Body) (ret : Int64) : String :=
  match e with
  | .syscall s => s.render ret
  | .file f => f.render
  | .connectV4 c => c.render
  | .connectV6 c => c.render
  | .other => ""

/-- Every argument with its name. -/
def args (e : Body) (ret : Int64) : List (String × String) :=
  match e with
  | .syscall s => s.args ret
  | .file f => f.args
  | .connectV4 c => c.args
  | .connectV6 c => c.args
  | .other => []

/-- Argument `n` as text. -/
def arg (e : Body) (n : Nat) (ret : Int64) : Except ArgError String :=
  match e with
  | .syscall s => s.arg n ret
  | .file _ => .error (.unsupported fdInstallName)
  | .connectV4 c => nthArg c.kind c.args n
  | .connectV6 c => nthArg c.kind c.args n
  | .other => .error (.unsupported otherName)

/-- The event message of the metric, for events that have one. -/
def metricEvent : Body → Option MetricEvent
  | .syscall s => some s.metricEvent
  | .connectV4 c => some c.metricEvent
  | .connectV6 c => some c.metricEvent
  | _ => none

end Body

/-- A decoded buffer: its header and its event. -/
structure DecodedEvent where
  header : Header
  event : Body
  deriving DecidableEq, Repr

namespace DecodedEvent

/-- The event as one line of text, bounded by the header's return value. -/
def render (d : DecodedEvent) : String := d.event.render d.header.ret

/-- Every argument with its name. -/
def args (d : DecodedEvent) : List (String × String) := d.event.args d.header.ret

/-- Argument `n` as text. -/
def arg (d : DecodedEvent) (n : Nat) : Except ArgError String := d.event.arg n d.header.ret

/-- The metric of the event, counted once with its header. -/
def metric (d : DecodedEvent) : Option Metric :=
  d.event.metricEvent.map fun m => ⟨1, some d.header.message, some m⟩

/-- The event as a traced call, its arguments written `name: value`. -/
def call (d : DecodedEvent) : Report.Call :=
  ⟨d.header.pid32, d.header.name, d.args.map (fun (n, v) => Text.Utf8.encode (n ++ ": " ++ v)),
    d.header.ret, []⟩

end DecodedEvent

/-- The syscall layouts a gathering yields: none when it fails. -/
def gatheredLayouts : Except GatherError SchemaSet → List SyscallLayout
  | .ok s => layoutsOf s
  | .error _ => []

/-- The syscall layouts the decoder knows: those of the bundled snapshot. -/
def bundledLayouts : List SyscallLayout :=
  gatheredLayouts (gather snapshotDir)

/-- An event read from its buffer, waiting for the context's answers. -/
inductive Draft where
  | syscall (layout : SyscallLayout) (values : List FieldValue)
  | file (fd ino major minor : UInt64)
  | ready (e : Body)
  deriving DecidableEq, Repr

namespace Draft

/-- What the event asks of the context, in order. -/
def requests (pid : UInt32) : Draft → List Request
  | .syscall layout values => layout.requests pid values
  | .file fd ino major minor => [.install pid fd.toUInt32 ⟨ino, major, minor⟩]
  | .ready _ => []

/-- The event, given the answers to its requests. -/
def complete (answers : List String) : Draft → Body
  | .syscall layout values => .syscall (layout.complete values answers)
  | .file fd ino major minor => .file ⟨fd, ino, major, minor, answers.headD ""⟩
  | .ready e => e

end Draft

/-- The decoder a header name picks. -/
inductive Route where
  | syscall (layout : SyscallLayout)
  | file
  /-- An IPv4 connection event of this kind. -/
  | connectV4 (kind : String)
  /-- An IPv6 connection event of this kind. -/
  | connectV6 (kind : String)
  /-- A name with no decoder. -/
  | other
  deriving DecidableEq, Repr

/-- The decoder `name` picks: first the syscalls of `layouts`, then descriptor installs, then
the IPv4 and the IPv6 connection events. -/
def route (layouts : List SyscallLayout) (name : String) : Route :=
  match layouts.find? (·.decoder.rawName = name) with
  | some layout => .syscall layout
  | none =>
    if name = fdInstallName then .file
    else if name ∈ v4Kinds then .connectV4 name
    else if name ∈ v6Kinds then .connectV6 name
    else .other

/-- Reads the payload of the event `name` names. -/
def parsePayload (layouts : List SyscallLayout) (name : String) (payload : List UInt8) :
    Except DecodeError Draft :=
  match route layouts name with
  | .syscall layout => (layout.readPayload payload).map (.syscall layout)
  | .file => (readFilePayload payload).map fun (fd, ino, major, minor) => .file fd ino major minor
  | .connectV4 kind => (ConnectV4.decode kind payload).map fun c => .ready (.connectV4 c)
  | .connectV6 kind => (ConnectV6.decode kind payload).map fun c => .ready (.connectV6 c)
  | .other => .ok (.ready .other)

/-- Reads a buffer: its header, and the event waiting for the context. -/
def parse (buf : List UInt8) : Except DecodeError (Header × Draft) :=
  match Header.decode buf with
  | .error e => .error e
  | .ok (h, payload) => (parsePayload bundledLayouts h.name payload).map (h, ·)

theorem parse_short (buf : List UInt8) (h : buf.length < headerSize) :
    parse buf = .error (.truncatedHeader buf.length) := by
  simp [parse, Header.decode, h]

theorem parse_toBytes_append (e : CommonEvent) (payload : List UInt8) :
    parse (e.toBytes ++ payload) =
      let h : Header :=
        ⟨e.timestamp, e.pid, e.ret, Text.Utf8.decodeLossy (cString (padTo nameFieldSize e.nameField))⟩
      (parsePayload bundledLayouts h.name payload).map (h, ·) := by
  rw [parse, Header.decode_toBytes_append]

/-- Decodes a buffer against a context that nothing changes meanwhile. -/
def decodeBuffer (ctx : Context) (buf : List UInt8) : Except DecodeError DecodedEvent × Context :=
  match parse buf with
  | .error e => (.error e, ctx)
  | .ok (h, draft) =>
    let (answers, ctx) := ctx.serveAll (draft.requests h.pid32)
    (.ok ⟨h, draft.complete answers⟩, ctx)

/-- What a decoded event shows. -/
structure DecodeReport where
  decoded : DecodedEvent
  render : String
  args : List (String × String)
  argResults : List (Nat × Except ArgError String)
  metric : Option Metric
  lineOne : List UInt8
  lineMulti : List UInt8

/-- The report of a decoded event, asking also for the arguments at `extra`. -/
def DecodeReport.of (d : DecodedEvent) (extra : List Nat) : DecodeReport :=
  let args := d.args
  let indices := List.range (args.length + 1) ++ extra
  { decoded := d, render := d.render, args,
    argResults := indices.map fun n => (n, d.arg n),
    metric := d.metric,
    lineOne := Report.callText .oneLine d.call,
    lineMulti := Report.callText .multiLine d.call }

end SyscallTrace.Event
