import Mathlib
import SyscallTrace.Proofs.DecodedEvents

/-!
# The metric of a decoded event

A decoded event is shipped as a metric: an envelope that counts it once, carries its header as
the common message with the aggregation keys `hash` and `flags` at zero, and holds one event
message. The messages of syscalls are filled field by field from the decoder view of their
layout, those of connections by hand; this module says once what each kind's message holds
(`Route.metricSlot`) and shows that every decoded event's metric carries it.

A message holds the values the payload spells and nothing the table or the return value adds:
a buffer is all its bytes, including those after its first NUL, a number is unchanged, an
IPv4 address is its word and an IPv6 address its text. So the metric of a buffer is the same
against every table.

## Results

* `SyscallEvent.metricEvent_eq`: a syscall's message is each field under its kernel name.
* `Body.metricEvent_eq_none_iff`: only descriptor installs and events with no decoder have no
  message.
* `Route.metricEvent_decoded`: the message of every decoded event is `Route.metricSlot` of its
  values.
* `decoded_metric`: the metric of every decoded buffer.
-/

set_option autoImplicit false

namespace SyscallTrace.Event

open SyscallTrace.Bytes SyscallTrace.Schema SyscallTrace.Descriptor

/-! ## What a message holds -/

/-- A record field in a wire message: a buffer as all its bytes, a number unchanged. -/
def FieldValue.wire : FieldValue → WireValue
  | .buffer b => .bytes b
  | v => .number v.toInt

/-- The fields of a message named as `ps` are, holding the values `vs`, the fields named by the
names of `ps`. -/
theorem map_zip_wire {τ : Type} (ps : List (Param τ)) (vs : List FieldValue) :
    (ps.zip vs).map (fun pv => (pv.1.rawName, pv.2.wire)) =
      ((ps.map (·.rawName)).zip vs).map fun nv => (nv.1, nv.2.wire) := by
  rw [List.zip_map_left, List.map_map]
  rfl

/-- The event message a metric holds for an event decoded by `r` from the values `v`: for a
syscall, the message named after it in camel case, each field of its wire view holding the
value at the same place in the record; for a connection its two addresses (an IPv4 address as
its word, an IPv6 address as its text), its ports widened and its network namespace; for a
descriptor install or an event with no decoder, none. -/
def Route.metricSlot : (r : Route) → r.Values → Option MetricEvent
  | .syscall l, vs => some ⟨camelCase l.kernel.rawName ++ "Event",
      (l.wire.params.zip vs.1).map fun pv => (pv.1.rawName, pv.2.wire)⟩
  | .file, _ => none
  | .connectV4 _, (saddr, daddr, sport, dport, netns) => some ⟨"ConnectV4Event",
      [("saddr", .number saddr.toNat), ("daddr", .number daddr.toNat),
        ("sport", .number sport.toNat), ("dport", .number dport.toNat),
        ("netns", .number netns.toNat)]⟩
  | .connectV6 _, (saddr, daddr, sport, dport, netns) => some ⟨"ConnectV6Event",
      [("saddr", .text (Net.ipv6Text saddr.1)), ("daddr", .text (Net.ipv6Text daddr.1)),
        ("sport", .number sport.toNat), ("dport", .number dport.toNat),
        ("netns", .number netns.toNat)]⟩
  | .other, _ => none

/-! ## The message of each kind of event -/

/-- A syscall's message is named by its decoder and holds each field under its kernel name. -/
theorem SyscallEvent.metricEvent_eq (s : SyscallEvent) :
    s.metricEvent = ⟨s.layout.decoder.name, s.fields.map fun f => (f.param.rawName, f.value.wire)⟩ := by
  rw [SyscallEvent.metricEvent]
  refine congrArg (MetricEvent.mk _) (List.map_congr_left fun f _ => ?_)
  obtain ⟨p, v, path⟩ := f
  cases v <;> rfl

/-- Only descriptor installs and events with no decoder have no message. -/
theorem Body.metricEvent_eq_none_iff (e : Body) :
    e.metricEvent = none ↔ (∃ f, e = .file f) ∨ e = .other := by
  cases e with
  | syscall s => simp [Body.metricEvent]
  | file f => simp [Body.metricEvent]
  | connectV4 c => simp [Body.metricEvent]
  | connectV6 c => simp [Body.metricEvent]
  | other => simp [Body.metricEvent]

/-- A syscall decoded by a compiled layout holds, in its message, the values it was decoded from
under the names of its wire view, whatever the table answered. -/
theorem metricEvent_decoded_syscall {l : SyscallLayout} (hl : l.Compiled) (ctx : Context)
    (pid : UInt32) (vs : List FieldValue) :
    (SyscallEvent.mk l (l.resolvedFields ctx pid vs)).metricEvent =
      ⟨camelCase l.kernel.rawName ++ "Event",
        (l.wire.params.zip vs).map fun pv => (pv.1.rawName, pv.2.wire)⟩ := by
  have hfields : (l.resolvedFields ctx pid vs).map (fun f => (f.param.rawName, f.value.wire)) =
      (l.decoder.params.zip vs).map fun pv => (pv.1.rawName, pv.2.wire) := by
    rw [SyscallLayout.resolvedFields, List.map_map]
    rfl
  rw [SyscallEvent.metricEvent_eq]
  dsimp only
  rw [hfields, hl.name_eq, map_zip_wire, map_zip_wire, hl.wire_rawNames]

/-- Every event a decoder makes from compiled layouts holds the message `Route.metricSlot` gives
for its values, against every table. -/
theorem Route.metricEvent_decoded {layouts : List SyscallLayout} {name : String}
    (hl : ∀ l ∈ layouts, l.Compiled) (ctx : Context) (pid : UInt32)
    (v : (route layouts name).Values) :
    ((route layouts name).decoded ctx pid v).1.metricEvent = (route layouts name).metricSlot v := by
  revert v
  cases hr : route layouts name with
  | syscall l =>
    rintro ⟨vs, hvs⟩
    exact congrArg some (metricEvent_decoded_syscall (hl l (route_eq_syscall hr).1) ctx pid vs)
  | file =>
    rintro ⟨fd, ino, major, minor⟩
    rfl
  | connectV4 kind =>
    rintro ⟨saddr, daddr, sport, dport, netns⟩
    rfl
  | connectV6 kind =>
    rintro ⟨saddr, daddr, sport, dport, netns⟩
    rfl
  | other =>
    rintro ⟨⟩
    rfl

/-! ## The metric of a decoded buffer -/

/-- The metric of an event decoded by compiled layouts counts it once, carries its header with
the aggregation keys zero, and holds `Route.metricSlot` of its values. -/
theorem Route.metric_decoded {layouts : List SyscallLayout} {name : String}
    (hl : ∀ l ∈ layouts, l.Compiled) (ctx : Context) (pid : UInt32) (hdr : Header)
    (v : (route layouts name).Values) :
    DecodedEvent.metric ⟨hdr, ((route layouts name).decoded ctx pid v).1⟩ =
      ((route layouts name).metricSlot v).map
        fun m => ⟨1, some ⟨hdr.timestamp, hdr.pid, hdr.ret, hdr.name, 0, 0⟩, some m⟩ := by
  rw [DecodedEvent.metric, Route.metricEvent_decoded hl]
  rfl

/-- **The metric of a decoded buffer.** For every buffer that decodes to the header `hdr` and
the event `e`: the header is read off the buffer, and the payload starts with the written form
of some values; the metric counts the event once, carries the header's timestamp, process id,
return value and name with `hash` and `flags` zero, and holds `Route.metricSlot` of those
values, so no return value and no path enters it; there is no metric exactly for a descriptor
install or an event with no decoder; and against any other table the buffer decodes to the
same header and an event with the same metric. -/
theorem decoded_metric {ctx : Context} {buf : List UInt8} {hdr : Header} {e : Body}
    (h : (decodeBuffer ctx buf).1 = .ok ⟨hdr, e⟩) :
    Header.decode buf = .ok (hdr, buf.drop headerSize) ∧
      ∃ v : (route bundledLayouts hdr.name).Values,
        (route bundledLayouts hdr.name).encode v =
            (buf.drop headerSize).take (route bundledLayouts hdr.name).payloadSize ∧
          DecodedEvent.metric ⟨hdr, e⟩ = ((route bundledLayouts hdr.name).metricSlot v).map
            (fun m => ⟨1, some ⟨hdr.timestamp, hdr.pid, hdr.ret, hdr.name, 0, 0⟩, some m⟩) ∧
          (DecodedEvent.metric ⟨hdr, e⟩ = none ↔ (∃ f, e = .file f) ∨ e = .other) ∧
          ∀ ctx' : Context, ∃ e' : Body, (decodeBuffer ctx' buf).1 = .ok ⟨hdr, e'⟩ ∧
            DecodedEvent.metric ⟨hdr, e'⟩ = DecodedEvent.metric ⟨hdr, e⟩ := by
  obtain ⟨hhdr, v, henc, hev, hother⟩ := decodeBuffer_fst_eq_ok h
  have hev' : e = ((route bundledLayouts hdr.name).decoded ctx hdr.pid32 v).1 := hev
  have hother' : ∀ ctx' : Context, (decodeBuffer ctx' buf).1 =
      .ok ⟨hdr, ((route bundledLayouts hdr.name).decoded ctx' hdr.pid32 v).1⟩ := hother
  have hmetric := fun ctx' : Context =>
    Route.metric_decoded (fun _ => compiled_of_mem_bundledLayouts) ctx' hdr.pid32 hdr v
  refine ⟨hhdr, v, henc, ?_, ?_, fun ctx' => ⟨_, hother' ctx', ?_⟩⟩
  · rw [hev']
    exact hmetric ctx
  · rw [DecodedEvent.metric, Option.map_eq_none_iff, Body.metricEvent_eq_none_iff]
  · rw [hev', hmetric ctx', hmetric ctx]

/-- The metric of `webConnect`, decoded from the buffer the probe writes for it. -/
theorem decoded_metric_web_connect :
    (decodeBuffer (Context.withProc .empty) webConnectBuffer).1 =
        .ok ⟨⟨1000, 42, 0, "connect_v4"⟩, .connectV4 webConnect⟩ ∧
      Header.decode webConnectBuffer =
        .ok (⟨1000, 42, 0, "connect_v4"⟩, webConnectBuffer.drop headerSize) ∧
      ∃ v : (route bundledLayouts "connect_v4").Values,
        (route bundledLayouts "connect_v4").encode v =
            (webConnectBuffer.drop headerSize).take (route bundledLayouts "connect_v4").payloadSize ∧
          DecodedEvent.metric ⟨⟨1000, 42, 0, "connect_v4"⟩, .connectV4 webConnect⟩ =
            ((route bundledLayouts "connect_v4").metricSlot v).map
              (fun m => ⟨1, some ⟨1000, 42, 0, "connect_v4", 0, 0⟩, some m⟩) ∧
          (DecodedEvent.metric ⟨⟨1000, 42, 0, "connect_v4"⟩, .connectV4 webConnect⟩ = none ↔
            (∃ f, Body.connectV4 webConnect = .file f) ∨ Body.connectV4 webConnect = .other) ∧
          ∀ ctx' : Context, ∃ e' : Body,
            (decodeBuffer ctx' webConnectBuffer).1 = .ok ⟨⟨1000, 42, 0, "connect_v4"⟩, e'⟩ ∧
              DecodedEvent.metric ⟨⟨1000, 42, 0, "connect_v4"⟩, e'⟩ =
                DecodedEvent.metric ⟨⟨1000, 42, 0, "connect_v4"⟩, .connectV4 webConnect⟩ :=
  ⟨decodeBuffer_webConnect _, decoded_metric (decodeBuffer_webConnect (Context.withProc .empty))⟩

example : DecodedEvent.metric ⟨⟨1000, 42, 0, "connect_v4"⟩, .connectV4 webConnect⟩ =
    some ⟨1, some ⟨1000, 42, 0, "connect_v4", 0, 0⟩, some ⟨"ConnectV4Event",
      [("saddr", .number 33554442), ("daddr", .number 584628317), ("sport", .number 40000),
        ("dport", .number 80), ("netns", .number 4026531840)]⟩⟩ := by
  decide +kernel

end SyscallTrace.Event
