import Mathlib
import SyscallTrace.Proofs.EventEncoding
import SyscallTrace.Proofs.Routing
import SyscallTrace.Proofs.DecoderScope

/-!
# What a decoded event holds

`Proofs.EventEncoding` writes each kind of event and shows that decoding reads back what was
written. This module shows the converse: a payload that a decoder accepts starts with the
written form of the values it decodes to. A word is the number its bytes spell little endian,
and those bytes are the word written back; a buffer is its 256 bytes. So every decoded event is
`Route.decoded` of values whose written form is the front of its payload.

The layouts the decoder knows are compiled from formats, so the decoder and record views of a
syscall list the same fields, each decoder field named in camel case from its kernel name, and
the buffers of exactly `read` and `write` are bounded by the return value (`Compiled`).

## Results

* `Bytes.encode_decode`: bytes read as a little-endian number and written back are the same.
* `FieldValue.read_fits`, `readValues_fits`: what a record reader reads is written back as the
  bytes it read.
* `parsePayload_eq_ok_iff`: a decoder accepts a payload exactly when it starts with the written
  form of some values, and then gives their event.
* `decodeBuffer_fst_eq_ok`: a decoded buffer is its header, and an event of the decoder its name
  picks, made from values written at the front of its payload; `decodeBuffer_fst_encode` is the
  way back.
* `decodeBuffer_encode`: a written event decodes to its header, its fields and its paths.
* `decodeBuffer_webConnect`: an IPv4 connection as the probe writes it decodes.
* `compiled_of_mem_bundledLayouts`: every layout the decoder knows is compiled.
-/

set_option autoImplicit false

namespace SyscallTrace.Bytes

/-! ## Words read and written back -/

/-- Bytes read as a little-endian number are that number's bytes. -/
theorem encode_decode (bs : List UInt8) : encode bs.length (decode bs) = bs := by
  induction bs with
  | nil => rfl
  | cons b bs ih =>
    have hb := b.toNat_lt
    have hlow : (b.toNat + 256 * decode bs) % 256 = b.toNat := by omega
    have hhigh : (b.toNat + 256 * decode bs) / 256 = decode bs := by omega
    rw [List.length_cons, decode, encode, hlow, hhigh, ih]
    congr 1
    exact UInt8.toNat_inj.1 (by rw [Nat.toUInt8_eq, UInt8.toNat_ofNat', Nat.mod_eq_of_lt hb])

/-- A word read off the front of at least `w` bytes is written back as those `w` bytes. -/
theorem encode_takeWord {w : Nat} {bs : List UInt8} (h : w ≤ bs.length) :
    encode w (takeWord w bs).1 = bs.take w := by
  have hlen : (bs.take w).length = w := List.length_take_of_le h
  have he := encode_decode (bs.take w)
  rw [hlen] at he
  exact he

/-- Writing a word depends only on its value modulo `Nat.pow 256 w`. -/
theorem encode_mod (w n : Nat) : encode w (n % Nat.pow 256 w) = encode w n := by
  induction w generalizing n with
  | zero => rfl
  | succ w ih =>
    have hp : Nat.pow 256 (w + 1) = 256 * Nat.pow 256 w := Nat.mul_comm (Nat.pow 256 w) 256
    have hlow : n % (256 * Nat.pow 256 w) % 256 = n % 256 := Nat.mod_mul_right_mod n 256 _
    have hhigh : n % (256 * Nat.pow 256 w) / 256 = n / 256 % Nat.pow 256 w :=
      Nat.mod_mul_right_div_self n 256 _
    rw [encode, encode, hp, hlow, hhigh, ih]

theorem u16_takeU16 {bs : List UInt8} (h : 2 ≤ bs.length) : u16 (takeU16 bs).1 = bs.take 2 := by
  show encode 2 (takeWord 2 bs).1.toUInt16.toNat = _
  rw [Nat.toUInt16_eq, UInt16.toNat_ofNat']
  exact (encode_mod 2 _).trans (encode_takeWord h)

theorem u32_takeU32 {bs : List UInt8} (h : 4 ≤ bs.length) : u32 (takeU32 bs).1 = bs.take 4 := by
  show encode 4 (takeWord 4 bs).1.toUInt32.toNat = _
  rw [Nat.toUInt32_eq, UInt32.toNat_ofNat']
  exact (encode_mod 4 _).trans (encode_takeWord h)

theorem u64_takeU64 {bs : List UInt8} (h : 8 ≤ bs.length) : u64 (takeU64 bs).1 = bs.take 8 := by
  show encode 8 (takeWord 8 bs).1.toUInt64.toNat = _
  rw [Nat.toUInt64_eq, UInt64.toNat_ofNat']
  exact (encode_mod 8 _).trans (encode_takeWord h)

theorem i32_takeI32 {bs : List UInt8} (h : 4 ≤ bs.length) : i32 (takeI32 bs).1 = bs.take 4 := by
  show u32 (takeU32 bs).1.toInt32.toUInt32 = _
  rw [UInt32.toUInt32_toInt32]
  exact u32_takeU32 h

theorem i64_takeI64 {bs : List UInt8} (h : 8 ≤ bs.length) : i64 (takeI64 bs).1 = bs.take 8 := by
  show u64 (takeU64 bs).1.toInt64.toUInt64 = _
  rw [UInt64.toUInt64_toInt64]
  exact u64_takeU64 h

end SyscallTrace.Bytes

namespace SyscallTrace.Event

open SyscallTrace.Bytes SyscallTrace.Schema SyscallTrace.Descriptor

/-! ## Fields read and written back -/

/-- A field read off at least its width of bytes fits its type and is written back as the bytes
it was read from. -/
theorem FieldValue.read_fits (ty : RecordType) {bs : List UInt8} (h : ty.size ≤ bs.length) :
    (FieldValue.read ty bs).1.Fits ty ∧ (FieldValue.read ty bs).1.toBytes = bs.take ty.size := by
  cases ty with
  | char => exact ⟨.buffer (List.length_take_of_le h), rfl⟩
  | s32 => exact ⟨.s32 _, i32_takeI32 h⟩
  | u32 => exact ⟨.u32 _, u32_takeU32 h⟩
  | s64 => exact ⟨.s64 _, i64_takeI64 h⟩
  | u64 => exact ⟨.u64 _, u64_takeU64 h⟩

/-- The fields of a record read off a payload that holds them fit their types and are written
back as the front of the payload. -/
theorem readValues_fits : ∀ (tys : List RecordType) {bs : List UInt8},
    (tys.map (·.size)).sum ≤ bs.length →
      List.Forall₂ FieldValue.Fits (readValues tys bs) tys ∧
        (readValues tys bs).flatMap FieldValue.toBytes = bs.take (tys.map (·.size)).sum
  | [], bs, _ => ⟨.nil, by rw [List.map_nil, List.sum_nil, List.take_zero]; rfl⟩
  | ty :: tys, bs, h => by
    rw [List.map_cons, List.sum_cons] at h ⊢
    have hrest : (FieldValue.read ty bs).2 = bs.drop ty.size := by
      rw [FieldValue.read_reads ty bs]
    obtain ⟨hfits, hbytes⟩ := FieldValue.read_fits ty (show ty.size ≤ bs.length by omega)
    obtain ⟨hfits', hbytes'⟩ := readValues_fits tys
      (show (tys.map (·.size)).sum ≤ (bs.drop ty.size).length by rw [List.length_drop]; omega)
    show List.Forall₂ FieldValue.Fits ((FieldValue.read ty bs).1 ::
        readValues tys (FieldValue.read ty bs).2) (ty :: tys) ∧
      ((FieldValue.read ty bs).1 :: readValues tys (FieldValue.read ty bs).2).flatMap
        FieldValue.toBytes = _
    rw [hrest, List.flatMap_cons, hbytes, hbytes', ← List.take_add]
    exact ⟨.cons hfits hfits', rfl⟩

/-! ## What a decoder accepts -/

section Payload

variable {layouts : List SyscallLayout} {name : String} {payload : List UInt8} {draft : Draft}

/-- Whatever a decoder accepts starts with the written form of the values of its event. -/
theorem parsePayload_inv (h : parsePayload layouts name payload = .ok draft) :
    ∃ v : (route layouts name).Values,
      (route layouts name).encode v = payload.take (route layouts name).payloadSize ∧
        draft = (route layouts name).draft v := by
  have hlen : (route layouts name).payloadSize ≤ payload.length := by
    by_contra hlt
    rw [parsePayload_of_lt _ _ _ (Nat.lt_of_not_le hlt)] at h
    cases h
  revert h hlen
  unfold parsePayload
  cases route layouts name with
  | syscall l =>
    intro h hlen
    dsimp only at h
    rw [Route.payloadSize_syscall] at hlen
    rw [SyscallLayout.readPayload_eq, if_neg (Nat.not_lt.2 hlen)] at h
    have hsize : ((l.kernel.params.map (·.ty)).map (·.size)).sum = l.payloadSize := by
      rw [List.map_map]
      rfl
    obtain ⟨hfits, hbytes⟩ := readValues_fits (l.kernel.params.map (·.ty))
      (show ((l.kernel.params.map (·.ty)).map (·.size)).sum ≤ payload.length by
        rw [hsize]; exact hlen)
    rw [hsize] at hbytes
    exact ⟨⟨_, hfits⟩, hbytes, (Except.ok.inj h).symm⟩
  | file =>
    intro h hlen
    dsimp only at h
    rw [Route.payloadSize_file] at hlen
    rw [readFilePayload_eq, if_neg (Nat.not_lt.2 hlen)] at h
    refine ⟨(_, _, _, _), ?_, (Except.ok.inj h).symm⟩
    simp only [filePayloadSize] at hlen
    simp only [Route.encode, Route.payloadSize_file, filePayloadSize]
    rw [u64_takeU64 (by omega), u64_takeU64 (by simp only [List.length_drop]; omega),
      u64_takeU64 (by simp only [List.length_drop]; omega),
      u64_takeU64 (by simp only [List.length_drop]; omega)]
    rw [show (32 : Nat) = 8 + (8 + (8 + 8)) from rfl, List.take_add, List.take_add, List.take_add]
    simp only [List.append_assoc]
  | connectV4 kind =>
    intro h hlen
    dsimp only at h
    rw [Route.payloadSize_connectV4] at hlen
    rw [ConnectV4.decode_eq, if_neg (Nat.not_lt.2 hlen)] at h
    refine ⟨(_, _, _, _, _), ?_, (Except.ok.inj h).symm⟩
    simp only [v4PayloadSize] at hlen
    simp only [Route.encode, Route.payloadSize_connectV4, v4PayloadSize]
    rw [u32_takeU32 (by omega), u32_takeU32 (by simp only [List.length_drop]; omega),
      u16_takeU16 (by simp only [List.length_drop]; omega),
      u16_takeU16 (by simp only [List.length_drop]; omega),
      u32_takeU32 (by simp only [List.length_drop]; omega)]
    rw [show (16 : Nat) = 4 + (4 + (2 + (2 + 4))) from rfl, List.take_add, List.take_add,
      List.take_add, List.take_add]
    simp only [List.append_assoc]
  | connectV6 kind =>
    intro h hlen
    dsimp only at h
    rw [Route.payloadSize_connectV6] at hlen
    rw [ConnectV6.decode_eq, if_neg (Nat.not_lt.2 hlen)] at h
    simp only [v6PayloadSize] at hlen
    refine ⟨(⟨payload.take 16, List.length_take_of_le (by omega)⟩,
      ⟨(payload.drop 16).take 16, List.length_take_of_le (by rw [List.length_drop]; omega)⟩,
      _, _, _), ?_, (Except.ok.inj h).symm⟩
    simp only [Route.encode, Route.payloadSize_connectV6, v6PayloadSize]
    rw [u16_takeU16 (by simp only [List.length_drop]; omega),
      u16_takeU16 (by simp only [List.length_drop]; omega),
      u32_takeU32 (by simp only [List.length_drop]; omega)]
    rw [show (40 : Nat) = 16 + (16 + (2 + (2 + 4))) from rfl, List.take_add, List.take_add,
      List.take_add, List.take_add]
    simp only [List.drop_drop, List.append_assoc, Nat.reduceAdd]
  | other =>
    intro h _
    exact ⟨(), by rw [Route.payloadSize_other, List.take_zero]; rfl, (Except.ok.inj h).symm⟩

/-- A decoder accepts a payload exactly when the payload starts with the written form of some
values of its event, and it then gives the event of those values. -/
theorem parsePayload_eq_ok_iff :
    parsePayload layouts name payload = .ok draft ↔
      ∃ (v : (route layouts name).Values) (z : List UInt8),
        payload = (route layouts name).encode v ++ z ∧ draft = (route layouts name).draft v := by
  constructor
  · intro h
    obtain ⟨v, henc, hdraft⟩ := parsePayload_inv h
    exact ⟨v, payload.drop (route layouts name).payloadSize,
      by rw [henc, List.take_append_drop], hdraft⟩
  · rintro ⟨v, z, rfl, rfl⟩
    exact parsePayload_encode layouts name v z

end Payload

/-! ## What a buffer decodes to -/

/-- A parsed buffer is its header, then a payload its name's decoder accepts. -/
theorem parse_eq_ok_inv {buf : List UInt8} {hdr : Header} {draft : Draft}
    (h : parse buf = .ok (hdr, draft)) :
    Header.decode buf = .ok (hdr, buf.drop headerSize) ∧
      parsePayload bundledLayouts hdr.name (buf.drop headerSize) = .ok draft := by
  have hlen : headerSize ≤ buf.length := by
    by_contra hlt
    rw [parse_short buf (Nat.lt_of_not_le hlt)] at h
    cases h
  rw [parse_of_le hlen] at h
  rw [Header.decode_of_le hlen]
  cases hq : parsePayload bundledLayouts (headerName buf) (buf.drop headerSize) with
  | error e =>
    rw [hq] at h
    cases h
  | ok draft' =>
    rw [hq] at h
    obtain ⟨rfl, rfl⟩ := Prod.mk.inj (Except.ok.inj h)
    exact ⟨rfl, hq⟩

/-- **A decoded buffer holds a written event.** When a buffer decodes, its header is read off its
first 88 bytes, and its event is that of some values of the decoder its name picks, against the
table: the values whose written form is the front of the payload. Against any other table the
buffer decodes to the same header and the event of the same values. -/
theorem decodeBuffer_fst_eq_ok {ctx : Context} {buf : List UInt8} {d : DecodedEvent}
    (h : (decodeBuffer ctx buf).1 = .ok d) :
    Header.decode buf = .ok (d.header, buf.drop headerSize) ∧
      ∃ v : (route bundledLayouts d.header.name).Values,
        (route bundledLayouts d.header.name).encode v =
          (buf.drop headerSize).take (route bundledLayouts d.header.name).payloadSize ∧
        d.event = ((route bundledLayouts d.header.name).decoded ctx d.header.pid32 v).1 ∧
        ∀ ctx' : Context, (decodeBuffer ctx' buf).1 =
          .ok ⟨d.header, ((route bundledLayouts d.header.name).decoded ctx' d.header.pid32 v).1⟩ := by
  cases hp : parse buf with
  | error e =>
    unfold decodeBuffer at h
    rw [hp] at h
    cases h
  | ok p =>
    obtain ⟨hdr, draft⟩ := p
    rw [decodeBuffer_of_parse ctx hp] at h
    obtain rfl := Except.ok.inj h
    obtain ⟨hhdr, hpay⟩ := parse_eq_ok_inv hp
    obtain ⟨v, henc, rfl⟩ := parsePayload_inv hpay
    refine ⟨hhdr, v, henc, (Route.complete_serveAll ctx hdr.pid32 _ v).1, fun ctx' => ?_⟩
    rw [decodeBuffer_of_parse ctx' hp, (Route.complete_serveAll ctx' hdr.pid32 _ v).1]

/-- A written event decodes to its header and the event of the values written. -/
theorem decodeBuffer_fst_encode (ctx : Context) (ts : UInt64) (pid ret : Int64) {name : String}
    (hname : EventName name) (v : (route bundledLayouts name).Values) :
    (decodeBuffer ctx
        ((CommonEvent.new ts pid ret name).toBytes ++ (route bundledLayouts name).encode v)).1 =
      .ok ⟨⟨ts, pid, ret, name⟩, ((route bundledLayouts name).decoded ctx
        (Header.pid32 ⟨ts, pid, ret, name⟩) v).1⟩ := by
  have hp := parse_encode ts pid ret hname v []
  rw [List.append_nil] at hp
  rw [decodeBuffer_of_parse ctx hp, (Route.complete_serveAll ctx _ _ v).1]

/-! ## Written events read back -/

/-- Values of the route a name is known to pick, as values of the name's own route. -/
def Route.valuesOf {layouts : List SyscallLayout} {name : String} {r : Route}
    (h : route layouts name = r) (v : r.Values) : (route layouts name).Values :=
  h ▸ v

theorem Route.encode_valuesOf {layouts : List SyscallLayout} {name : String} {r : Route}
    (h : route layouts name = r) (v : r.Values) :
    (route layouts name).encode (Route.valuesOf h v) = r.encode v := by
  subst h
  rfl

theorem Route.decoded_valuesOf {layouts : List SyscallLayout} {name : String} {r : Route}
    (h : route layouts name = r) (v : r.Values) (ctx : Context) (pid : UInt32) :
    (route layouts name).decoded ctx pid (Route.valuesOf h v) = r.decoded ctx pid v := by
  subst h
  rfl

theorem eventName_connect_v4 : EventName "connect_v4" := by
  have hchars : "connect_v4".toList = ['c', 'o', 'n', 'n', 'e', 'c', 't', '_', 'v', '4'] := rfl
  rw [EventName, hchars]
  simp [nameFieldSize]

/-- **A written event decodes to what was written.** For every name the header carries intact,
every header, every value of each field of the event that name picks and whatever bytes follow:
decoding gives the header, the fields as written, each descriptor field the path the table held
before the event for the process and descriptor taken modulo `2 ^ 32`, and leaves the table the
event leaves. -/
theorem decodeBuffer_encode (ctx : Context) (ts : UInt64) (pid ret : Int64) (name : String)
    (hname : EventName name) (v : (route bundledLayouts name).Values) (z : List UInt8) :
    decodeBuffer ctx
        ((CommonEvent.new ts pid ret name).toBytes ++ (route bundledLayouts name).encode v ++ z) =
      (.ok ⟨⟨ts, pid, ret, name⟩, ((route bundledLayouts name).decoded ctx
          (UInt32.ofNat (pid.toInt % 4294967296).toNat) v).1⟩,
        ((route bundledLayouts name).decoded ctx (UInt32.ofNat (pid.toInt % 4294967296).toNat) v).2) := by
  have hpid : (⟨ts, pid, ret, name⟩ : Header).pid32 = UInt32.ofNat (pid.toInt % 4294967296).toNat :=
    pid32_eq _
  obtain ⟨hbody, hctx⟩ := Route.complete_serveAll ctx (UInt32.ofNat (pid.toInt % 4294967296).toNat)
    (route bundledLayouts name) v
  rewrite [List.append_assoc, decodeBuffer_of_parse ctx (parse_encode ts pid ret hname v z), hpid,
    hbody, hctx]
  rfl

/-- `webConnect` of process 42, written at time 1000 with return value 0 and a stray byte after
it, decodes against the empty table to its header and values. -/
theorem decodeBuffer_encode_web_connect :
    EventName "connect_v4" ∧
      decodeBuffer (Context.withProc .empty)
          ((CommonEvent.new 1000 42 0 "connect_v4").toBytes ++
            (route bundledLayouts "connect_v4").encode
              (Route.valuesOf (route_v4Kind (by decide)) webConnect.values) ++ [0xFF]) =
        (.ok ⟨⟨1000, 42, 0, "connect_v4"⟩, ((route bundledLayouts "connect_v4").decoded
            (Context.withProc .empty) (UInt32.ofNat ((42 : Int64).toInt % 4294967296).toNat)
            (Route.valuesOf (route_v4Kind (by decide)) webConnect.values)).1⟩,
          ((route bundledLayouts "connect_v4").decoded (Context.withProc .empty)
            (UInt32.ofNat ((42 : Int64).toInt % 4294967296).toNat)
            (Route.valuesOf (route_v4Kind (by decide)) webConnect.values)).2) :=
  ⟨eventName_connect_v4, decodeBuffer_encode _ 1000 42 0 "connect_v4" eventName_connect_v4
    (Route.valuesOf (route_v4Kind (by decide)) webConnect.values) [0xFF]⟩

/-- `webConnect` as the probe writes it for process 42, at time 1000 with return value 0. -/
def webConnectBuffer : List UInt8 :=
  (CommonEvent.new 1000 42 0 "connect_v4").toBytes ++
    (Route.connectV4 "connect_v4").encode webConnect.values

/-- `webConnectBuffer` decodes, against any table, to its header and `webConnect`. -/
theorem decodeBuffer_webConnect (ctx : Context) :
    (decodeBuffer ctx webConnectBuffer).1 =
      .ok ⟨⟨1000, 42, 0, "connect_v4"⟩, .connectV4 webConnect⟩ := by
  have hr : route bundledLayouts "connect_v4" = .connectV4 "connect_v4" := route_v4Kind (by decide)
  have h := decodeBuffer_fst_encode ctx 1000 42 0 eventName_connect_v4
    (Route.valuesOf hr webConnect.values)
  rw [Route.encode_valuesOf hr webConnect.values, Route.decoded_valuesOf hr webConnect.values] at h
  exact h

/-! ## The layouts the decoder knows -/

/-- A layout as compiling a format makes it: the decoder and record views name the same
syscall, the decoder type is the syscall's camel-case name with `Event` after it, the buffers of
exactly `read` and `write` are bounded by the return value, the two views list the same fields,
each decoder field named in camel case from its kernel name and looked up as a descriptor
exactly when the record field is, and the wire view names its fields as the decoder does. -/
structure SyscallLayout.Compiled (l : SyscallLayout) : Prop where
  rawName_eq : l.decoder.rawName = l.kernel.rawName
  name_eq : l.decoder.name = camelCase l.kernel.rawName ++ "Event"
  bufferPolicy_eq : l.decoder.bufferPolicy = bufferPolicyOf l.kernel.rawName
  params : List.Forall₂ (fun (p : Param DecoderType) (q : Param RecordType) =>
      p.name = camelCase q.rawName ∧ p.rawName = q.rawName ∧ p.needsPath = q.needsPath)
    l.decoder.params l.kernel.params
  wire_rawNames : l.wire.params.map (·.rawName) = l.decoder.params.map (·.rawName)

/-- The views of a compiled syscall make a compiled layout. -/
theorem compiled_of_compileSyscall {n f : String} {v : SyscallViews}
    (hv : compileSyscall n f = .ok v) : SyscallLayout.Compiled ⟨v.1, v.2.1, v.2.2⟩ := by
  obtain ⟨decls, params, -, hviews, h₁, h₂, h₃⟩ := (compileSyscall_reads_field_lines n f).2.2 v hv
  obtain ⟨hd, hk, -⟩ := rawName_of_compileSyscall hv
  have hfield : ∀ q ∈ params, q.1.name = camelCase q.2.1.rawName ∧ q.1.rawName = q.2.1.rawName ∧
      q.1.needsPath = q.2.1.needsPath ∧ q.2.2.rawName = q.1.rawName := by
    intro q hq
    obtain ⟨position, ty, name, d, r, rfl⟩ := hviews.mem q hq
    exact ⟨rfl, rfl, rfl, rfl⟩
  unfold compileSyscall at hv
  split at hv
  · cases hv
  · obtain rfl := (Except.ok.inj hv).symm
    refine ⟨rfl, rfl, rfl, ?_, ?_⟩
    · rw [h₁, h₂, List.forall₂_map_left_iff, List.forall₂_map_right_iff, List.forall₂_same]
      exact fun q hq => ⟨(hfield q hq).1, (hfield q hq).2.1, (hfield q hq).2.2.1⟩
    · rw [h₁, h₃, List.map_map, List.map_map]
      exact List.map_congr_left fun q hq => (hfield q hq).2.2.2

/-- Every layout the decoder knows is compiled. -/
theorem compiled_of_mem_bundledLayouts {l : SyscallLayout} (hl : l ∈ bundledLayouts) : l.Compiled := by
  obtain ⟨vs, hvs, hb⟩ := bundledLayouts_eq
  rw [hb, List.mem_map] at hl
  obtain ⟨v, hv, rfl⟩ := hl
  obtain ⟨p, -, hp⟩ := hvs.mem.1 ((List.mergeSort_perm _ _).subset hv)
  exact compiled_of_compileSyscall hp

/-- A name that picks a syscall picks one of the layouts, by that name. -/
theorem route_eq_syscall {layouts : List SyscallLayout} {name : String} {l : SyscallLayout}
    (h : route layouts name = .syscall l) : l ∈ layouts ∧ l.decoder.rawName = name := by
  have hne : route layouts name ≠ .other := by rw [h]; exact nofun
  have hmem := route_mem_tableRoutes hne
  have hname := name_route hne
  rw [h] at hmem hname
  refine ⟨?_, hname⟩
  simpa [tableRoutes] using hmem

/-- A name that picks a connection event picks the event of that name. -/
theorem route_eq_connectV4 {layouts : List SyscallLayout} {name kind : String}
    (h : route layouts name = .connectV4 kind) : kind = name := by
  have hname := name_route (show route layouts name ≠ .other by rw [h]; exact nofun)
  rw [h] at hname
  exact hname

theorem route_eq_connectV6 {layouts : List SyscallLayout} {name kind : String}
    (h : route layouts name = .connectV6 kind) : kind = name := by
  have hname := name_route (show route layouts name ≠ .other by rw [h]; exact nofun)
  rw [h] at hname
  exact hname

end SyscallTrace.Event
