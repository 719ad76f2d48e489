import Mathlib
import SyscallTrace.Proofs.DecodeOutcome
import SyscallTrace.Proofs.TableHistory

/-!
# Events written and read back

The probe writes an event as the common header, whose name field holds the event's name, then
the event's fields at their record widths: little-endian, signed fields in two's complement,
buffers whole. This module writes each kind of event (`Route.encode`) and shows that decoding
what was written, whatever follows it, gives back the header and exactly the fields written.
Against a table, each descriptor field shows the path the table held before the event, `close`
then forgets its descriptor, and an install records its file (`Route.decoded`).

A name comes back from the header when it is short ASCII without NUL (`EventName`), as every
name the decoder knows is.

## Results

* `Utf8.encode_of_ascii`, `Utf8.decodeLossy_ascii`: ASCII text takes one byte per character
  and reads back as itself.
* `CommonEvent.name_new`: the name field of a new header reads back as its name.
* `FieldValue.read_toBytes`, `readValues_flatMap_toBytes`: fields read back as written.
* `parsePayload_encode`: each decoder reads back what its kind of event writes.
* `Route.complete_serveAll`: the answers of the table give each field its path.
* `decodeBuffer_of_parse`: a parsed buffer decodes to the event its answers complete; with the
  two lemmas above, `Proofs.DecodedEvents.decodeBuffer_encode` reads back a written event.
-/

set_option autoImplicit false

namespace SyscallTrace.Bytes

theorem length_u16 (v : UInt16) : (u16 v).length = 2 := length_encode 2 _

theorem length_u32 (v : UInt32) : (u32 v).length = 4 := length_encode 4 _

theorem length_u64 (v : UInt64) : (u64 v).length = 8 := length_encode 8 _

theorem length_i32 (v : Int32) : (i32 v).length = 4 := length_encode 4 _

theorem length_i64 (v : Int64) : (i64 v).length = 8 := length_encode 8 _

theorem takeU16_append (v : UInt16) (rest : List UInt8) : takeU16 (u16 v ++ rest) = (v, rest) := by
  have hv : v.toNat % Nat.pow 256 2 = v.toNat := Nat.mod_eq_of_lt v.toNat_lt
  rw [takeU16, u16, takeWord_append, hv]
  exact congrArg (·, rest) UInt16.ofNat_toNat

theorem takeU32_append (v : UInt32) (rest : List UInt8) : takeU32 (u32 v ++ rest) = (v, rest) := by
  have hv : v.toNat % Nat.pow 256 4 = v.toNat := Nat.mod_eq_of_lt v.toNat_lt
  rw [takeU32, u32, takeWord_append, hv]
  exact congrArg (·, rest) UInt32.ofNat_toNat

theorem takeI32_append (v : Int32) (rest : List UInt8) : takeI32 (i32 v ++ rest) = (v, rest) := by
  rw [takeI32, i32, takeU32_append]
  exact congrArg (·, rest) (Int32.toInt32_toUInt32 v)

end SyscallTrace.Bytes

namespace SyscallTrace.Text.Utf8

/-! ## ASCII text -/

theorem byteArray_toList_loop (bs : ByteArray) (i : Nat) (r : List UInt8) :
    ByteArray.toList.loop bs i r = r.reverse ++ bs.data.toList.drop i := by
  fun_induction ByteArray.toList.loop bs i r with
  | case1 i r h ih =>
    have hi : i < bs.data.toList.length := by simpa using h
    rw [ih, List.drop_eq_getElem_cons (l := bs.data.toList) hi]
    simp [ByteArray.get!, h]
  | case2 i r h =>
    rw [List.drop_eq_nil_of_le (by simpa using Nat.le_of_not_lt h)]
    simp

theorem byteArray_toList (bs : ByteArray) : bs.toList = bs.data.toList := by
  rw [ByteArray.toList, byteArray_toList_loop, List.reverse_nil, List.nil_append, List.drop_zero]

theorem flatMap_utf8EncodeChar_of_ascii (cs : List Char) (h : ∀ c ∈ cs, c.toNat < 128) :
    cs.flatMap String.utf8EncodeChar = cs.map fun c => c.val.toUInt8 := by
  induction cs with
  | nil => rfl
  | cons c cs ih =>
    have hc : c.utf8Size = 1 := by
      have := h c (List.mem_cons_self ..)
      rw [Char.utf8Size_eq_one_iff, UInt32.le_iff_toNat_le]
      simp only [Char.toNat] at this
      simpa using (by omega : c.val.toNat ≤ 127)
    rw [List.flatMap_cons, String.utf8EncodeChar_eq_singleton hc, List.map_cons,
      ih fun x hx => h x (List.mem_cons_of_mem c hx)]
    rfl

/-- ASCII text is written one byte per character. -/
theorem encode_of_ascii {s : String} (h : ∀ c ∈ s.toList, c.toNat < 128) :
    encode s = s.toList.map fun c => c.val.toUInt8 := by
  rw [encode, String.toUTF8_eq_toByteArray, ← String.utf8Encode_toList, byteArray_toList,
    List.utf8Encode, List.toList_data_toByteArray, flatMap_utf8EncodeChar_of_ascii _ h]

theorem next_of_lt {b : UInt8} (h : b.toNat < 128) (rest : List UInt8) :
    next b rest = (some (Char.ofNat b.toNat), rest) := by
  have hshape : leadShape b = some (0, 0x80, 0xBF, b.toNat) := by
    rw [leadShape, if_pos (by omega)]
  rw [next, hshape]
  rfl

/-- The byte an ASCII character is written as is its code. -/
theorem toNat_toUInt8_of_ascii {c : Char} (h : c.toNat < 128) : c.val.toUInt8.toNat = c.toNat := by
  rw [UInt32.toNat_toUInt8]
  exact Nat.mod_eq_of_lt (Nat.lt_trans h (by decide))

theorem decodeLossyUpTo_ascii (cs : List Char) (h : ∀ c ∈ cs, c.toNat < 128) :
    decodeLossyUpTo cs.length (cs.map fun c => c.val.toUInt8) = cs := by
  induction cs with
  | nil => rfl
  | cons c cs ih =>
    have hc := toNat_toUInt8_of_ascii (h c (List.mem_cons_self ..))
    have hlt : c.val.toUInt8.toNat < 128 := hc ▸ h c (List.mem_cons_self ..)
    rw [List.length_cons, List.map_cons, decodeLossyUpTo]
    show (next _ _).1.getD replacement :: decodeLossyUpTo cs.length (next _ _).2 = c :: cs
    rw [next_of_lt hlt, hc, Char.ofNat_toNat, Option.getD_some,
      ih fun x hx => h x (List.mem_cons_of_mem c hx)]

/-- ASCII text reads back as itself. -/
theorem decodeLossy_ascii {s : String} (h : ∀ c ∈ s.toList, c.toNat < 128) :
    decodeLossy (s.toList.map fun c => c.val.toUInt8) = s := by
  have hlen : (s.toList.map fun c => c.val.toUInt8).length = s.toList.length := List.length_map _
  rw [decodeLossy, decodeLossyChars, hlen, decodeLossyUpTo_ascii _ h, String.ofList_toList]

end SyscallTrace.Text.Utf8

namespace SyscallTrace.Event

open SyscallTrace.Bytes SyscallTrace.Schema SyscallTrace.Descriptor

/-! ## Names in the header -/

/-- A name the header carries intact: fewer characters than the name field holds, each of them
ASCII and none NUL. -/
def EventName (name : String) : Prop :=
  name.toList.length < nameFieldSize ∧ ∀ c ∈ name.toList, 0 < c.toNat ∧ c.toNat < 128

instance (name : String) : Decidable (EventName name) :=
  inferInstanceAs (Decidable (_ ∧ _))

theorem padTo_of_length {n : Nat} {bs : List UInt8} (h : bs.length = n) : padTo n bs = bs := by
  rw [padTo, List.take_of_length_le (Nat.le_of_eq h), h, Nat.sub_self, List.replicate_zero,
    List.append_nil]

/-- The name field of a new header reads back as its name. -/
theorem CommonEvent.name_new (ts : UInt64) (pid ret : Int64) {name : String}
    (hname : EventName name) :
    Text.Utf8.decodeLossy (cString (padTo nameFieldSize (CommonEvent.new ts pid ret name).nameField)) =
      name := by
  obtain ⟨hlen, hchars⟩ := hname
  have hascii : ∀ c ∈ name.toList, c.toNat < 128 := fun c hc => (hchars c hc).2
  have hbytes : (Text.Utf8.encode name).take (nameFieldSize - 1) =
      name.toList.map fun c => c.val.toUInt8 := by
    rw [Text.Utf8.encode_of_ascii hascii, List.take_of_length_le]
    rw [List.length_map]
    omega
  have hnonzero : ∀ b ∈ name.toList.map (fun c => c.val.toUInt8), b ≠ 0 := by
    intro b hb
    obtain ⟨c, hc, rfl⟩ := List.mem_map.1 hb
    obtain ⟨hpos, hlt⟩ := hchars c hc
    intro h0
    have hcode := Text.Utf8.toNat_toUInt8_of_ascii hlt
    rw [h0, UInt8.toNat_zero] at hcode
    omega
  have hpad : nameFieldSize - (name.toList.map fun c => c.val.toUInt8).length =
      (nameFieldSize - 1 - name.toList.length) + 1 := by
    rw [List.length_map]
    omega
  simp only [CommonEvent.new]
  rw [hbytes, padTo_of_length (length_padTo _ _), padTo,
    List.take_of_length_le (by rw [List.length_map]; omega), hpad, List.replicate_succ,
    cString_append_nul _ _ hnonzero, Text.Utf8.decodeLossy_ascii hascii]

/-! ## Fields -/

namespace FieldValue

/-- The bytes a field takes in the record. -/
def toBytes : FieldValue → List UInt8
  | .buffer b => b
  | .s32 v => i32 v
  | .u32 v => Bytes.u32 v
  | .s64 v => i64 v
  | .u64 v => Bytes.u64 v

/-- A value fits a record type: it is of that type, and a buffer holds exactly
`bufferSize` bytes. -/
inductive Fits : FieldValue → RecordType → Prop
  | buffer {b : List UInt8} : b.length = bufferSize → Fits (.buffer b) .char
  | s32 (v : Int32) : Fits (.s32 v) .s32
  | u32 (v : UInt32) : Fits (.u32 v) .u32
  | s64 (v : Int64) : Fits (.s64 v) .s64
  | u64 (v : UInt64) : Fits (.u64 v) .u64

theorem length_toBytes {v : FieldValue} {ty : RecordType} (h : v.Fits ty) :
    v.toBytes.length = ty.size := by
  cases h with
  | buffer hb => exact hb
  | s32 v => exact length_i32 v
  | u32 v => exact length_u32 v
  | s64 v => exact length_i64 v
  | u64 v => exact length_u64 v

/-- A field reads back as written, leaving what follows it. -/
theorem read_toBytes {v : FieldValue} {ty : RecordType} (h : v.Fits ty) (rest : List UInt8) :
    read ty (v.toBytes ++ rest) = (v, rest) := by
  cases h with
  | @buffer b hb =>
    show (FieldValue.buffer ((b ++ rest).take bufferSize), (b ++ rest).drop bufferSize) = _
    rw [List.take_left' hb, List.drop_left' hb]
  | s32 v =>
    show (FieldValue.s32 (takeI32 (i32 v ++ rest)).1, (takeI32 (i32 v ++ rest)).2) = _
    rw [takeI32_append]
  | u32 v =>
    show (FieldValue.u32 (takeU32 (Bytes.u32 v ++ rest)).1, (takeU32 (Bytes.u32 v ++ rest)).2) = _
    rw [takeU32_append]
  | s64 v =>
    show (FieldValue.s64 (takeI64 (i64 v ++ rest)).1, (takeI64 (i64 v ++ rest)).2) = _
    rw [takeI64_append]
  | u64 v =>
    show (FieldValue.u64 (takeU64 (Bytes.u64 v ++ rest)).1, (takeU64 (Bytes.u64 v ++ rest)).2) = _
    rw [takeU64_append]

end FieldValue

theorem length_flatMap_toBytes {vs : List FieldValue} {tys : List RecordType}
    (h : List.Forall₂ FieldValue.Fits vs tys) :
    (vs.flatMap FieldValue.toBytes).length = (tys.map RecordType.size).sum := by
  induction h with
  | nil => rfl
  | cons hv _ ih =>
    rw [List.flatMap_cons, List.length_append, FieldValue.length_toBytes hv, ih, List.map_cons,
      List.sum_cons]

/-- Fields read back as written, whatever follows them. -/
theorem readValues_flatMap_toBytes {vs : List FieldValue} {tys : List RecordType}
    (h : List.Forall₂ FieldValue.Fits vs tys) (rest : List UInt8) :
    readValues tys (vs.flatMap FieldValue.toBytes ++ rest) = vs := by
  induction h with
  | nil => rfl
  | @cons v ty vs tys hv _ ih =>
    rw [List.flatMap_cons, List.append_assoc]
    show (FieldValue.read ty _).1 :: readValues tys (FieldValue.read ty _).2 = v :: vs
    rw [FieldValue.read_toBytes hv, ih]

/-! ## Events of each kind -/

/-- A 16-byte IPv6 address. -/
abbrev Addr16 := { a : List UInt8 // a.length = 16 }

/-- The field values an event of each kind carries: a syscall its record's fields; a descriptor
install its descriptor, inode, major and minor; a connection its source and destination
addresses, its two ports and its network namespace. -/
def Route.Values : Route → Type
  | .syscall l => { vs : List FieldValue // List.Forall₂ FieldValue.Fits vs (l.kernel.params.map (·.ty)) }
  | .file => UInt64 × UInt64 × UInt64 × UInt64
  | .connectV4 _ => UInt32 × UInt32 × UInt16 × UInt16 × UInt32
  | .connectV6 _ => Addr16 × Addr16 × UInt16 × UInt16 × UInt32
  | .other => Unit

/-- The payload the probe writes for an event of this kind. -/
def Route.encode : (r : Route) → r.Values → List UInt8
  | .syscall _, vs => vs.1.flatMap FieldValue.toBytes
  | .file, (fd, ino, major, minor) => u64 fd ++ u64 ino ++ u64 major ++ u64 minor
  | .connectV4 _, (saddr, daddr, sport, dport, netns) =>
    u32 saddr ++ u32 daddr ++ u16 sport ++ u16 dport ++ u32 netns
  | .connectV6 _, (saddr, daddr, sport, dport, netns) =>
    saddr.1 ++ daddr.1 ++ u16 sport ++ u16 dport ++ u32 netns
  | .other, () => []

/-- The event read back from its payload, before the table is asked anything. -/
def Route.draft : (r : Route) → r.Values → Draft
  | .syscall l, vs => .syscall l vs.1
  | .file, (fd, ino, major, minor) => .file fd ino major minor
  | .connectV4 kind, (saddr, daddr, sport, dport, netns) =>
    .ready (.connectV4 ⟨kind, saddr, daddr, sport, dport, netns⟩)
  | .connectV6 kind, (saddr, daddr, sport, dport, netns) =>
    .ready (.connectV6 ⟨kind, saddr.1, daddr.1, sport, dport, netns⟩)
  | .other, () => .ready .other

/-- What the probe writes is exactly as long as the decoder checks for. -/
theorem Route.length_encode (r : Route) (v : r.Values) : (r.encode v).length = r.payloadSize := by
  cases r with
  | syscall l =>
    obtain ⟨vs, hvs⟩ := v
    have hlen := length_flatMap_toBytes hvs
    rw [List.map_map] at hlen
    exact hlen
  | file =>
    obtain ⟨fd, ino, major, minor⟩ := v
    simp only [Route.encode, List.length_append, length_u64]
    rfl
  | connectV4 kind =>
    obtain ⟨saddr, daddr, sport, dport, netns⟩ := v
    simp only [Route.encode, List.length_append, length_u32, length_u16]
    rfl
  | connectV6 kind =>
    obtain ⟨⟨saddr, hs⟩, ⟨daddr, hd⟩, sport, dport, netns⟩ := v
    simp only [Route.encode, List.length_append, hs, hd, length_u32, length_u16]
    rfl
  | other => rfl

/-- Each decoder reads back what its kind of event writes, whatever follows it. -/
theorem parsePayload_encode (layouts : List SyscallLayout) (name : String)
    (v : (route layouts name).Values) (z : List UInt8) :
    parsePayload layouts name ((route layouts name).encode v ++ z) =
      .ok ((route layouts name).draft v) := by
  have hlen : ¬ ((route layouts name).encode v ++ z).length < (route layouts name).payloadSize := by
    rw [List.length_append, Route.length_encode]
    omega
  revert v hlen
  unfold parsePayload
  cases route layouts name with
  | syscall l =>
    rintro ⟨vs, hvs⟩ hlen
    dsimp only
    rw [Route.payloadSize_syscall] at hlen
    rw [SyscallLayout.readPayload_eq, if_neg hlen]
    exact congrArg (fun vs => Except.ok (Draft.syscall l vs)) (readValues_flatMap_toBytes hvs z)
  | file =>
    rintro ⟨fd, ino, major, minor⟩ hlen
    dsimp only
    rw [Route.payloadSize_file] at hlen
    rw [readFilePayload_eq, if_neg hlen]
    simp only [Route.encode, Route.draft, List.append_assoc, takeU64_append,
      List.drop_left' (length_u64 _)]
    rfl
  | connectV4 kind =>
    rintro ⟨saddr, daddr, sport, dport, netns⟩ hlen
    dsimp only
    rw [Route.payloadSize_connectV4] at hlen
    rw [ConnectV4.decode_eq, if_neg hlen]
    simp only [Route.encode, Route.draft, List.append_assoc, takeU32_append, takeU16_append,
      List.drop_left' (length_u32 _), List.drop_left' (length_u16 _)]
    rfl
  | connectV6 kind =>
    rintro ⟨⟨saddr, hs⟩, ⟨daddr, hd⟩, sport, dport, netns⟩ hlen
    dsimp only
    rw [Route.payloadSize_connectV6] at hlen
    rw [ConnectV6.decode_eq, if_neg hlen]
    have h32 : ∀ rest : List UInt8, (saddr ++ (daddr ++ rest)).drop 32 = rest := by
      intro rest
      rw [show 32 = 16 + 16 from rfl, ← List.drop_drop, List.drop_left' hs, List.drop_left' hd]
    simp only [Route.encode, Route.draft, List.append_assoc, List.take_left' hs,
      List.drop_left' hs, List.take_left' hd, h32, takeU32_append, takeU16_append,
      List.drop_left' (length_u16 _)]
    rfl
  | other =>
    rintro ⟨⟩ _
    rfl

/-- A written header followed by a written payload parses to both. -/
theorem parse_encode (ts : UInt64) (pid ret : Int64) {name : String} (hname : EventName name)
    (v : (route bundledLayouts name).Values) (z : List UInt8) :
    parse ((CommonEvent.new ts pid ret name).toBytes ++ ((route bundledLayouts name).encode v ++ z)) =
      .ok (⟨ts, pid, ret, name⟩, (route bundledLayouts name).draft v) := by
  rw [parse_toBytes_append]
  dsimp only
  rw [CommonEvent.name_new ts pid ret hname, parsePayload_encode]
  rfl

/-! ## What the table answers -/

/-- The field `p` holding `v`, a descriptor field showing the path `ctx` holds for it. -/
def DecodedField.resolved (ctx : Context) (pid : UInt32) (pv : Param DecoderType × FieldValue) :
    DecodedField :=
  ⟨pv.1, pv.2, if pv.1.needsPath then some (ctx.resolveFdPath pid pv.2.word32) else none⟩

namespace SyscallLayout

/-- The fields of a syscall, each descriptor field showing the path `ctx` holds for it. -/
def resolvedFields (l : SyscallLayout) (ctx : Context) (pid : UInt32) (vs : List FieldValue) :
    List DecodedField :=
  (l.decoder.params.zip vs).map (DecodedField.resolved ctx pid)

/-- The table after a syscall: `close` forgets the descriptor its `fd` field names. -/
def after (l : SyscallLayout) (ctx : Context) (pid : UInt32) (vs : List FieldValue) : Context :=
  if l.decoder.rawName = "close" then
    match (l.decoder.params.zip vs).find? (·.1.rawName = "fd") with
    | some (_, v) => ctx.forgetFd pid v.word32
    | none => ctx
  else ctx

end SyscallLayout

/-- What an event of this kind decodes to against `ctx`, and the table it leaves. -/
def Route.decoded (ctx : Context) (pid : UInt32) : (r : Route) → r.Values → Body × Context
  | .syscall l, vs => (.syscall ⟨l, l.resolvedFields ctx pid vs.1⟩, l.after ctx pid vs.1)
  | .file, (fd, ino, major, minor) =>
    let (path, ctx') := ctx.installFd pid fd.toUInt32 ⟨ino, major, minor⟩
    (.file ⟨fd, ino, major, minor, path⟩, ctx')
  | .connectV4 kind, (saddr, daddr, sport, dport, netns) =>
    (.connectV4 ⟨kind, saddr, daddr, sport, dport, netns⟩, ctx)
  | .connectV6 kind, (saddr, daddr, sport, dport, netns) =>
    (.connectV6 ⟨kind, saddr.1, daddr.1, sport, dport, netns⟩, ctx)
  | .other, () => (.other, ctx)

theorem Context.serveAll_append (ctx : Context) (xs ys : List Request) :
    ctx.serveAll (xs ++ ys) =
      ((ctx.serveAll xs).1 ++ ((ctx.serveAll xs).2.serveAll ys).1,
        ((ctx.serveAll xs).2.serveAll ys).2) := by
  induction xs generalizing ctx with
  | nil => rfl
  | cons x xs ih =>
    show (_ :: ((ctx.serve x).2.serveAll (xs ++ ys)).1, ((ctx.serve x).2.serveAll (xs ++ ys)).2) = _
    rw [ih]
    rfl

/-- Looking paths up changes nothing, so each answer is the path the table held at the start. -/
theorem Context.serveAll_resolves (ctx : Context) (pid : UInt32)
    (fields : List (Param DecoderType × FieldValue)) :
    ctx.serveAll (fields.map fun (_, v) => Request.resolve pid v.word32) =
      (fields.map fun (_, v) => ctx.resolveFdPath pid v.word32, ctx) := by
  induction fields with
  | nil => rfl
  | cons f fields ih =>
    obtain ⟨p, v⟩ := f
    show (_ :: (ctx.serveAll _).1, (ctx.serveAll _).2) = _
    rw [ih]
    rfl

/-- Descriptor fields take the answers in order; what follows them is never read. -/
theorem withPaths_resolves (ctx : Context) (pid : UInt32) :
    ∀ (ps : List (Param DecoderType)) (vs : List FieldValue) (extra : List String),
      SyscallLayout.withPaths ps vs
          ((((ps.zip vs).filter (·.1.needsPath)).map fun (_, v) => ctx.resolveFdPath pid v.word32) ++
            extra) =
        (ps.zip vs).map (DecodedField.resolved ctx pid)
  | [], _, _ => rfl
  | _ :: _, [], _ => rfl
  | p :: ps, v :: vs, extra => by
    have ih := withPaths_resolves ctx pid ps vs extra
    by_cases hp : p.needsPath
    · -- a descriptor field takes the first answer, and the rest take the others
      have hfilter : ((p :: ps).zip (v :: vs)).filter (·.1.needsPath) =
          (p, v) :: (ps.zip vs).filter (·.1.needsPath) := by
        rw [List.zip_cons_cons, List.filter_cons, if_pos hp]
      rw [hfilter, List.zip_cons_cons, List.map_cons, List.map_cons, List.cons_append,
        SyscallLayout.withPaths, if_pos hp, List.headD_cons, List.tail_cons, ih,
        DecodedField.resolved, if_pos hp]
    · have hfilter : ((p :: ps).zip (v :: vs)).filter (·.1.needsPath) =
          (ps.zip vs).filter (·.1.needsPath) := by
        rw [List.zip_cons_cons, List.filter_cons, if_neg hp]
      rw [hfilter, List.zip_cons_cons, List.map_cons, SyscallLayout.withPaths, if_neg hp, ih,
        DecodedField.resolved, if_neg hp]

theorem SyscallLayout.serveAll_requests (l : SyscallLayout) (ctx : Context) (pid : UInt32)
    (vs : List FieldValue) :
    (ctx.serveAll (l.requests pid vs)).2 = l.after ctx pid vs := by
  rw [SyscallLayout.requests, Context.serveAll_append, Context.serveAll_resolves]
  unfold SyscallLayout.after
  by_cases hc : l.decoder.rawName = "close"
  · rw [if_pos hc, if_pos hc]
    cases (l.decoder.params.zip vs).find? (·.1.rawName = "fd") with
    | none => rfl
    | some f => rfl
  · rw [if_neg hc, if_neg hc]
    rfl

/-- The answers of the table give each field its path, and the table is left as the event
leaves it. The lookups are asked first, so the descriptor fields take their answers. -/
theorem Route.complete_serveAll (ctx : Context) (pid : UInt32) (r : Route) (v : r.Values) :
    (r.draft v).complete (ctx.serveAll ((r.draft v).requests pid)).1 = (r.decoded ctx pid v).1 ∧
      (ctx.serveAll ((r.draft v).requests pid)).2 = (r.decoded ctx pid v).2 := by
  cases r with
  | syscall l =>
    obtain ⟨vs, hvs⟩ := v
    refine ⟨?_, SyscallLayout.serveAll_requests l ctx pid vs⟩
    obtain ⟨extra, hanswers⟩ : ∃ extra, (ctx.serveAll (l.requests pid vs)).1 =
        (((l.decoder.params.zip vs).filter (·.1.needsPath)).map fun (_, v) =>
          ctx.resolveFdPath pid v.word32) ++ extra :=
      ⟨_, by rw [SyscallLayout.requests, Context.serveAll_append, Context.serveAll_resolves]⟩
    show Body.syscall ⟨l, SyscallLayout.withPaths l.decoder.params vs
        (ctx.serveAll (l.requests pid vs)).1⟩ = _
    rw [hanswers, withPaths_resolves]
    rfl
  | file =>
    obtain ⟨fd, ino, major, minor⟩ := v
    exact ⟨rfl, rfl⟩
  | connectV4 kind =>
    obtain ⟨saddr, daddr, sport, dport, netns⟩ := v
    exact ⟨rfl, rfl⟩
  | connectV6 kind =>
    obtain ⟨saddr, daddr, sport, dport, netns⟩ := v
    exact ⟨rfl, rfl⟩
  | other => exact ⟨rfl, rfl⟩

theorem decodeBuffer_of_parse (ctx : Context) {buf : List UInt8} {hdr : Header} {draft : Draft}
    (h : parse buf = .ok (hdr, draft)) :
    decodeBuffer ctx buf =
      (.ok ⟨hdr, draft.complete (ctx.serveAll (draft.requests hdr.pid32)).1⟩,
        (ctx.serveAll (draft.requests hdr.pid32)).2) := by
  unfold decodeBuffer
  rw [h]

end SyscallTrace.Event
