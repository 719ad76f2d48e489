import Mathlib
import SyscallTrace.Event.Decoded

/-!
# Fixed-width readers

Every field of a record is read off the front of the bytes left by the field before it, at a
width fixed by its type. This module says once what such a reader is (`ReadsFront`: what it
gives depends on the first `w` bytes alone, and it leaves the bytes after them) and shows it of
every reader the decoders use. The decoders themselves check the payload size first and then
read; each gets one lemma that states its result in closed form, so later proofs never unfold
the chain of reads.

## Results

* `ReadsFront.take`: a reader of width `w` run on the first `n ≥ w` bytes reads what it reads
  on all of them.
* `readValues_take`: the fields of a record depend only on as many bytes as their widths add
  up to.
* `SyscallLayout.readPayload_eq`, `readFilePayload_eq`, `ConnectV4.decode_eq`,
  `ConnectV6.decode_eq`, `Header.decode_eq`: each decoder in closed form.
* `SyscallLayout.readPayload_take`, `readFilePayload_take`, `ConnectV4.decode_take`,
  `ConnectV6.decode_take`: each payload decoder reads no byte past the size it checks.
-/

set_option autoImplicit false

namespace SyscallTrace.Bytes

/-- `r` reads `w` bytes off the front: what it gives depends on those bytes alone, and it leaves
the bytes after them. -/
def ReadsFront {α : Type} (w : Nat) (r : List UInt8 → α × List UInt8) : Prop :=
  ∀ bs, r bs = ((r (bs.take w)).1, bs.drop w)

namespace ReadsFront

variable {α β : Type} {w : Nat} {r : List UInt8 → α × List UInt8}

theorem map (hr : ReadsFront w r) (f : α → β) :
    ReadsFront w fun bs => (f (r bs).1, (r bs).2) := by
  intro bs
  dsimp only
  rw [hr bs]

/-- Cut after `n ≥ w` bytes, the input gives the same value and leaves the cut rest. -/
theorem take (hr : ReadsFront w r) {n : Nat} (hn : w ≤ n) (bs : List UInt8) :
    r (bs.take n) = ((r bs).1, (r bs).2.take (n - w)) := by
  rw [hr (bs.take n), hr bs, List.take_take, Nat.min_eq_left hn, List.drop_take]

theorem fst_take (hr : ReadsFront w r) {n : Nat} (hn : w ≤ n) (bs : List UInt8) :
    (r (bs.take n)).1 = (r bs).1 := by
  rw [hr.take hn]

end ReadsFront

theorem takeWord_reads (w : Nat) : ReadsFront w (takeWord w) := by
  intro bs
  simp only [takeWord, List.take_take, Nat.min_self]

theorem takeU16_reads : ReadsFront 2 takeU16 := (takeWord_reads 2).map Nat.toUInt16

theorem takeU32_reads : ReadsFront 4 takeU32 := (takeWord_reads 4).map Nat.toUInt32

theorem takeU64_reads : ReadsFront 8 takeU64 := (takeWord_reads 8).map Nat.toUInt64

theorem takeI32_reads : ReadsFront 4 takeI32 := takeU32_reads.map UInt32.toInt32

theorem takeI64_reads : ReadsFront 8 takeI64 := takeU64_reads.map UInt64.toInt64

end SyscallTrace.Bytes

namespace SyscallTrace.Event

open SyscallTrace.Bytes SyscallTrace.Schema

theorem takeBuffer_reads : ReadsFront bufferSize takeBuffer := by
  intro bs
  simp only [takeBuffer, List.take_take, Nat.min_self]

/-- A field is read at the width of its record type. -/
theorem FieldValue.read_reads (ty : RecordType) : ReadsFront ty.size (FieldValue.read ty) := by
  cases ty with
  | char => exact takeBuffer_reads.map FieldValue.buffer
  | s32 => exact takeI32_reads.map FieldValue.s32
  | u32 => exact takeU32_reads.map FieldValue.u32
  | s64 => exact takeI64_reads.map FieldValue.s64
  | u64 => exact takeU64_reads.map FieldValue.u64

/-- The fields of a record depend only on as many bytes as their widths add up to. -/
theorem readValues_take (tys : List RecordType) (bs : List UInt8) :
    readValues tys (bs.take (tys.map (·.size)).sum) = readValues tys bs := by
  induction tys generalizing bs with
  | nil => rfl
  | cons ty tys ih =>
    have hfirst := (FieldValue.read_reads ty).take
      (n := ty.size + (tys.map (·.size)).sum) (Nat.le_add_right _ _) bs
    rw [List.map_cons, List.sum_cons]
    show (FieldValue.read ty (bs.take _)).1 :: readValues tys (FieldValue.read ty (bs.take _)).2 =
      (FieldValue.read ty bs).1 :: readValues tys (FieldValue.read ty bs).2
    rw [hfirst, Nat.add_sub_cancel_left, ih]

/-! ## Each decoder in closed form -/

/-- The payload of a syscall: its fields at their record widths, once the payload holds them. -/
theorem SyscallLayout.readPayload_eq (l : SyscallLayout) (payload : List UInt8) :
    l.readPayload payload =
      if payload.length < l.payloadSize then
        .error (.truncatedPayload l.decoder.rawName l.payloadSize payload.length)
      else .ok (readValues (l.kernel.params.map (·.ty)) payload) := by
  unfold SyscallLayout.readPayload ensurePayload
  split_ifs <;> rfl

/-- A syscall payload is read only up to its size. -/
theorem SyscallLayout.readPayload_take (l : SyscallLayout) {payload : List UInt8}
    (h : l.payloadSize ≤ payload.length) :
    l.readPayload (payload.take l.payloadSize) = l.readPayload payload := by
  have hfields := readValues_take (l.kernel.params.map (·.ty)) payload
  rw [List.map_map] at hfields
  rw [readPayload_eq, readPayload_eq, List.length_take_of_le h, if_neg (Nat.lt_irrefl _),
    if_neg (Nat.not_lt.2 h)]
  exact congrArg Except.ok hfields

/-- An install payload: four 64-bit words, once the payload holds them. -/
theorem readFilePayload_eq (payload : List UInt8) :
    readFilePayload payload =
      if payload.length < filePayloadSize then
        .error (.truncatedPayload fdInstallName filePayloadSize payload.length)
      else .ok ((takeU64 payload).1, (takeU64 (payload.drop 8)).1,
        (takeU64 ((payload.drop 8).drop 8)).1, (takeU64 (((payload.drop 8).drop 8).drop 8)).1) := by
  unfold readFilePayload ensurePayload
  split_ifs <;> rfl

/-- An install payload is read only up to its size. -/
theorem readFilePayload_take {payload : List UInt8} (h : filePayloadSize ≤ payload.length) :
    readFilePayload (payload.take filePayloadSize) = readFilePayload payload := by
  rw [readFilePayload_eq, readFilePayload_eq, List.length_take_of_le h, if_neg (Nat.lt_irrefl _),
    if_neg (Nat.not_lt.2 h)]
  simp (disch := omega) only [filePayloadSize, List.drop_drop, List.drop_take,
    takeU64_reads.fst_take]

/-- An IPv4 connection payload: two addresses, two ports and a namespace, once the payload
holds them. -/
theorem ConnectV4.decode_eq (kind : String) (payload : List UInt8) :
    ConnectV4.decode kind payload =
      if payload.length < v4PayloadSize then
        .error (.truncatedPayload kind v4PayloadSize payload.length)
      else .ok ⟨kind, (takeU32 payload).1, (takeU32 (payload.drop 4)).1,
        (takeU16 ((payload.drop 4).drop 4)).1, (takeU16 (((payload.drop 4).drop 4).drop 2)).1,
        (takeU32 ((((payload.drop 4).drop 4).drop 2).drop 2)).1⟩ := by
  unfold ConnectV4.decode ensurePayload
  split_ifs <;> rfl

theorem ConnectV4.decode_take (kind : String) {payload : List UInt8}
    (h : v4PayloadSize ≤ payload.length) :
    ConnectV4.decode kind (payload.take v4PayloadSize) = ConnectV4.decode kind payload := by
  rw [decode_eq, decode_eq, List.length_take_of_le h, if_neg (Nat.lt_irrefl _),
    if_neg (Nat.not_lt.2 h)]
  simp (disch := omega) only [v4PayloadSize, List.drop_drop, List.drop_take,
    takeU16_reads.fst_take, takeU32_reads.fst_take]

/-- An IPv6 connection payload: two sixteen-byte addresses, two ports and a namespace, once the
payload holds them. -/
theorem ConnectV6.decode_eq (kind : String) (payload : List UInt8) :
    ConnectV6.decode kind payload =
      if payload.length < v6PayloadSize then
        .error (.truncatedPayload kind v6PayloadSize payload.length)
      else .ok ⟨kind, payload.take 16, (payload.drop 16).take 16, (takeU16 (payload.drop 32)).1,
        (takeU16 ((payload.drop 32).drop 2)).1, (takeU32 (((payload.drop 32).drop 2).drop 2)).1⟩ := by
  unfold ConnectV6.decode ensurePayload
  split_ifs <;> rfl

theorem ConnectV6.decode_take (kind : String) {payload : List UInt8}
    (h : v6PayloadSize ≤ payload.length) :
    ConnectV6.decode kind (payload.take v6PayloadSize) = ConnectV6.decode kind payload := by
  rw [decode_eq, decode_eq, List.length_take_of_le h, if_neg (Nat.lt_irrefl _),
    if_neg (Nat.not_lt.2 h)]
  simp (disch := omega) only [v6PayloadSize, List.drop_drop, List.drop_take, List.take_take,
    Nat.min_eq_left, takeU16_reads.fst_take, takeU32_reads.fst_take]

/-- The header: three 64-bit words and the name field, once the buffer holds them. -/
theorem Header.decode_eq (buf : List UInt8) :
    Header.decode buf =
      if buf.length < headerSize then .error (.truncatedHeader buf.length)
      else .ok (⟨(takeU64 buf).1, (takeI64 (buf.drop 8)).1, (takeI64 ((buf.drop 8).drop 8)).1,
        Text.Utf8.decodeLossy (cString ((((buf.drop 8).drop 8).drop 8).take nameFieldSize))⟩,
        (((buf.drop 8).drop 8).drop 8).drop nameFieldSize) := by
  unfold Header.decode
  split_ifs <;> rfl

end SyscallTrace.Event
