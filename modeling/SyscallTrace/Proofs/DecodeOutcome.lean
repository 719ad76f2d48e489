import Mathlib
import SyscallTrace.Proofs.Readers

/-!
# What decoding a buffer gives, by its length

A buffer is the 88-byte header followed by the payload of the event the header's name picks.
Decoding fails in exactly two ways: the header is cut short, or the payload is shorter than the
event's fields add up to; otherwise it succeeds, and an event with no decoder needs no payload.
The sizes the decoders check are stated here afresh as sums of field widths (`Route.payloadSize`),
so that a size constant which disagreed with the fields it guards would show.

Every read stays inside the bytes the checks guarantee: decoding a buffer cut right after its
event's payload gives what decoding the whole buffer gives, so no byte past that point is read.

## Results

* `parsePayload_checks`: every decoder checks the payload's size before it reads, so a payload
  fails exactly when it is shorter than its event needs.
* `parsePayload_take`: a payload is read only up to its event's size.
* `Header.decode_take`: the header is read only from its own 88 bytes.
* `decodeBuffer_error_iff`, `decodeBuffer_ok_iff`: the outcome of decoding, by length alone.
* `decodeBuffer_outcome`: the errors, success and the bytes decoding reads, together.
-/

set_option autoImplicit false

namespace SyscallTrace.Event

open SyscallTrace.Bytes SyscallTrace.Schema SyscallTrace.Descriptor

/-! ## The size each decoder needs -/

/-- Bytes of payload the event needs: the sum of its field widths, for a descriptor install
those of its descriptor, inode, major and minor, for a connection those of its two addresses,
two ports and namespace. -/
def Route.payloadSize : Route → Nat
  | .syscall l => (l.kernel.params.map (·.ty.size)).sum
  | .file => 8 + 8 + 8 + 8
  | .connectV4 _ => 4 + 4 + 2 + 2 + 4
  | .connectV6 _ => 16 + 16 + 2 + 2 + 4
  | .other => 0

/-- The name an event's errors carry. -/
def Route.name : Route → String
  | .syscall l => l.decoder.rawName
  | .file => fdInstallName
  | .connectV4 kind => kind
  | .connectV6 kind => kind
  | .other => otherName

/-! Each decoder checks for exactly the bytes its fields take. -/

@[simp] theorem Route.payloadSize_syscall (l : SyscallLayout) :
    (Route.syscall l).payloadSize = l.payloadSize := rfl

@[simp] theorem Route.payloadSize_file : Route.file.payloadSize = filePayloadSize := rfl

@[simp] theorem Route.payloadSize_connectV4 (kind : String) :
    (Route.connectV4 kind).payloadSize = v4PayloadSize := rfl

@[simp] theorem Route.payloadSize_connectV6 (kind : String) :
    (Route.connectV6 kind).payloadSize = v6PayloadSize := rfl

@[simp] theorem Route.payloadSize_other : Route.other.payloadSize = 0 := rfl

/-! ## Reading a payload -/

section Payload

variable (layouts : List SyscallLayout) (name : String) (payload : List UInt8)

theorem exists_map_checked {α β : Type} (c : Prop) [Decidable c] (e : DecodeError) (x : α)
    (f : α → β) :
    ∃ d, Except.map f (if c then .error e else .ok x) = if c then .error e else .ok d := by
  refine ⟨f x, ?_⟩
  by_cases hc : c
  · rw [if_pos hc, if_pos hc]
    rfl
  · rw [if_neg hc, if_neg hc]
    rfl

/-- Every decoder checks the payload's size before it reads: a payload shorter than its event
needs fails, naming the event and both sizes, and any other is read. -/
theorem parsePayload_checks :
    ∃ d, parsePayload layouts name payload =
      if payload.length < (route layouts name).payloadSize then
        .error (.truncatedPayload (route layouts name).name (route layouts name).payloadSize
          payload.length)
      else .ok d := by
  unfold parsePayload
  cases route layouts name with
  | syscall l =>
    dsimp only
    rw [Route.payloadSize_syscall, SyscallLayout.readPayload_eq]
    exact exists_map_checked _ _ _ _
  | file =>
    dsimp only
    rw [Route.payloadSize_file, readFilePayload_eq]
    exact exists_map_checked _ _ _ _
  | connectV4 kind =>
    dsimp only
    rw [Route.payloadSize_connectV4, ConnectV4.decode_eq]
    exact exists_map_checked _ _ _ _
  | connectV6 kind =>
    dsimp only
    rw [Route.payloadSize_connectV6, ConnectV6.decode_eq]
    exact exists_map_checked _ _ _ _
  | other =>
    refine ⟨.ready .other, ?_⟩
    rw [Route.payloadSize_other, if_neg (Nat.not_lt_zero _)]

theorem parsePayload_of_lt (h : payload.length < (route layouts name).payloadSize) :
    parsePayload layouts name payload =
      .error (.truncatedPayload (route layouts name).name (route layouts name).payloadSize
        payload.length) := by
  obtain ⟨d, hd⟩ := parsePayload_checks layouts name payload
  rw [hd, if_pos h]

theorem parsePayload_ok_of_le (h : (route layouts name).payloadSize ≤ payload.length) :
    ∃ d, parsePayload layouts name payload = .ok d := by
  obtain ⟨d, hd⟩ := parsePayload_checks layouts name payload
  exact ⟨d, by rw [hd, if_neg (Nat.not_lt.2 h)]⟩

/-- A payload is read only up to its event's size: the bytes after it change nothing. -/
theorem parsePayload_take (h : (route layouts name).payloadSize ≤ payload.length) :
    parsePayload layouts name (payload.take (route layouts name).payloadSize) =
      parsePayload layouts name payload := by
  revert h
  unfold parsePayload
  cases route layouts name with
  | syscall l => exact fun h => congrArg (Except.map _) (SyscallLayout.readPayload_take l h)
  | file => exact fun h => congrArg (Except.map _) (readFilePayload_take h)
  | connectV4 kind => exact fun h => congrArg (Except.map _) (ConnectV4.decode_take kind h)
  | connectV6 kind => exact fun h => congrArg (Except.map _) (ConnectV6.decode_take kind h)
  | other => exact fun _ => rfl

end Payload

/-! ## Reading the header -/

/-- The event name the header of `buf` carries, read as `Header.decode` reads it. -/
def headerName (buf : List UInt8) : String :=
  Text.Utf8.decodeLossy (cString ((buf.drop 24).take nameFieldSize))

/-- The decoder the header of `buf` picks. -/
def eventRoute (buf : List UInt8) : Route :=
  route bundledLayouts (headerName buf)

theorem Header.decode_of_le {buf : List UInt8} (h : headerSize ≤ buf.length) :
    Header.decode buf =
      .ok (⟨(takeU64 buf).1, (takeI64 (buf.drop 8)).1, (takeI64 (buf.drop 16)).1, headerName buf⟩,
        buf.drop headerSize) := by
  rw [Header.decode_eq, if_neg (Nat.not_lt.2 h)]
  simp only [List.drop_drop]
  rfl

/-- The header is read from its own 88 bytes: cut later, a buffer gives the same header and the
cut payload. -/
theorem Header.decode_take (buf : List UInt8) {n : Nat} (hn : headerSize ≤ n) :
    Header.decode (buf.take n) =
      (Header.decode buf).map fun (hd, rest) => (hd, rest.take (n - headerSize)) := by
  by_cases hb : buf.length < headerSize
  · rw [List.take_of_length_le (by omega)]
    rw [Header.decode_eq, if_pos hb]
    rfl
  · have hlen : headerSize ≤ (buf.take n).length := by
      rw [List.length_take]
      omega
    rw [Header.decode_of_le hlen, Header.decode_of_le (Nat.not_lt.1 hb)]
    simp only [headerSize, nameFieldSize, headerName] at hn ⊢
    simp (disch := omega) only [List.drop_take, List.take_take, Nat.min_eq_left,
      takeU64_reads.fst_take, takeI64_reads.fst_take]
    rfl

/-! ## Decoding a buffer -/

theorem parse_of_le {buf : List UInt8} (h : headerSize ≤ buf.length) :
    parse buf =
      (parsePayload bundledLayouts (headerName buf) (buf.drop headerSize)).map
        ((⟨(takeU64 buf).1, (takeI64 (buf.drop 8)).1, (takeI64 (buf.drop 16)).1, headerName buf⟩ :
          Header), ·) := by
  unfold parse
  rw [Header.decode_of_le h]

/-- Cut anywhere after the header and its event's payload, a buffer parses as it did whole. -/
theorem parse_take_of_le (buf : List UInt8) {n : Nat} (hh : headerSize ≤ n) (hn : n ≤ buf.length)
    (hS : (route bundledLayouts (headerName buf)).payloadSize ≤ n - headerSize) :
    parse (buf.take n) = parse buf := by
  have hcut : (route bundledLayouts (headerName buf)).payloadSize ≤
      ((buf.drop headerSize).take (n - headerSize)).length := by
    rw [List.length_take, List.length_drop]
    omega
  have hwhole : (route bundledLayouts (headerName buf)).payloadSize ≤
      (buf.drop headerSize).length := by
    rw [List.length_drop]
    omega
  unfold parse
  rw [Header.decode_take buf hh, Header.decode_of_le (by omega)]
  show (parsePayload bundledLayouts (headerName buf)
      ((buf.drop headerSize).take (n - headerSize))).map _ =
    (parsePayload bundledLayouts (headerName buf) (buf.drop headerSize)).map _
  rw [← parsePayload_take _ _ _ hcut, List.take_take, Nat.min_eq_left hS,
    parsePayload_take _ _ _ hwhole]

/-- Parsing reads no byte past the event's payload. -/
theorem parse_take (buf : List UInt8) :
    parse (buf.take (headerSize + (eventRoute buf).payloadSize)) = parse buf := by
  by_cases hb : headerSize + (eventRoute buf).payloadSize ≤ buf.length
  · exact parse_take_of_le buf (Nat.le_add_right _ _) hb (by unfold eventRoute at hb ⊢; omega)
  · rw [List.take_of_length_le (by omega)]

theorem decodeBuffer_congr (ctx : Context) {buf buf' : List UInt8} (h : parse buf' = parse buf) :
    decodeBuffer ctx buf' = decodeBuffer ctx buf := by
  unfold decodeBuffer
  rw [h]

section Outcome

variable (ctx : Context) (buf : List UInt8)

theorem decodeBuffer_fst_error_iff (e : DecodeError) :
    (decodeBuffer ctx buf).1 = .error e ↔ parse buf = .error e := by
  unfold decodeBuffer
  cases parse buf with
  | error e' => simp only [Except.error.injEq]
  | ok p => simp only [reduceCtorEq]

theorem decodeBuffer_fst_ok_iff :
    (∃ d, (decodeBuffer ctx buf).1 = .ok d) ↔ ∃ p, parse buf = .ok p := by
  unfold decodeBuffer
  cases parse buf with
  | error e => simp only [reduceCtorEq, exists_false]
  | ok p => exact iff_of_true ⟨_, rfl⟩ ⟨p, rfl⟩

/-- The errors decoding gives are exactly these: the header cut short, or a payload shorter than
the event it names needs. -/
theorem decodeBuffer_error_iff (e : DecodeError) :
    (decodeBuffer ctx buf).1 = .error e ↔
      (buf.length < headerSize ∧ e = .truncatedHeader buf.length) ∨
        (headerSize ≤ buf.length ∧ buf.length - headerSize < (eventRoute buf).payloadSize ∧
          e = .truncatedPayload (eventRoute buf).name (eventRoute buf).payloadSize
            (buf.length - headerSize)) := by
  rw [decodeBuffer_fst_error_iff]
  rcases Nat.lt_or_ge buf.length headerSize with hh | hh
  · -- the header is cut short
    rw [parse_short buf hh, Except.error.injEq]
    constructor
    · rintro rfl
      exact .inl ⟨hh, rfl⟩
    · rintro (⟨-, rfl⟩ | ⟨hh', -⟩)
      · rfl
      · omega
  · have hlen : (buf.drop headerSize).length = buf.length - headerSize := List.length_drop
    rw [parse_of_le hh]
    rcases Nat.lt_or_ge (buf.length - headerSize) (eventRoute buf).payloadSize with hp | hp
    · -- the payload is cut short
      rw [parsePayload_of_lt _ _ _ (hlen ▸ hp), hlen]
      constructor
      · rintro ⟨⟩
        exact .inr ⟨hh, hp, rfl⟩
      · rintro (⟨hh', -⟩ | ⟨-, -, rfl⟩)
        · omega
        · rfl
    · -- the payload holds its fields
      obtain ⟨d, hd⟩ := parsePayload_ok_of_le _ _ _ (hlen ▸ hp)
      rw [hd]
      constructor
      · rintro ⟨⟩
      · rintro (⟨hh', -⟩ | ⟨-, hp', -⟩) <;> omega

/-- Decoding succeeds exactly when the buffer holds the header and its event's payload. -/
theorem decodeBuffer_ok_iff :
    (∃ d, (decodeBuffer ctx buf).1 = .ok d) ↔
      headerSize + (eventRoute buf).payloadSize ≤ buf.length := by
  rw [decodeBuffer_fst_ok_iff]
  constructor
  · rintro ⟨p, hp⟩
    by_contra hlt
    rcases Nat.lt_or_ge buf.length headerSize with hh | hh
    · rw [parse_short buf hh] at hp
      cases hp
    · have hshort : (buf.drop headerSize).length < (eventRoute buf).payloadSize := by
        rw [List.length_drop]
        omega
      rw [parse_of_le hh, parsePayload_of_lt _ _ _ hshort] at hp
      cases hp
  · intro hb
    have hpay : (eventRoute buf).payloadSize ≤ (buf.drop headerSize).length := by
      rw [List.length_drop]
      omega
    obtain ⟨d, hd⟩ := parsePayload_ok_of_le _ _ _ hpay
    rw [parse_of_le (by omega), hd]
    exact ⟨_, rfl⟩

/-- Decoding reads no byte past the event's payload, whatever the context. -/
theorem decodeBuffer_take :
    decodeBuffer ctx (buf.take (headerSize + (eventRoute buf).payloadSize)) =
      decodeBuffer ctx buf :=
  decodeBuffer_congr ctx (parse_take buf)

/-- Decoding a buffer against any table fails with the header cut short exactly when the buffer
is shorter than the header; with the payload cut short, naming the event, the size it needs and
the size it got, exactly when the header picks an event with a decoder whose fields the rest
does not hold; and succeeds otherwise. No read goes past the event's payload. -/
theorem decodeBuffer_outcome :
    ((decodeBuffer ctx buf).1 = .error (.truncatedHeader buf.length) ↔
        buf.length < headerSize) ∧
      ((decodeBuffer ctx buf).1 = .error (.truncatedPayload (eventRoute buf).name
          (eventRoute buf).payloadSize (buf.length - headerSize)) ↔
        headerSize ≤ buf.length ∧ eventRoute buf ≠ .other ∧
          buf.length - headerSize < (eventRoute buf).payloadSize) ∧
      ((∃ d, (decodeBuffer ctx buf).1 = .ok d) ↔
        headerSize + (eventRoute buf).payloadSize ≤ buf.length) ∧
      decodeBuffer ctx (buf.take (headerSize + (eventRoute buf).payloadSize)) =
        decodeBuffer ctx buf := by
  refine ⟨?_, ?_, decodeBuffer_ok_iff ctx buf, decodeBuffer_take ctx buf⟩
  · rw [decodeBuffer_error_iff]
    simp only [and_true, reduceCtorEq, and_false, or_false]
  · rw [decodeBuffer_error_iff]
    simp only [reduceCtorEq, and_false, and_true, false_or]
    constructor
    · rintro ⟨hh, hp⟩
      refine ⟨hh, fun ho => ?_, hp⟩
      rw [ho, Route.payloadSize_other] at hp
      exact Nat.not_lt_zero _ hp
    · rintro ⟨hh, -, hp⟩
      exact ⟨hh, hp⟩

end Outcome

end SyscallTrace.Event
