import SyscallTrace.Schema.Basic

/-!
# Aligned schema sets

The generators trust that the three views of a schema set describe the same syscalls with the
same fields, in the same order and at compatible widths; `checkAligned` is the only guard.
It looks, in order, for

* an empty set (judged on the decoder view);
* views of different lengths;
* then, syscall by syscall: a kernel or wire view of another syscall, a different number of
  fields, and then field by field: a field whose position is not its index, fields of
  different names, a decoder type that differs from the record type in size, buffer-ness or
  (for numbers) sign, and a number field whose wire type is variable-length or narrower.

The first fault found is the answer.
-/

set_option autoImplicit false

namespace SyscallTrace.Codegen

open SyscallTrace.Schema

/-- The first way in which a schema set is not aligned. -/
inductive Misalignment where
  | empty
  | lengths (decoder kernel wire : Nat)
  | outOfOrder (syscall kernel wire : String)
  | fieldCount (syscall : String)
  | outOfPosition (syscall field : String)
  | fieldNames (syscall : String) (position : Nat) (decoder kernel wire : String)
  | recordType (syscall field : String) (decoder : DecoderType) (record : RecordType)
  | wireType (syscall field : String) (wire : WireType) (decoder : DecoderType)
  deriving DecidableEq, Repr

/-- The text of a misalignment. -/
def Misalignment.message : Misalignment → String
  | .empty => "no syscalls to generate"
  | .lengths d k w =>
    "schema variants disagree on the number of syscalls (" ++ toString d ++ " decoder, " ++
      toString k ++ " kernel, " ++ toString w ++ " wire)"
  | .outOfOrder s k w => "schema variants out of order: " ++ s ++ " / " ++ k ++ " / " ++ w
  | .fieldCount s => s ++ ": schema variants disagree on the number of fields"
  | .outOfPosition s f => s ++ "." ++ f ++ ": field is out of position"
  | .fieldNames s p d k w =>
    s ++ ": field " ++ toString p ++ " is " ++ d ++ " / " ++ k ++ " / " ++ w
  | .recordType s f d k =>
    s ++ "." ++ f ++ ": decoder type " ++ d.name ++ " does not match kernel record type " ++ k.name
  | .wireType s f w d => s ++ "." ++ f ++ ": wire type " ++ w.name ++ " cannot hold " ++ d.name

/-- A decoder type and a record type agree in size, buffer-ness and, for numbers, sign. -/
def recordCompatible (d : DecoderType) (k : RecordType) : Bool :=
  d.size == k.size && d.isBuffer == k.isBuffer && (d.isBuffer || d.isSigned == k.isSigned)

/-- A wire type can carry a decoder type: buffers go anywhere, numbers need a fixed size at
least as large. -/
def wireCompatible (d : DecoderType) (w : WireType) : Bool :=
  d.isBuffer || (match w.size? with
    | some n => decide (d.size ≤ n)
    | none => false)

/-- The first fault among the fields of one syscall, from index `index` on. -/
def checkFields (syscall : String) (index : Nat) :
    List (Param DecoderType) → List (Param RecordType) → List (Param WireType) →
      Except Misalignment Unit
  | d :: ds, k :: ks, w :: ws =>
    if !(d.position == index && k.position == index && w.position == index) then
      .error (.outOfPosition syscall d.rawName)
    else if !(d.rawName == k.rawName && d.rawName == w.rawName) then
      .error (.fieldNames syscall index d.rawName k.rawName w.rawName)
    else if !recordCompatible d.ty k.ty then
      .error (.recordType syscall d.rawName d.ty k.ty)
    else if !wireCompatible d.ty w.ty then
      .error (.wireType syscall d.rawName w.ty d.ty)
    else checkFields syscall (index + 1) ds ks ws
  | _, _, _ => .ok ()

/-- The first fault of one syscall's three views. -/
def checkSyscall (d : Syscall DecoderType) (k : Syscall RecordType) (w : Syscall WireType) :
    Except Misalignment Unit :=
  if k.rawName != d.rawName || w.rawName != d.rawName then
    .error (.outOfOrder d.rawName k.rawName w.rawName)
  else if !(d.params.length == k.params.length && d.params.length == w.params.length) then
    .error (.fieldCount d.rawName)
  else checkFields d.rawName 0 d.params k.params w.params

/-- The first fault among syscalls taken side by side. -/
def checkSyscalls :
    List (Syscall DecoderType) → List (Syscall RecordType) → List (Syscall WireType) →
      Except Misalignment Unit
  | d :: ds, k :: ks, w :: ws =>
    match checkSyscall d k w with
    | .error e => .error e
    | .ok () => checkSyscalls ds ks ws
  | _, _, _ => .ok ()

/-- Checks that the three views of a schema set agree; the first fault is the error. -/
def checkAligned (s : SchemaSet) : Except Misalignment Unit :=
  if s.isEmpty then .error .empty
  else if !(s.decoder.length == s.kernel.length && s.decoder.length == s.wire.length) then
    .error (.lengths s.decoder.length s.kernel.length s.wire.length)
  else checkSyscalls s.decoder s.kernel s.wire

end SyscallTrace.Codegen
