import SyscallTrace.Schema.FieldType
import SyscallTrace.Schema.Camel

/-!
# Syscall schemas

A compiled syscall is seen three times, once per representation of its fields: by the decoder,
by the kernel record and by the wire message. Each view lists the same parameters in the same
order, differing only in the type each parameter is given. A schema set holds the three lists
of views side by side; index `i` of each list is meant to describe the same syscall.
-/

set_option autoImplicit false

namespace SyscallTrace.Schema

/-- How the byte buffers of a syscall become text. -/
inductive BufferPolicy where
  /-- A C string: it ends at the first NUL byte. -/
  | nulTerminated
  /-- The return value counts the valid bytes. -/
  | returnBounded
  deriving DecidableEq, Repr

/-- The name of a buffer policy in schemas. -/
def BufferPolicy.name : BufferPolicy → String
  | .nulTerminated => "NulTerminated"
  | .returnBounded => "ReturnBounded"

/-- The buffer policy of a name given by `BufferPolicy.name`. -/
def BufferPolicy.ofName? : String → Option BufferPolicy
  | "NulTerminated" => some .nulTerminated
  | "ReturnBounded" => some .returnBounded
  | _ => none

/-- One argument of a syscall, with its field type in some representation `τ`. -/
structure Param (τ : Type) where
  /-- Index among the syscall's arguments. -/
  position : Nat
  /-- Camel-case name, such as `Fd`. -/
  name : String
  /-- The field name as the kernel spells it, such as `fd`. -/
  rawName : String
  /-- The C type of the field. -/
  kernelType : String
  ty : τ
  /-- Whether the field is a descriptor whose path is looked up. -/
  needsPath : Bool
  deriving DecidableEq, Repr

/-- One syscall as one representation sees it. -/
structure Syscall (τ : Type) where
  /-- The name of the type the syscall becomes, such as `OpenEvent`. -/
  name : String
  /-- The kernel event name, such as `open`. -/
  rawName : String
  bufferPolicy : BufferPolicy
  params : List (Param τ)
  deriving DecidableEq, Repr

/-- The camel-case syscall name without decoration, such as `Fchownat`. -/
def Syscall.camelName {τ : Type} (s : Syscall τ) : String :=
  camelCase s.rawName

/-- The three views of every compiled syscall, side by side. -/
structure SchemaSet where
  decoder : List (Syscall DecoderType)
  kernel : List (Syscall RecordType)
  wire : List (Syscall WireType)
  deriving DecidableEq, Repr

namespace SchemaSet

/-- The set with no syscall. -/
def empty : SchemaSet := ⟨[], [], []⟩

/-- The number of syscalls, counted on the decoder view. -/
def len (s : SchemaSet) : Nat := s.decoder.length

/-- No syscall, judged on the decoder view. -/
def isEmpty (s : SchemaSet) : Bool := s.decoder.isEmpty

/-- Appends the three views of one more syscall. -/
def push (s : SchemaSet) (d : Syscall DecoderType) (k : Syscall RecordType)
    (w : Syscall WireType) : SchemaSet :=
  ⟨s.decoder ++ [d], s.kernel ++ [k], s.wire ++ [w]⟩

end SchemaSet

end SyscallTrace.Schema
