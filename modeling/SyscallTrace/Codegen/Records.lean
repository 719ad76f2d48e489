import SyscallTrace.Codegen.Decoder

/-!
# Generated kernel records

For each syscall the records source declares the packed record the probe writes: the common
event header followed by the fields at their record types, with the payload size and an
assertion that the record's size is the header's plus the payload's.
-/

set_option autoImplicit false

namespace SyscallTrace.Codegen

open SyscallTrace.Schema SyscallTrace.Text

/-- The type of a record field. -/
def recordTypeText : RecordType → String
  | .char => "[u8; MAX_BUFFER_SIZE]"
  | .s32 => "i32"
  | .u32 => "u32"
  | .s64 => "i64"
  | .u64 => "u64"

/-- The fields of a record after the common header, with their types. -/
def recordFields (k : Syscall RecordType) : List (String × RecordType) :=
  k.params.map fun p => (ident p.rawName, p.ty)

/-- The record of one syscall. -/
def recordLines (k : Syscall RecordType) : List String :=
  ["", "/// Record written for `" ++ k.rawName ++ "`.", "#[repr(C, packed)]",
    "#[derive(Clone, Copy)]", "pub struct " ++ k.name ++ " \x7b", "    pub common: CommonEvent,"] ++
  (recordFields k).map (fun f => fieldDeclLine f.1 (recordTypeText f.2)) ++
  ["\x7d", "", "impl " ++ k.name ++ " \x7b",
    "    pub const NAME: &'static str = " ++ quote k.rawName ++ ";",
    payloadSizeLine (payloadSize k),
    "\x7d", "", "const _: () = assert!(",
    "    core::mem::size_of::<" ++ k.name ++ ">() == COMMON_EVENT_SIZE + " ++ k.name ++
      "::PAYLOAD_SIZE",
    ");"]

/-- The lines of the records source of a schema set. -/
def recordsLines (s : SchemaSet) : List String :=
  banner ++ ["", "pub const GENERATED_BUFFER_SIZE: usize = " ++ toString bufferSize ++ ";"] ++
    s.kernel.flatMap recordLines

/-- The records source, or the first misalignment of the set. -/
def generateRecords (s : SchemaSet) : Except Misalignment String :=
  match checkAligned s with
  | .error e => .error e
  | .ok () => .ok (render (recordsLines s))

end SyscallTrace.Codegen
