import SyscallTrace.Schema.Basic
import SyscallTrace.Schema.FieldLine
import SyscallTrace.Text.Quoted

/-!
# Compiling a format description

A tracepoint format starts with a header (its name, id and the fields every event shares) that
ends at the first empty line. From that line on, each field line declares one argument, except
the syscall number `__syscall_nr`; lines that do not start with `field:` after their blanks are
ignored. Each declared field is looked up in the decoder table, then in the record table, and
its decoder type in the wire table; the first line that fails stops the compilation.

A compiled syscall named `n` becomes `NEvent` for the decoder, `NRecord` for the kernel record
and `ProtobufNEvent` for the wire, with `N` the camel-case form of `n`; its buffers are bounded
by the return value for `read` and `write` and end at a NUL byte otherwise.

Compiling fails in two ways: a field line whose shape is not a field declaration, or a type
that a type table does not know.
-/

set_option autoImplicit false

namespace SyscallTrace.Schema

open SyscallTrace.Text

/-! ## Errors -/

/-- The type table a lookup went to. -/
inductive TypeTable where
  | decoder
  | kernelRecord
  | wire
  deriving DecidableEq, Repr

/-- The name of a type table in messages. -/
def TypeTable.label : TypeTable → String
  | .decoder => "decoder"
  | .kernelRecord => "kernel record"
  | .wire => "wire"

/-- Why a format description does not compile. -/
inductive SchemaError where
  /-- The field `field` of `syscall` has a C type that `table` does not know. -/
  | unmappedType (table : TypeTable) (kernelType syscall field : String)
  /-- A line that starts like a field declaration but is not one. -/
  | malformedLine (syscall line : String)
  deriving DecidableEq, Repr

/-- The text of a schema error. -/
def SchemaError.message : SchemaError → String
  | .unmappedType table kernelType syscall field =>
    "no " ++ table.label ++ " mapping for kernel type " ++ quote kernelType ++ " (" ++
      syscall ++ "." ++ field ++ ")"
  | .malformedLine syscall line =>
    "malformed field line in the " ++ syscall ++ " format: " ++ quote line

/-! ## Compiling -/

/-- Syscalls whose return value is the number of valid bytes in their buffers. -/
def returnBoundedSyscalls : List String := ["read", "write"]

/-- The field every syscall tracepoint carries and no syscall event keeps. -/
def syscallNumberField : String := "__syscall_nr"

/-- The three views of one compiled argument. -/
abbrev ParamViews := Param DecoderType × Param RecordType × Param WireType

/-- The three views of one compiled syscall. -/
abbrev SyscallViews := Syscall DecoderType × Syscall RecordType × Syscall WireType

/-- The argument a line declares, at `position`: `none` for a line that declares none. -/
def compileLine (syscall : String) (line : List Char) (position : Nat) :
    Except SchemaError (Option ParamViews) :=
  if !startsField line then .ok none
  else
    match fieldDeclaration? line with
    | none => .error (.malformedLine syscall (String.ofList line))
    | some (cType, rawName) =>
      if rawName = syscallNumberField then .ok none
      else
        match DecoderType.ofKernel? cType with
        | none => .error (.unmappedType .decoder cType syscall rawName)
        | some d =>
          match RecordType.ofKernel? cType with
          | none => .error (.unmappedType .kernelRecord cType syscall rawName)
          | some k =>
            match WireType.ofDecoder? d with
            | none => .error (.unmappedType .wire cType syscall rawName)
            | some w =>
              let name := camelCase rawName
              let needsPath := name == "Fd" || name == "Dfd"
              let view := fun {τ : Type} (ty : τ) =>
                ({ position, name, rawName, kernelType := cType, ty, needsPath } : Param τ)
              .ok (some (view d, view k, view w))

/-- The arguments declared by `lines`, appended to those already found. -/
def compileLines (syscall : String) :
    List (List Char) → List ParamViews → Except SchemaError (List ParamViews)
  | [], found => .ok found
  | line :: rest, found =>
    match compileLine syscall line found.length with
    | .error e => .error e
    | .ok none => compileLines syscall rest found
    | .ok (some p) => compileLines syscall rest (found ++ [p])

/-- The lines that follow the header: from the first empty line on. -/
def bodyLines (format : String) : List (List Char) :=
  (lines format.toList).dropWhile fun l => !l.isEmpty

/-- The buffer policy of a syscall name. -/
def bufferPolicyOf (name : String) : BufferPolicy :=
  if name ∈ returnBoundedSyscalls then .returnBounded else .nulTerminated

/-- Compiles the format description of syscall `name` into its three views. -/
def compileSyscall (name : String) (format : String) : Except SchemaError SyscallViews :=
  match compileLines name (bodyLines format) [] with
  | .error e => .error e
  | .ok params =>
    let camel := camelCase name
    let policy := bufferPolicyOf name
    .ok (⟨camel ++ "Event", name, policy, params.map (·.1)⟩,
      ⟨camel ++ "Record", name, policy, params.map (·.2.1)⟩,
      ⟨"Protobuf" ++ camel ++ "Event", name, policy, params.map (·.2.2)⟩)

/-- Compiles `(name, format)` pairs in order onto `acc`; the first error stops. -/
def compileOnto (acc : SchemaSet) : List (String × String) → Except SchemaError SchemaSet
  | [] => .ok acc
  | (name, format) :: rest =>
    match compileSyscall name format with
    | .error e => .error e
    | .ok (d, k, w) => compileOnto (acc.push d k w) rest

/-- The schema set of `(name, format)` pairs, in the given order. -/
def compileAll (pairs : List (String × String)) : Except SchemaError SchemaSet :=
  compileOnto SchemaSet.empty pairs

end SyscallTrace.Schema
