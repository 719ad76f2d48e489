import SyscallTrace.Codegen.Records
import SyscallTrace.Codegen.Wire
import SyscallTrace.Schema.Directory

/-!
# Generated artifacts

The four generated texts of a schema set: decoder events, kernel records, plain wire structs
and the `.proto` definition. Each generator checks alignment first, so all four succeed or
fail together, with the same misalignment.

Building compiles the syscalls of a tracepoint directory and generates the four texts from
them. A failure to generate is reported with the directory it came from.
-/

set_option autoImplicit false

namespace SyscallTrace.Codegen

open SyscallTrace.Schema

/-- One of the generated texts. -/
inductive Target where
  | decoder
  | records
  | wire
  | proto
  deriving DecidableEq, Repr

namespace Target

/-- The name of a target. -/
def name : Target → String
  | .decoder => "decoder"
  | .records => "records"
  | .wire => "wire"
  | .proto => "proto"

/-- Every target, in the order they are generated. -/
def all : List Target := [.decoder, .records, .wire, .proto]

/-- The target of a name given by `name`. -/
def ofName? (s : String) : Option Target :=
  all.find? (·.name == s)

/-- Generates the text of one target. -/
def generate : Target → SchemaSet → Except Misalignment String
  | .decoder => generateDecoder
  | .records => generateRecords
  | .wire => generateWire
  | .proto => generateProto

end Target

/-- Everything generated from one schema set. -/
structure Artifacts where
  decoder : String
  records : String
  wire : String
  proto : String
  deriving DecidableEq, Repr

/-- The text of one target. -/
def Artifacts.get (a : Artifacts) : Target → String
  | .decoder => a.decoder
  | .records => a.records
  | .wire => a.wire
  | .proto => a.proto

/-- All four texts, or the first misalignment met. -/
def generateAll (s : SchemaSet) : Except Misalignment Artifacts := do
  let decoder ← generateDecoder s
  let records ← generateRecords s
  let wire ← generateWire s
  let proto ← generateProto s
  return ⟨decoder, records, wire, proto⟩

/-! ## Building from a tracepoint directory -/

/-- Why a build fails. -/
inductive BuildError where
  /-- The directory could not be gathered. -/
  | gather (e : GatherError)
  /-- The gathered schema set is not aligned. -/
  | generate (path : String) (m : Misalignment)
  deriving DecidableEq, Repr

/-- The text of a build error. -/
def BuildError.message : BuildError → String
  | .gather e => e.message
  | .generate path m => "failed to generate sources from " ++ path ++ ": " ++ m.message

/-- Gathers a tracepoint directory and generates the four texts from it. -/
def buildArtifacts (dir : TraceDir) : Except BuildError Artifacts :=
  match gather dir with
  | .error e => .error (.gather e)
  | .ok s =>
    match generateAll s with
    | .error m => .error (.generate dir.path m)
    | .ok a => .ok a

end SyscallTrace.Codegen
