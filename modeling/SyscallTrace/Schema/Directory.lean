import SyscallTrace.Schema.Compile
import SyscallTrace.Text.Utf8

/-!
# Tracepoint directories

A tracefs `events/syscalls` directory holds one subdirectory per tracepoint, such as
`sys_enter_open`, each with a `format` file. Gathering walks the entries in the order they are
listed and compiles every entry that is a directory named `sys_enter_<n>` for a considered
syscall `n` and whose `format` reads as UTF-8 text; other entries, exit tracepoints and entries
without a readable format are passed over. A format that does not compile stops the walk.
The three views are then each sorted by syscall name, keeping the order of equal names.
-/

set_option autoImplicit false

namespace SyscallTrace.Schema

/-- Syscalls that events are generated for. -/
def consideredSyscalls : List String :=
  ["open", "close", "read", "write", "mkdir", "mkdirat", "chmod", "fchmod", "fchmodat", "chown",
   "fchown", "fchownat"]

/-- The `format` file of a tracepoint directory. -/
inductive FormatFile where
  /-- No such file. -/
  | absent
  /-- A file with these bytes. -/
  | bytes (data : List UInt8)
  /-- A directory in place of the file. -/
  | directory
  deriving DecidableEq, Repr

/-- The text of a format file, if it is a file of UTF-8 text. -/
def FormatFile.text? : FormatFile → Option String
  | .bytes data => Text.Utf8.decode? data
  | _ => none

/-- An entry of a tracepoint directory. -/
inductive TraceEntry where
  /-- A subdirectory and its format file. -/
  | subdir (name : String) (format : FormatFile)
  /-- A plain file. -/
  | file (name : String)
  deriving DecidableEq, Repr

/-- A tracepoint directory: the path it is shown by, and its entries in listing order, or the
text of the error that listing it fails with. -/
structure TraceDir where
  path : String
  entries : Except String (List TraceEntry)
  deriving Repr

/-- Why gathering stops. -/
inductive GatherError where
  /-- The directory at `path` cannot be listed, for the reason `reason`. -/
  | unlisted (path reason : String)
  /-- A format does not compile. -/
  | schema (e : SchemaError)
  deriving DecidableEq, Repr

/-- The text of a gathering error. -/
def GatherError.message : GatherError → String
  | .unlisted path reason => "reading tracepoints from " ++ path ++ ": " ++ reason
  | .schema e => e.message

/-- The considered syscall a directory name is the entry tracepoint of. -/
def enteredSyscall? (dirName : String) : Option String :=
  if "sys_exit".isPrefixOf dirName then none
  else if "sys_enter_".isPrefixOf dirName then
    let name := (dirName.drop "sys_enter_".length).toString
    if name ∈ consideredSyscalls then some name else none
  else none

/-- The format to compile for an entry: its syscall name and format text. -/
def TraceEntry.source? : TraceEntry → Option (String × String)
  | .subdir dirName format => do
    let name ← enteredSyscall? dirName
    let text ← format.text?
    return (name, text)
  | .file _ => none

/-- Sorts syscalls by name, keeping the order of equal names. -/
def sortByName {τ : Type} (xs : List (Syscall τ)) : List (Syscall τ) :=
  xs.mergeSort fun a b => !(b.rawName < a.rawName)

/-- A schema set with each view sorted by syscall name. -/
def SchemaSet.sorted (s : SchemaSet) : SchemaSet :=
  ⟨sortByName s.decoder, sortByName s.kernel, sortByName s.wire⟩

/-- Compiles the syscalls of a tracepoint directory. -/
def gather (dir : TraceDir) : Except GatherError SchemaSet :=
  match dir.entries with
  | .error reason => .error (.unlisted dir.path reason)
  | .ok entries =>
    match compileAll (entries.filterMap TraceEntry.source?) with
    | .error e => .error (.schema e)
    | .ok s => .ok s.sorted

end SyscallTrace.Schema
