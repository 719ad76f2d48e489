import SyscallTrace.Keyed
import SyscallTrace.Proc.Path

/-!
# A scripted process filesystem

Descriptor paths are learned from `/proc`: reading the link of a process's descriptor gives
the path it points at, and stat'ing a path as the process sees it gives the file's identity.
A scripted `/proc` answers both from tables. A link is keyed by process and descriptor; a file
by its path and, optionally, a process, and an entry for the process wins over one for every
process. Files are keyed by the components of their path, so two spellings of one path
(`/a//b`, `/a/./b/`) find the same entry. What the tables do not hold is not found.
-/

set_option autoImplicit false

namespace SyscallTrace.Proc

/-- The identity of a file: its inode and the device it lives on. -/
structure FileIdentity where
  ino : UInt64
  major : UInt64
  minor : UInt64
  deriving DecidableEq, Repr

/-- Why a look at `/proc` fails. -/
inductive IoErrorKind where
  | permissionDenied
  | notFound
  | other
  | invalidInput
  deriving DecidableEq, Repr

/-- The error kind of a name such as `NotFound`. -/
def IoErrorKind.ofName? : String → Option IoErrorKind
  | "PermissionDenied" => some .permissionDenied
  | "NotFound" => some .notFound
  | "Other" => some .other
  | "InvalidInput" => some .invalidInput
  | _ => none

/-- A scripted `/proc`. -/
structure ProcScript where
  /-- Link targets, by process and descriptor. -/
  links : List ((UInt32 × UInt32) × Except IoErrorKind (List UInt8))
  /-- File identities, by process (or every process) and path components. -/
  files : List ((Option UInt32 × List PathPart) × Except IoErrorKind FileIdentity)

namespace ProcScript

/-- The script with no link and no file. -/
def empty : ProcScript := ⟨[], []⟩

/-- The path descriptor `fd` of process `pid` points at. -/
def readlink (p : ProcScript) (pid fd : UInt32) : Except IoErrorKind (List UInt8) :=
  (Keyed.get? p.links (pid, fd)).getD (.error .notFound)

/-- The identity of `path` as process `pid` sees it. -/
def stat (p : ProcScript) (pid : UInt32) (path : List UInt8) : Except IoErrorKind FileIdentity :=
  match Keyed.get? p.files (some pid, components path) with
  | some r => r
  | none => (Keyed.get? p.files (none, components path)).getD (.error .notFound)

/-- Sets the answer for a link, or removes it with `none`. -/
def setLink (p : ProcScript) (pid fd : UInt32) :
    Option (Except IoErrorKind (List UInt8)) → ProcScript
  | some r => { p with links := Keyed.set p.links (pid, fd) r }
  | none => { p with links := Keyed.erase p.links (pid, fd) }

/-- Sets the answer for a file, or removes it with `none`. -/
def setFile (p : ProcScript) (pid : Option UInt32) (path : List UInt8) :
    Option (Except IoErrorKind FileIdentity) → ProcScript
  | some r => { p with files := Keyed.set p.files (pid, components path) r }
  | none => { p with files := Keyed.erase p.files (pid, components path) }

end ProcScript

end SyscallTrace.Proc
