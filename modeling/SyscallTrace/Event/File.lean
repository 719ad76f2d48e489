import SyscallTrace.Event.Header
import SyscallTrace.Descriptor.Context

/-!
# Descriptor installs

An `fd_install` event says that a descriptor was installed into a process's table; its payload
holds the descriptor number and the identity of the file. Decoding it asks the context to
record the file and show its path. The event exposes no single argument and has no metric.
-/

set_option autoImplicit false

namespace SyscallTrace.Event

open SyscallTrace.Bytes

/-- The name of descriptor install events. -/
def fdInstallName : String := "fd_install"

/-- Bytes of an install payload. -/
def filePayloadSize : Nat := 32

/-- A descriptor install, with the path the context showed for it. -/
structure FileEvent where
  fd : UInt64
  ino : UInt64
  major : UInt64
  minor : UInt64
  path : String
  deriving DecidableEq, Repr

/-- The words of an install payload: descriptor, inode, major and minor device numbers. -/
def readFilePayload (payload : List UInt8) : Except DecodeError (UInt64 × UInt64 × UInt64 × UInt64) :=
  match ensurePayload fdInstallName payload filePayloadSize with
  | .error e => .error e
  | .ok () =>
    let (fd, rest) := takeU64 payload
    let (ino, rest) := takeU64 rest
    let (major, rest) := takeU64 rest
    let (minor, _) := takeU64 rest
    .ok (fd, ino, major, minor)

namespace FileEvent

/-- The event as one line of text. -/
def render (e : FileEvent) : String :=
  "Fd " ++ toString e.fd.toNat ++ " "

/-- Every argument with its name. -/
def args (e : FileEvent) : List (String × String) :=
  [("fd", toString e.fd.toNat ++ "<" ++ e.path ++ ">")]

end FileEvent

end SyscallTrace.Event
