import SyscallTrace.Descriptor.Table
import SyscallTrace.Proc.Script
import SyscallTrace.Text.Quoted
import SyscallTrace.Text.Utf8

/-!
# The descriptor context

Decoding events keeps a descriptor table up to date against a view of `/proc`:

* installing a descriptor reads its link; an absolute path is recorded with the identity the
  event carried, and the path is shown (lossily) whatever it is; an unreadable link shows as
  `unknown` and records nothing;
* resolving a descriptor shows its recorded path only while the file at that path still has
  the recorded identity and the entry is still the same after the file was looked at (the
  same numbers, and a path with the same components); a file
  that is gone shows as `[deleted] ("path")?`, and anything else as `unknown`;
* forgetting a descriptor, or all descriptors of an exited process, drops them.

Resolving is split around the look at the file, so that a change to the table made meanwhile
can be taken into account: `resolveVerdict` decides from the entry before, the answer of the
look and the entry after.
-/

set_option autoImplicit false

namespace SyscallTrace.Descriptor

open SyscallTrace.Proc SyscallTrace.Text

/-- Shown when a descriptor's target cannot be trusted. -/
def unknownPath : String := "unknown"

/-- The descriptor table and the `/proc` it is kept against. -/
structure Context where
  fds : FdTable
  proc : ProcScript

/-- Two entries are the same: equal numbers, and paths with the same components. -/
def FdInfo.SameAs (a b : FdInfo) : Prop :=
  SamePath a.path b.path ∧ a.ino = b.ino ∧ a.major = b.major ∧ a.minor = b.minor

instance (a b : FdInfo) : Decidable (a.SameAs b) :=
  inferInstanceAs (Decidable (SamePath a.path b.path ∧ a.ino = b.ino ∧ a.major = b.major ∧
    a.minor = b.minor))

/-- A path is absolute when it starts with a slash. -/
def isAbsolute (path : List UInt8) : Bool :=
  path.head? == some 47

/-- What `info` shows once its file answered `stat` and the table holds `now` for it. -/
def resolveVerdict (info : FdInfo) (stat : Except IoErrorKind FileIdentity)
    (now : Option FdInfo) : String :=
  let path := Utf8.decodeLossy info.path
  match stat with
  | .ok id =>
    if id.ino = info.ino ∧ id.major = info.major ∧ id.minor = info.minor then
      (match now with
        | some n => if n.SameAs info then path else unknownPath
        | none => unknownPath)
    else unknownPath
  | .error .notFound => "[deleted] (" ++ quote path ++ ")?"
  | .error _ => unknownPath

namespace Context

/-- A context with an empty table over a scripted `/proc`. -/
def withProc (proc : ProcScript) : Context := ⟨FdTable.empty, proc⟩

/-- Records the file behind a new descriptor and shows its path. -/
def installFd (ctx : Context) (pid fd : UInt32) (id : FileIdentity) : String × Context :=
  match ctx.proc.readlink pid fd with
  | .error _ => (unknownPath, ctx)
  | .ok path =>
    let shown := Utf8.decodeLossy path
    if isAbsolute path then
      (shown, { ctx with fds := ctx.fds.put pid fd ⟨path, id.ino, id.major, id.minor⟩ })
    else (shown, ctx)

/-- The path of a tracked descriptor, with nothing changing while its file is looked at. -/
def resolveFdPath (ctx : Context) (pid fd : UInt32) : String :=
  match ctx.fds.get pid fd with
  | none => unknownPath
  | some info => resolveVerdict info (ctx.proc.stat pid info.path) (ctx.fds.get pid fd)

/-- Forgets one descriptor. -/
def forgetFd (ctx : Context) (pid fd : UInt32) : Context :=
  { ctx with fds := ctx.fds.delete pid fd }

/-- Forgets every descriptor of a process that went away. -/
def processExited (ctx : Context) (pid : UInt32) : Context :=
  { ctx with fds := ctx.fds.deletePid pid }

end Context

/-- What a decoded event asks of the context. -/
inductive Request where
  | install (pid fd : UInt32) (id : FileIdentity)
  | resolve (pid fd : UInt32)
  | forget (pid fd : UInt32)
  deriving DecidableEq, Repr

/-- Answers one request; a change answers the empty text. -/
def Context.serve (ctx : Context) : Request → String × Context
  | .install pid fd id => ctx.installFd pid fd id
  | .resolve pid fd => (ctx.resolveFdPath pid fd, ctx)
  | .forget pid fd => ("", ctx.forgetFd pid fd)

/-- Answers requests in order. -/
def Context.serveAll (ctx : Context) : List Request → List String × Context
  | [] => ([], ctx)
  | r :: rs =>
    let (a, ctx) := ctx.serve r
    let (as, ctx) := ctx.serveAll rs
    (a :: as, ctx)

end SyscallTrace.Descriptor
