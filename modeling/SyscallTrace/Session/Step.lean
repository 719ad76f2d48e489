import SyscallTrace.Event.Decoded

/-!
# Session steps

A session runs steps against one descriptor context: decoding buffers, installing, resolving
and forgetting descriptors, reporting exited processes, changing the scripted `/proc`, and
operating on the descriptor table directly. Every step answers something, and a step that
could not be read answers with the reason and changes nothing. This module runs steps against
a context that nothing changes while a file is looked at.

A session may also arm a hook: steps to run at the next look at a file. The hook's own steps
may not arm another hook; such a step is refused.
-/

set_option autoImplicit false

namespace SyscallTrace.Session

open SyscallTrace.Descriptor SyscallTrace.Proc SyscallTrace.Event

/-- One step against the context. -/
inductive Step where
  /-- Decodes a buffer; `argIndices` are further arguments to ask for. -/
  | decode (buf : List UInt8) (argIndices : List Nat)
  | installFd (pid fd : UInt32) (id : FileIdentity)
  | resolve (pid fd : UInt32)
  | forget (pid fd : UInt32)
  | exited (pid : UInt32)
  /-- Sets or (with `none`) removes a link of the scripted `/proc`. -/
  | setLink (pid fd : UInt32) (link : Option (Except IoErrorKind (List UInt8)))
  /-- Sets or (with `none`) removes a file of the scripted `/proc`. -/
  | setFile (pid : Option UInt32) (path : List UInt8)
      (file : Option (Except IoErrorKind FileIdentity))
  | table (s : TableStep)
  /-- A step that could not be read, with the reason. -/
  | invalid (reason : String)

/-- A step of a session, or arming the hook. -/
inductive SessionStep where
  | step (s : Step)
  /-- Arms the hook with steps to run at the next look at a file. -/
  | duringNextStat (steps : List SessionStep)

/-- What a step answers. -/
inductive Reply where
  | decoded (r : Except DecodeError DecodeReport)
  | text (s : String)
  | done
  | table (r : TableReply)
  /-- The step could not be read. -/
  | unreadable (reason : String)
  /-- A hook's step tried to arm a hook. -/
  | nestedHook

/-- Runs one step against a context. -/
def applyStep (ctx : Context) : Step → Reply × Context
  | .decode buf extra =>
    let (r, ctx) := decodeBuffer ctx buf
    (.decoded (r.map (DecodeReport.of · extra)), ctx)
  | .installFd pid fd id =>
    let (path, ctx) := ctx.installFd pid fd id
    (.text path, ctx)
  | .resolve pid fd => (.text (ctx.resolveFdPath pid fd), ctx)
  | .forget pid fd => (.done, ctx.forgetFd pid fd)
  | .exited pid => (.done, ctx.processExited pid)
  | .setLink pid fd link => (.done, { ctx with proc := ctx.proc.setLink pid fd link })
  | .setFile pid path file => (.done, { ctx with proc := ctx.proc.setFile pid path file })
  | .table s =>
    let (r, fds) := ctx.fds.step s
    (.table r, { ctx with fds })
  | .invalid reason => (.unreadable reason, ctx)

/-- Runs one step of a hook: arming another hook is refused. -/
def applyHookStep (ctx : Context) : SessionStep → Reply × Context
  | .step s => applyStep ctx s
  | .duringNextStat _ => (.nestedHook, ctx)

/-- Runs hook steps in order, answering each with the table size after it. -/
def applySteps (ctx : Context) : List SessionStep → List (Reply × Nat) × Context
  | [] => ([], ctx)
  | s :: rest =>
    let (r, ctx) := applyHookStep ctx s
    let (rs, final) := applySteps ctx rest
    ((r, ctx.fds.len) :: rs, final)

end SyscallTrace.Session
