import SyscallTrace.Session.Step

/-!
# Sessions with a change during a stat

Resolving a descriptor looks at its file between two reads of the table, and the table may
change meanwhile. A session can arm a one-shot hook: steps that run at the next look at a file,
after the first read of the table and before the file is looked up. Their answers are reported
with the step during which they ran. The hook is disarmed before its steps run, so they see no
hook themselves, and a hook step that tries to arm one is refused.
-/

set_option autoImplicit false

namespace SyscallTrace.Session

open SyscallTrace.Descriptor SyscallTrace.Event

/-- A context and the armed hook, if any. -/
structure State where
  ctx : Context
  hook : Option (List SessionStep)

/-- Answers of hook steps, each with the table size after it. -/
abbrev HookLog := List (Reply × Nat)

/-- Answers one request; resolving fires the hook if the file gets looked at. -/
def State.serve (s : State) : Request → String × State × HookLog
  | .resolve pid fd =>
    match s.ctx.fds.get pid fd with
    | none => (unknownPath, s, [])
    | some info =>
      let (log, ctx) := match s.hook with
        | none => ([], s.ctx)
        | some steps => applySteps s.ctx steps
      (resolveVerdict info (ctx.proc.stat pid info.path) (ctx.fds.get pid fd), ⟨ctx, none⟩, log)
  | r =>
    let (a, ctx) := s.ctx.serve r
    (a, { s with ctx }, [])

/-- Answers requests in order, gathering the hook's answers. -/
def State.serveAll (s : State) : List Request → List String × State × HookLog
  | [] => ([], s, [])
  | r :: rs =>
    let (a, s, log) := s.serve r
    let (as, s, log') := s.serveAll rs
    (a :: as, s, log ++ log')

/-- Decodes a buffer in a session. -/
def State.decode (s : State) (buf : List UInt8) :
    Except DecodeError DecodedEvent × State × HookLog :=
  match parse buf with
  | .error e => (.error e, s, [])
  | .ok (h, draft) =>
    let (answers, s, log) := s.serveAll (draft.requests h.pid32)
    (.ok ⟨h, draft.complete answers⟩, s, log)

/-- What a session step answers: its reply, the table size after it, and the answers of the
hook if it fired. -/
structure Answer where
  reply : Reply
  fdsLen : Nat
  duringStat : HookLog

/-- Runs one session step. -/
def State.runStep (s : State) : SessionStep → Answer × State
  | .duringNextStat steps => (⟨.done, s.ctx.fds.len, []⟩, { s with hook := some steps })
  | .step (.decode buf extra) =>
    let (r, s, log) := s.decode buf
    (⟨.decoded (r.map (DecodeReport.of · extra)), s.ctx.fds.len, log⟩, s)
  | .step (.resolve pid fd) =>
    let (path, s, log) := s.serve (.resolve pid fd)
    (⟨.text path, s.ctx.fds.len, log⟩, s)
  | .step st =>
    let (r, ctx) := applyStep s.ctx st
    (⟨r, ctx.fds.len, []⟩, { s with ctx })

/-- Runs session steps in order from a context with no hook. -/
def State.run (s : State) : List SessionStep → List Answer
  | [] => []
  | st :: rest =>
    let (a, s) := s.runStep st
    a :: s.run rest

/-- The state session steps leave, run in order. -/
def State.after (s : State) : List SessionStep → State
  | [] => s
  | st :: rest => (s.runStep st).2.after rest

end SyscallTrace.Session
