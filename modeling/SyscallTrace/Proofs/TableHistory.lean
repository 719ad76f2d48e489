import Mathlib
import SyscallTrace.Proofs.FlatTable
import SyscallTrace.Session.Run

/-!
# The descriptor table along a session

A session touches the descriptor table from several places: directly, and from inside the
decoding of recorded events. This module states, over the flat map of `Proofs.FlatTable`, the
few rules by which the table changes, and shows that the table a session leaves is the flat
map these rules give, folded over the steps from the empty map.

* Installing key `k` with identity `id` reads the link of the descriptor; when it reads as a
  path that starts with a slash, `k` is bound to that path and `id`. Otherwise nothing changes.
* A decoded install event installs the descriptor of its payload for the process of its header,
  with the identity of its payload. A decoded `close` event erases its `fd` field for the
  process of its header. Process ids and descriptors are taken modulo 2^32 for the key.
* Forgetting erases one key; a process that exits erases all of its keys; the table operations
  act as on the flat map.
* Every other step leaves the table as it is: failed decodes, other events, resolves. Steps
  that change the scripted `/proc` change what later links read.

A hook armed by `duringNextStat` runs when a step first looks at a file, that is when it
resolves a tracked key: a resolve step, or a decoded syscall event with a tracked descriptor
field. Its steps then count as steps of their own, taken before the step's own change.

## Results

* `applyStep_flat`: a step with nothing run meanwhile follows the rules.
* `State.serveAll_resolves_flat`: resolving several keys fires the hook once, when one of them
  is tracked.
* `State.runStep_flat`: one session step follows the rules.
* `session_table_follows_rules`: from a fresh context over any scripted `/proc`, the table after
  any sequence of session steps is the flat map the rules give.
-/

set_option autoImplicit false

namespace SyscallTrace.Descriptor

open SyscallTrace.Proc SyscallTrace.Event

/-- The key of a process id and a descriptor number, each taken modulo 2^32. -/
def trackKey (pid fd : Int) : UInt32 × UInt32 :=
  (UInt32.ofNat (pid % 4294967296).toNat, UInt32.ofNat (fd % 4294967296).toNat)

/-- The 32-bit process id of a header is its process id modulo 2^32, in two's complement. -/
theorem pid32_eq (h : Header) : h.pid32 = UInt32.ofNat (h.pid.toInt % 4294967296).toNat := by
  apply UInt32.toNat_inj.mp
  simp only [Header.pid32, UInt64.toNat_toUInt32, UInt32.toNat_ofNat']
  have hnat : h.pid.toUInt64.toNat = h.pid.toBitVec.toNat := rfl
  have hint : h.pid.toInt = h.pid.toBitVec.toInt := rfl
  rw [hnat, hint, BitVec.toInt_eq_toNat_cond]
  have := h.pid.toBitVec.isLt
  split <;> omega

theorem toUInt32_eq (fd : UInt64) : fd.toUInt32 = UInt32.ofNat ((fd.toNat : Int) % 4294967296).toNat := by
  apply UInt32.toNat_inj.mp
  simp only [UInt64.toNat_toUInt32, UInt32.toNat_ofNat']
  omega

theorem trackKey_file (h : Header) (fd : UInt64) :
    trackKey h.pid.toInt fd.toNat = (h.pid32, fd.toUInt32) := by
  rw [trackKey, pid32_eq, toUInt32_eq]

theorem trackKey_field (h : Header) (v : FieldValue) :
    trackKey h.pid.toInt v.toInt = (h.pid32, v.word32) := by
  rw [trackKey, pid32_eq]
  rfl

namespace FlatTable

/-- Installs key `k` with identity `id`: the key is bound to the path the descriptor's link
reads and the identity, when the path starts with a slash. -/
def install (m : FlatTable) (proc : ProcScript) (k : UInt32 × UInt32) (id : FileIdentity) :
    FlatTable :=
  match proc.readlink k.1 k.2 with
  | .ok path => if path.head? = some 47 then m.set k ⟨path, id.ino, id.major, id.minor⟩ else m
  | .error _ => m

/-- What decoding `buf` does, by the event it decodes to: an install event installs the
descriptor of its payload, a `close` event erases its `fd` field, both for the process of the
header; nothing else changes the map. -/
def decode (m : FlatTable) (proc : ProcScript) (buf : List UInt8) : FlatTable :=
  match parse buf with
  | .ok (h, .file fd ino major minor) =>
    m.install proc (trackKey h.pid.toInt fd.toNat) ⟨ino, major, minor⟩
  | .ok (h, .syscall l values) =>
    if l.decoder.rawName = "close" then
      match (l.decoder.params.zip values).find? (·.1.rawName = "fd") with
      | some (_, v) => m.erase (trackKey h.pid.toInt v.toInt)
      | none => m
    else m
  | _ => m

end FlatTable

end SyscallTrace.Descriptor

namespace SyscallTrace.Session

open SyscallTrace.Descriptor SyscallTrace.Proc SyscallTrace.Event

/-- The keys a step looks up before it looks at a file: a resolve its own, a decoded syscall
event those of its descriptor fields. -/
def Step.lookups : Step → List (UInt32 × UInt32)
  | .resolve pid fd => [(pid, fd)]
  | .decode buf _ =>
    match parse buf with
    | .ok (h, .syscall l values) =>
      ((l.decoder.params.zip values).filter (·.1.needsPath)).map fun (_, v) =>
        trackKey h.pid.toInt v.toInt
    | _ => []
  | _ => []

/-- A session seen through the flat map: the map, the scripted `/proc` and the armed hook. -/
structure FlatState where
  table : FlatTable
  proc : ProcScript
  hook : Option (List SessionStep)

namespace FlatState

/-- The empty map over a scripted `/proc`, with no hook. -/
def init (proc : ProcScript) : FlatState := ⟨FlatTable.empty, proc, none⟩

/-- One step by the rules, with nothing run meanwhile. -/
def apply (a : FlatState) : Step → FlatState
  | .decode buf _ => { a with table := a.table.decode a.proc buf }
  | .installFd pid fd id => { a with table := a.table.install a.proc (pid, fd) id }
  | .forget pid fd => { a with table := a.table.erase (pid, fd) }
  | .exited pid => { a with table := a.table.erasePid pid }
  | .setLink pid fd link => { a with proc := a.proc.setLink pid fd link }
  | .setFile pid path file => { a with proc := a.proc.setFile pid path file }
  | .table s => { a with table := (a.table.step s).2 }
  | .resolve _ _ | .invalid _ => a

/-- A step of a hook: arming another hook changes nothing. -/
def applyHook (a : FlatState) : SessionStep → FlatState
  | .step s => a.apply s
  | .duringNextStat _ => a

/-- Fires the armed hook: it is disarmed, then its steps run in order. -/
def fire (a : FlatState) : FlatState :=
  match a.hook with
  | none => a
  | some steps => steps.foldl applyHook { a with hook := none }

/-- One session step: a step that looks up a tracked key fires the hook first; then the step's
own rule applies. -/
def step (a : FlatState) : SessionStep → FlatState
  | .duringNextStat steps => { a with hook := some steps }
  | .step s => (if s.lookups.any (fun k => (a.table.find k).isSome) then a.fire else a).apply s

/-- Session steps by the rules, in order. -/
def after (a : FlatState) : List SessionStep → FlatState
  | [] => a
  | st :: rest => (a.step st).after rest

/-- What serving one request of a decoded event does. -/
def serve (a : FlatState) : Request → FlatState
  | .install pid fd id => { a with table := a.table.install a.proc (pid, fd) id }
  | .resolve _ _ => a
  | .forget pid fd => { a with table := a.table.erase (pid, fd) }

/-- A hook step never arms a hook. -/
theorem hook_applyHook (a : FlatState) (st : SessionStep) : (a.applyHook st).hook = a.hook := by
  cases st with
  | step s => cases s <;> rfl
  | duringNextStat _ => rfl

theorem hook_foldl_applyHook (steps : List SessionStep) (a : FlatState) :
    (steps.foldl applyHook a).hook = a.hook := by
  induction steps generalizing a with
  | nil => rfl
  | cons st rest ih => rw [List.foldl_cons, ih, hook_applyHook]

theorem hook_fire (a : FlatState) : a.fire.hook = none := by
  unfold fire
  cases h : a.hook with
  | none => exact h
  | some steps => exact hook_foldl_applyHook steps _

theorem fire_of_hook_none {a : FlatState} (h : a.hook = none) : a.fire = a := by
  rw [fire, h]

end FlatState

/-- The session seen through the flat map. -/
def State.flat (s : State) : FlatState := ⟨s.ctx.fds.view, s.ctx.proc, s.hook⟩

/-! ## Steps with nothing run meanwhile -/

theorem installFd_flat (ctx : Context) (hook : Option (List SessionStep)) (pid fd : UInt32)
    (id : FileIdentity) :
    (⟨(ctx.installFd pid fd id).2, hook⟩ : State).flat =
      { (⟨ctx, hook⟩ : State).flat with
        table := ctx.fds.view.install ctx.proc (pid, fd) id } := by
  unfold Context.installFd FlatTable.install
  cases ctx.proc.readlink pid fd with
  | error e => rfl
  | ok path =>
    by_cases habs : path.head? = some 47
    · have hb : isAbsolute path = true := by simp [isAbsolute, habs]
      simp only [hb, if_true, habs]
      simp only [State.flat, FdTable.view_put]
    · have hb : isAbsolute path = false := by simp [isAbsolute, habs]
      simp only [hb, habs, if_false, Bool.false_eq_true]
      rfl

theorem serve_flat (ctx : Context) (hook : Option (List SessionStep)) (r : Request) :
    (⟨(ctx.serve r).2, hook⟩ : State).flat = (⟨ctx, hook⟩ : State).flat.serve r := by
  cases r with
  | install pid fd id => exact installFd_flat ctx hook pid fd id
  | resolve pid fd => rfl
  | forget pid fd => simp only [Context.serve, Context.forgetFd, State.flat, FdTable.view_delete,
      FlatState.serve]

theorem serveAll_flat (ctx : Context) (hook : Option (List SessionStep))
    (rs : List Request) :
    (⟨(ctx.serveAll rs).2, hook⟩ : State).flat =
      rs.foldl FlatState.serve (⟨ctx, hook⟩ : State).flat := by
  induction rs generalizing ctx with
  | nil => rfl
  | cons r rest ih =>
    show (⟨((ctx.serve r).2.serveAll rest).2, hook⟩ : State).flat = _
    rw [ih, List.foldl_cons, serve_flat]

/-- Resolving changes nothing. -/
theorem foldl_serve_resolves (a : FlatState) (ks : List (UInt32 × UInt32)) :
    (ks.map fun k => Request.resolve k.1 k.2).foldl FlatState.serve a = a := by
  induction ks with
  | nil => rfl
  | cons k rest ih => exact ih

/-- The resolve requests of a decoded syscall event are those of its descriptor fields' keys. -/
theorem resolves_eq_map_trackKey (h : Header)
    (fields : List (Schema.Param Schema.DecoderType × FieldValue)) :
    (fields.map fun x => Request.resolve h.pid32 x.2.word32) =
      (fields.map fun x => trackKey h.pid.toInt x.2.toInt).map fun k => Request.resolve k.1 k.2 := by
  rw [List.map_map]
  congr 1
  funext x
  simp only [Function.comp_apply, trackKey_field]

theorem decodeBuffer_snd (ctx : Context) (buf : List UInt8) :
    (decodeBuffer ctx buf).2 =
      match parse buf with
      | .error _ => ctx
      | .ok (h, draft) => (ctx.serveAll (draft.requests h.pid32)).2 := by
  unfold decodeBuffer
  cases parse buf with
  | error e => rfl
  | ok p => rfl

/-- Decoding with nothing run meanwhile changes the table by the decode rule. -/
theorem decodeBuffer_flat (ctx : Context) (hook : Option (List SessionStep))
    (buf : List UInt8) :
    (⟨(decodeBuffer ctx buf).2, hook⟩ : State).flat =
      { (⟨ctx, hook⟩ : State).flat with table := ctx.fds.view.decode ctx.proc buf } := by
  rw [decodeBuffer_snd, FlatTable.decode]
  cases hp : parse buf with
  | error e => rfl
  | ok p =>
    obtain ⟨h, draft⟩ := p
    dsimp only
    rw [serveAll_flat]
    cases draft with
    | syscall l values =>
      simp only [Draft.requests, SyscallLayout.requests]
      rw [List.foldl_append, resolves_eq_map_trackKey h, foldl_serve_resolves]
      by_cases hclose : l.decoder.rawName = "close"
      · rw [if_pos hclose, if_pos hclose]
        cases (l.decoder.params.zip values).find? (·.1.rawName = "fd") with
        | none => rfl
        | some fv =>
          obtain ⟨_, v⟩ := fv
          simp only [Option.map_some, Option.toList_some, List.foldl_cons, List.foldl_nil,
            FlatState.serve, trackKey_field]
          rfl
      · rw [if_neg hclose, if_neg hclose]
        rfl
    | file fd ino major minor =>
      simp only [Draft.requests, List.foldl_cons, List.foldl_nil, FlatState.serve,
        trackKey_file]
      rfl
    | ready e => rfl

/-- A step with nothing run meanwhile follows the rules. -/
theorem applyStep_flat (ctx : Context) (hook : Option (List SessionStep)) (st : Step) :
    (⟨(applyStep ctx st).2, hook⟩ : State).flat = (⟨ctx, hook⟩ : State).flat.apply st := by
  cases st with
  | decode buf extra => exact decodeBuffer_flat ctx hook buf
  | installFd pid fd id => exact installFd_flat ctx hook pid fd id
  | forget pid fd =>
    simp only [applyStep, Context.forgetFd, State.flat, FdTable.view_delete, FlatState.apply]
  | exited pid =>
    simp only [applyStep, Context.processExited, State.flat, FdTable.view_deletePid,
      FlatState.apply]
  | table s => simp only [applyStep, State.flat, FdTable.view_step, FlatState.apply]
  | resolve | setLink | setFile | invalid => rfl

/-- Hook steps run in order with no hook armed follow the rules, one after the other. -/
theorem applySteps_flat (ctx : Context) (steps : List SessionStep) :
    (⟨(applySteps ctx steps).2, none⟩ : State).flat =
      steps.foldl FlatState.applyHook (⟨ctx, none⟩ : State).flat := by
  induction steps generalizing ctx with
  | nil => rfl
  | cons st rest ih =>
    show (⟨(applySteps (applyHookStep ctx st).2 rest).2, none⟩ : State).flat = _
    rw [ih, List.foldl_cons]
    congr 1
    cases st with
    | step s => exact applyStep_flat ctx none s
    | duringNextStat _ => rfl

/-! ## Resolving fires the hook -/

/-- Resolving a key fires the armed hook exactly when the key is tracked. -/
theorem State.serve_resolve_flat (s : State) (pid fd : UInt32) :
    (s.serve (.resolve pid fd)).2.1.flat =
      if (s.flat.table.find (pid, fd)).isSome then s.flat.fire else s.flat := by
  obtain ⟨ctx, hook⟩ := s
  unfold State.serve
  dsimp only
  cases hg : ctx.fds.get pid fd with
  | none => simp [State.flat, hg]
  | some info =>
    have hfind : ((⟨ctx, hook⟩ : State).flat.table.find (pid, fd)).isSome := by
      simp [State.flat, hg]
    rw [if_pos hfind]
    cases hook with
    | none => rfl
    | some steps => exact applySteps_flat ctx steps

theorem State.serveAll_append (s : State) (xs ys : List Request) :
    (s.serveAll (xs ++ ys)).2.1 = ((s.serveAll xs).2.1.serveAll ys).2.1 := by
  induction xs generalizing s with
  | nil => rfl
  | cons r rest ih => exact ih (s.serve r).2.1

/-- Resolving several keys fires the armed hook once, when one of them is tracked, and changes
nothing else. -/
theorem State.serveAll_resolves_flat (s : State) (ks : List (UInt32 × UInt32)) :
    (s.serveAll (ks.map fun k => .resolve k.1 k.2)).2.1.flat =
      if ks.any (fun k => (s.flat.table.find k).isSome) then s.flat.fire else s.flat := by
  induction ks generalizing s with
  | nil => rfl
  | cons k rest ih =>
    show ((s.serve (.resolve k.1 k.2)).2.1.serveAll (rest.map fun k => .resolve k.1 k.2)).2.1.flat = _
    rw [ih, s.serve_resolve_flat, Prod.mk.eta, List.any_cons]
    by_cases hk : (s.flat.table.find k).isSome
    · -- the hook fired at `k`: nothing is armed for the later keys
      rw [if_pos hk, hk, Bool.true_or, if_pos rfl,
        FlatState.fire_of_hook_none (FlatState.hook_fire s.flat), ite_self]
    · rw [if_neg hk]
      simp only [Bool.not_eq_true] at hk
      rw [hk, Bool.false_or]

/-! ## Session steps -/

theorem State.decode_snd (s : State) (buf : List UInt8) :
    (s.decode buf).2.1 =
      match parse buf with
      | .error _ => s
      | .ok (h, draft) => (s.serveAll (draft.requests h.pid32)).2.1 := by
  unfold State.decode
  cases parse buf with
  | error e => rfl
  | ok p => rfl

theorem State.serveAll_nil (s : State) : (s.serveAll []).2.1 = s := rfl

theorem State.serveAll_singleton (s : State) (r : Request) :
    (s.serveAll [r]).2.1 = (s.serve r).2.1 := rfl

theorem State.serve_forget_flat (s : State) (pid fd : UInt32) :
    (s.serve (.forget pid fd)).2.1.flat = s.flat.serve (.forget pid fd) :=
  serve_flat s.ctx s.hook (.forget pid fd)

/-- Decoding in a session: the hook fires when the event resolves a tracked key, and then the
decode rule applies. -/
theorem State.decode_flat (s : State) (buf : List UInt8) (extra : List Nat) :
    (s.decode buf).2.1.flat =
      (if (Step.decode buf extra).lookups.any (fun k => (s.flat.table.find k).isSome) then
        s.flat.fire else s.flat).apply (.decode buf extra) := by
  rw [State.decode_snd]
  cases hp : parse buf with
  | error e =>
    have hl : (Step.decode buf extra).lookups = [] := by simp only [Step.lookups, hp]
    simp only [hl, List.any_nil, Bool.false_eq_true, if_false, FlatState.apply, FlatTable.decode,
      hp]
  | ok p =>
    obtain ⟨h, draft⟩ := p
    dsimp only
    cases draft with
    | syscall l values =>
      have hl : (Step.decode buf extra).lookups =
          ((l.decoder.params.zip values).filter (·.1.needsPath)).map fun x =>
            trackKey h.pid.toInt x.2.toInt := by
        simp only [Step.lookups, hp]
      simp only [hl, FlatState.apply, FlatTable.decode, hp, Draft.requests,
        SyscallLayout.requests]
      rw [State.serveAll_append, resolves_eq_map_trackKey h]
      by_cases hclose : l.decoder.rawName = "close"
      · rw [if_pos hclose, if_pos hclose]
        cases (l.decoder.params.zip values).find? (·.1.rawName = "fd") with
        | none =>
          rw [Option.map_none, Option.toList_none, State.serveAll_nil, State.serveAll_resolves_flat]
        | some fv =>
          obtain ⟨_, v⟩ := fv
          rw [Option.map_some, Option.toList_some, State.serveAll_singleton,
            State.serve_forget_flat, State.serveAll_resolves_flat]
          dsimp only
          rw [trackKey_field]
          rfl
      · rw [if_neg hclose, if_neg hclose, State.serveAll_nil, State.serveAll_resolves_flat]
    | file fd ino major minor =>
      have hl : (Step.decode buf extra).lookups = [] := by simp only [Step.lookups, hp]
      simp only [hl, List.any_nil, Bool.false_eq_true, if_false, FlatState.apply,
        FlatTable.decode, hp, Draft.requests, State.serveAll_singleton]
      show (⟨(s.ctx.serve (.install h.pid32 fd.toUInt32 ⟨ino, major, minor⟩)).2, s.hook⟩ :
        State).flat = _
      rw [serve_flat, trackKey_file]
      rfl
    | ready e =>
      have hl : (Step.decode buf extra).lookups = [] := by simp only [Step.lookups, hp]
      simp only [hl, List.any_nil, Bool.false_eq_true, if_false, FlatState.apply,
        FlatTable.decode, hp, Draft.requests, State.serveAll_nil]

/-- One session step follows the rules. -/
theorem State.runStep_flat (s : State) (st : SessionStep) : (s.runStep st).2.flat = s.flat.step st := by
  cases st with
  | duringNextStat steps => rfl
  | step st =>
    cases st with
    | decode buf extra => exact s.decode_flat buf extra
    | resolve pid fd =>
      show (s.serve (.resolve pid fd)).2.1.flat = _
      rw [State.serve_resolve_flat]
      simp only [FlatState.step, Step.lookups, List.any_cons, List.any_nil, Bool.or_false,
        FlatState.apply]
    | installFd pid fd id => exact applyStep_flat s.ctx s.hook (.installFd pid fd id)
    | forget pid fd => exact applyStep_flat s.ctx s.hook (.forget pid fd)
    | exited pid => exact applyStep_flat s.ctx s.hook (.exited pid)
    | setLink pid fd link => exact applyStep_flat s.ctx s.hook (.setLink pid fd link)
    | setFile pid path file => exact applyStep_flat s.ctx s.hook (.setFile pid path file)
    | table t => exact applyStep_flat s.ctx s.hook (.table t)
    | invalid reason => exact applyStep_flat s.ctx s.hook (.invalid reason)

theorem State.after_flat (s : State) (steps : List SessionStep) :
    (s.after steps).flat = s.flat.after steps := by
  induction steps generalizing s with
  | nil => rfl
  | cons st rest ih =>
    show ((s.runStep st).2.after rest).flat = (s.flat.step st).after rest
    rw [ih, State.runStep_flat]

/-- **The table follows the rules.** From a fresh context over any scripted `/proc`, after any
sequence of session steps (hooks run while a file is looked at counting as steps of their own),
the descriptor table is the flat map obtained by folding the steps from the empty map with the
rules of `FlatState.step`. -/
theorem session_table_follows_rules (proc : ProcScript) (steps : List SessionStep) :
    (State.after ⟨Context.withProc proc, none⟩ steps).ctx.fds.view =
      ((FlatState.init proc).after steps).table :=
  congrArg FlatState.table (State.after_flat ⟨Context.withProc proc, none⟩ steps)

end SyscallTrace.Session
