import Mathlib
import SyscallTrace.Session.Run

/-!
# Resolving a descriptor while the table changes

Resolving a tracked descriptor reads its entry, looks at the file at the recorded path, and
reads the entry again: the table is not held during the look, so it may change meanwhile. In a
session the change is the armed hook, whose steps run at the look; with no hook armed nothing
changes. `Resolves` states the rules the answer follows, from the entry read before, the answer
of the look and the entry read after:

* the shown path, when the file has the recorded identity and the entry after is the same
  entry (equal numbers, and a path with the same components);
* `unknown`, when the identity matches but the entry has gone or changed, when the file has
  another identity, and when the look fails for a reason other than a missing file;
* `[deleted] ("path")?`, the path quoted, when the file is missing, whatever became of the
  entry: that answer needs no second read.

Resolving itself writes nothing: the context it leaves is the one the change left.

## Results

* `Resolves.eq_resolveVerdict`, `resolves_iff`: the rules allow one answer, the verdict's.
* `Resolves.reported_path`: the shown path is the answer only for an entry that stayed the
  same and whose file kept its identity, unless the path itself reads `unknown`.
* `State.serve_resolve_untracked`, `State.serve_resolve_tracked`: a session resolve of an
  untracked key changes nothing, the armed hook included; of a tracked key it fires the hook,
  looks at the file in the context the hook leaves, and decides.
* `resolve_during_stat`: the whole behaviour of resolving, for every table, `/proc`, key and
  change made during the look.
-/

set_option autoImplicit false

namespace SyscallTrace.Text

theorem length_le_length_escapeChar (c : Char) : 1 ≤ (escapeChar c).length := by
  unfold escapeChar unicodeEscape
  split_ifs <;> simp

theorem length_le_length_flatMap_escapeChar (cs : List Char) :
    cs.length ≤ (cs.flatMap escapeChar).length := by
  induction cs with
  | nil => rfl
  | cons c rest ih =>
    rw [List.flatMap_cons, List.length_append, List.length_cons]
    have := length_le_length_escapeChar c
    omega

/-- Quoting adds the two quotes and never shortens a character. -/
theorem length_add_two_le_quote (s : String) : s.length + 2 ≤ (quote s).length := by
  rw [← String.length_toList, ← String.length_toList, quote_eq]
  simp only [List.length_append, List.length_cons]
  have := length_le_length_flatMap_escapeChar s.toList
  omega

end SyscallTrace.Text

namespace SyscallTrace.Descriptor

open SyscallTrace.Proc SyscallTrace.Text

/-- The identity an entry recorded for its file. -/
def FdInfo.identity (info : FdInfo) : FileIdentity := ⟨info.ino, info.major, info.minor⟩

theorem FdInfo.eq_identity_iff {info : FdInfo} {id : FileIdentity} :
    id = info.identity ↔ id.ino = info.ino ∧ id.major = info.major ∧ id.minor = info.minor := by
  cases id
  simp [FdInfo.identity]

/-- The rules of resolving a tracked entry `info`, given the answer of the look at its file and
the entry the table holds once the look is over. -/
inductive Resolves (info : FdInfo) :
    Except IoErrorKind FileIdentity → Option FdInfo → String → Prop
  /-- The file kept its identity and the entry stayed the same: its path is shown. -/
  | unchanged {now : FdInfo} : now.SameAs info →
      Resolves info (.ok info.identity) (some now) (Utf8.decodeLossy info.path)
  /-- The file kept its identity, but the entry was dropped or replaced meanwhile. -/
  | replaced {now : Option FdInfo} : (∀ n, now = some n → ¬ n.SameAs info) →
      Resolves info (.ok info.identity) now unknownPath
  /-- Another file is at the path now. -/
  | stale {id : FileIdentity} {now : Option FdInfo} : id ≠ info.identity →
      Resolves info (.ok id) now unknownPath
  /-- No file is at the path any more. -/
  | deleted {now : Option FdInfo} :
      Resolves info (.error .notFound) now
        ("[deleted] (" ++ quote (Utf8.decodeLossy info.path) ++ ")?")
  /-- The look failed for another reason. -/
  | failed {e : IoErrorKind} {now : Option FdInfo} : e ≠ .notFound →
      Resolves info (.error e) now unknownPath

section Verdict

variable {info : FdInfo} {stat : Except IoErrorKind FileIdentity} {now : Option FdInfo}

theorem resolveVerdict_resolves (info : FdInfo) (stat : Except IoErrorKind FileIdentity)
    (now : Option FdInfo) : Resolves info stat now (resolveVerdict info stat now) := by
  cases stat with
  | error e =>
    cases e with
    | notFound => exact .deleted
    | permissionDenied | other | invalidInput => exact .failed (by decide)
  | ok id =>
    by_cases hid : id = info.identity
    · -- the identity matches: the entry read after the look decides
      have hmatch := FdInfo.eq_identity_iff.1 hid
      subst hid
      simp only [resolveVerdict, hmatch, and_self, if_true]
      cases now with
      | none => exact .replaced (by simp)
      | some n =>
        by_cases hs : n.SameAs info
        · simp only [hs, if_true]
          exact .unchanged hs
        · simp only [hs, if_false]
          exact .replaced (by simpa using hs)
    · have hmatch : ¬(id.ino = info.ino ∧ id.major = info.major ∧ id.minor = info.minor) :=
        mt FdInfo.eq_identity_iff.2 hid
      simp only [resolveVerdict, if_neg hmatch]
      exact .stale hid

theorem Resolves.eq_resolveVerdict {answer : String} (h : Resolves info stat now answer) :
    answer = resolveVerdict info stat now := by
  cases h with
  | unchanged hs => simp [resolveVerdict, FdInfo.identity, hs]
  | replaced hn =>
    cases now with
    | none => simp [resolveVerdict, FdInfo.identity]
    | some n => simp [resolveVerdict, FdInfo.identity, hn n rfl]
  | @stale id _ hid =>
    have hmatch : ¬(id.ino = info.ino ∧ id.major = info.major ∧ id.minor = info.minor) :=
      mt FdInfo.eq_identity_iff.2 hid
    simp only [resolveVerdict, if_neg hmatch]
  | deleted => rfl
  | @failed e _ he =>
    cases e with
    | notFound => exact absurd rfl he
    | permissionDenied | other | invalidInput => rfl

theorem resolves_iff {answer : String} :
    Resolves info stat now answer ↔ resolveVerdict info stat now = answer :=
  ⟨fun h => h.eq_resolveVerdict.symm, fun h => h ▸ resolveVerdict_resolves info stat now⟩

/-- A deleted file is never reported as its bare path: the report is longer. -/
theorem deleted_report_ne (path : String) : "[deleted] (" ++ quote path ++ ")?" ≠ path := by
  intro h
  have hlen := congrArg String.length h
  have := length_add_two_le_quote path
  simp only [String.length_append] at hlen
  omega

/-- The shown path is the answer only when the file kept its identity and the entry read
after the look is the same entry, or when the path happens to read `unknown`. -/
theorem Resolves.reported_path {answer : String} (h : Resolves info stat now answer)
    (hpath : answer = Utf8.decodeLossy info.path) :
    Utf8.decodeLossy info.path = unknownPath ∨
      (stat = .ok info.identity ∧ ∃ n, now = some n ∧ n.SameAs info) := by
  cases h with
  | unchanged hs => exact .inr ⟨rfl, _, rfl, hs⟩
  | replaced | stale | failed => exact .inl hpath.symm
  | deleted => exact absurd hpath (deleted_report_ne _)

end Verdict

end SyscallTrace.Descriptor

namespace SyscallTrace.Session

open SyscallTrace.Descriptor SyscallTrace.Proc SyscallTrace.Text

/-- What runs when a file is looked at: the armed hook's answers and the context its steps
leave; with no hook armed, nothing runs. -/
def State.atStat (s : State) : HookLog × Context :=
  match s.hook with
  | none => ([], s.ctx)
  | some steps => applySteps s.ctx steps

/-- Resolving an untracked key looks at no file: nothing changes and the hook stays armed. -/
theorem State.serve_resolve_untracked (s : State) {pid fd : UInt32}
    (h : s.ctx.fds.get pid fd = none) : s.serve (.resolve pid fd) = (unknownPath, s, []) := by
  simp only [State.serve, h]

/-- Resolving a tracked key fires the hook at the look, then decides on what the look finds in
the context the hook leaves; resolving adds no change of its own. -/
theorem State.serve_resolve_tracked (s : State) {pid fd : UInt32} {info : FdInfo}
    (h : s.ctx.fds.get pid fd = some info) :
    s.serve (.resolve pid fd) =
      (resolveVerdict info (s.atStat.2.proc.stat pid info.path) (s.atStat.2.fds.get pid fd),
        ⟨s.atStat.2, none⟩, s.atStat.1) := by
  obtain ⟨ctx, hook⟩ := s
  cases hook <;> simp only [State.serve, State.atStat, h]

/-- With no hook armed a session resolves as the context does. -/
theorem State.serve_resolve_unarmed (ctx : Context) (pid fd : UInt32) :
    (⟨ctx, none⟩ : State).serve (.resolve pid fd) = (ctx.resolveFdPath pid fd, ⟨ctx, none⟩, []) := by
  cases h : ctx.fds.get pid fd with
  | none => simp only [State.serve, Context.resolveFdPath, h]
  | some info => simp only [State.serve, Context.resolveFdPath, h]

/-- **Resolving across a change.** For every table, scripted `/proc`, key and change made while
the file is looked at (the hook's steps; none when no hook is armed): an untracked key answers
`unknown` and changes nothing. A tracked entry `info` is answered by the rules of `Resolves`,
applied to what the look finds and to the entry the changed table holds, and the context
after is the changed one, so resolving writes nothing itself. In particular the shown path is
answered only when the entry is the same before and after the look and the file kept the
recorded identity (or when the path itself reads `unknown`). -/
theorem resolve_during_stat (s : State) (pid fd : UInt32) :
    (s.ctx.fds.get pid fd = none → s.serve (.resolve pid fd) = (unknownPath, s, [])) ∧
    ∀ info, s.ctx.fds.get pid fd = some info →
      (s.serve (.resolve pid fd)).2.1 = ⟨s.atStat.2, none⟩ ∧
      (∀ answer, (s.serve (.resolve pid fd)).1 = answer ↔
        Resolves info (s.atStat.2.proc.stat pid info.path) (s.atStat.2.fds.get pid fd) answer) ∧
      ((s.serve (.resolve pid fd)).1 = Utf8.decodeLossy info.path →
        Utf8.decodeLossy info.path = unknownPath ∨
          (s.atStat.2.proc.stat pid info.path = .ok info.identity ∧
            ∃ now, s.atStat.2.fds.get pid fd = some now ∧ now.SameAs info)) := by
  refine ⟨s.serve_resolve_untracked, fun info h => ?_⟩
  rw [s.serve_resolve_tracked h]
  have hrule := resolveVerdict_resolves info (s.atStat.2.proc.stat pid info.path)
    (s.atStat.2.fds.get pid fd)
  exact ⟨rfl, fun answer => resolves_iff.symm, hrule.reported_path⟩

end SyscallTrace.Session
