import SyscallTrace.Keyed

/-!
# The descriptor table

For every traced process the table remembers, per open descriptor, what the descriptor pointed
at when it was installed: the path and the identity (inode and device numbers) of the file. It
is kept per process, so that all descriptors of a process that exits can be dropped at once; a
process whose last descriptor goes is dropped too.

The table answers the steps of `TableStep`: writes answer nothing, `get` the entry, and the
counts the number of entries. `FdTable.run` answers a sequence of steps in order.

## Results

* `get_put`, `get_delete`, `get_deletePid`: what each change does to every lookup.
-/

set_option autoImplicit false

namespace SyscallTrace.Descriptor

/-- What a descriptor pointed at when it was installed. -/
structure FdInfo where
  /-- The path, as bytes: it need not be UTF-8. -/
  path : List UInt8
  ino : UInt64
  major : UInt64
  minor : UInt64
  deriving DecidableEq, Repr

/-- The tracked descriptors of every process: process id to descriptor number to entry. -/
structure FdTable where
  procs : List (UInt32 × List (UInt32 × FdInfo))
  deriving DecidableEq, Repr

namespace FdTable

/-- The table with no entry. -/
def empty : FdTable := ⟨[]⟩

/-- The descriptors of one process. -/
def fdsOf (t : FdTable) (pid : UInt32) : List (UInt32 × FdInfo) :=
  (Keyed.get? t.procs pid).getD []

/-- Records `info` for descriptor `fd` of process `pid`, replacing what was there. -/
def put (t : FdTable) (pid fd : UInt32) (info : FdInfo) : FdTable :=
  ⟨Keyed.set t.procs pid (Keyed.set (t.fdsOf pid) fd info)⟩

/-- The entry of descriptor `fd` of process `pid`. -/
def get (t : FdTable) (pid fd : UInt32) : Option FdInfo :=
  (Keyed.get? t.procs pid).bind (Keyed.get? · fd)

/-- Forgets descriptor `fd` of process `pid`, and the process if it has no other. -/
def delete (t : FdTable) (pid fd : UInt32) : FdTable :=
  match Keyed.get? t.procs pid with
  | none => t
  | some fds =>
    let rest := Keyed.erase fds fd
    if rest.isEmpty then ⟨Keyed.erase t.procs pid⟩ else ⟨Keyed.set t.procs pid rest⟩

/-- Forgets every descriptor of process `pid`. -/
def deletePid (t : FdTable) (pid : UInt32) : FdTable :=
  ⟨Keyed.erase t.procs pid⟩

/-- Forgets everything. -/
def clear (_ : FdTable) : FdTable := empty

/-- The number of descriptors tracked across all processes. -/
def len (t : FdTable) : Nat :=
  (t.procs.map fun p => p.2.length).foldr (· + ·) 0

/-- No descriptor is tracked. -/
def isEmpty (t : FdTable) : Bool := t.len == 0

/-- The number of descriptors tracked for process `pid`. -/
def pidLen (t : FdTable) (pid : UInt32) : Nat :=
  (t.fdsOf pid).length

theorem get_put (t : FdTable) (pid fd pid' fd' : UInt32) (info : FdInfo) :
    (t.put pid fd info).get pid' fd' =
      if pid = pid' ∧ fd = fd' then some info else t.get pid' fd' := by
  unfold put get fdsOf
  rw [Keyed.get?_set]
  by_cases hp : pid = pid'
  · subst hp
    cases h : Keyed.get? t.procs pid <;> simp [Keyed.get?_set]
  · simp [hp]

theorem get_deletePid (t : FdTable) (pid pid' fd' : UInt32) :
    (t.deletePid pid).get pid' fd' = if pid = pid' then none else t.get pid' fd' := by
  unfold deletePid get
  rw [Keyed.get?_erase]
  by_cases hp : pid = pid' <;> simp [hp]

theorem get_delete (t : FdTable) (pid fd pid' fd' : UInt32) :
    (t.delete pid fd).get pid' fd' =
      if pid = pid' ∧ fd = fd' then none else t.get pid' fd' := by
  unfold delete
  cases h : Keyed.get? t.procs pid with
  | none =>
    simp only
    by_cases hp : pid = pid'
    · subst hp; simp [get, h]
    · simp [hp]
  | some fds =>
    simp only
    split
    · rename_i hrest
      simp only [get, Keyed.get?_erase]
      by_cases hp : pid = pid'
      · subst hp
        simp only [if_true, Option.bind_none, h, Option.bind_some]
        by_cases hf : fd = fd'
        · simp [hf]
        · have : Keyed.get? (Keyed.erase fds fd) fd' = Keyed.get? fds fd' := by
            rw [Keyed.get?_erase]; simp [hf]
          rw [List.isEmpty_iff] at hrest
          rw [hrest] at this
          simp [hf, ← this]
      · simp [hp]
    · simp only [get, Keyed.get?_set]
      by_cases hp : pid = pid'
      · subst hp
        simp only [if_true, Option.bind_some, h, Keyed.get?_erase]
        by_cases hf : fd = fd' <;> simp [hf]
      · simp [hp]

end FdTable

/-- One operation on a descriptor table. -/
inductive TableStep where
  | put (pid fd : UInt32) (info : FdInfo)
  | get (pid fd : UInt32)
  | delete (pid fd : UInt32)
  | deletePid (pid : UInt32)
  | clear
  | len
  | isEmpty
  | pidLen (pid : UInt32)
  deriving DecidableEq, Repr

/-- What a table operation answers. -/
inductive TableReply where
  /-- A change, which answers nothing. -/
  | done
  | entry (info : Option FdInfo)
  | count (n : Nat)
  | flag (b : Bool)
  deriving DecidableEq, Repr

/-- Runs one operation on a table. -/
def FdTable.step (t : FdTable) : TableStep → TableReply × FdTable
  | .put pid fd info => (.done, t.put pid fd info)
  | .get pid fd => (.entry (t.get pid fd), t)
  | .delete pid fd => (.done, t.delete pid fd)
  | .deletePid pid => (.done, t.deletePid pid)
  | .clear => (.done, t.clear)
  | .len => (.count t.len, t)
  | .isEmpty => (.flag t.isEmpty, t)
  | .pidLen pid => (.count (t.pidLen pid), t)

/-- Runs operations in order, answering each, and gives the table they leave. -/
def FdTable.run (t : FdTable) : List TableStep → List TableReply × FdTable
  | [] => ([], t)
  | s :: rest =>
    let (r, t) := t.step s
    let (rs, t) := t.run rest
    (r :: rs, t)

end SyscallTrace.Descriptor
