import Mathlib
import SyscallTrace.Descriptor.Table

/-!
# The descriptor table as one flat map

The table keeps its entries per process, so that every descriptor of a process can be dropped
at once. Seen from outside it is a single finite map from a process and a descriptor to an
entry: writing replaces one binding, deleting removes one, dropping a process removes all of
its bindings, and the counts count bindings. This module defines that flat map and shows that
the nested table answers every sequence of operations exactly as the flat map does.

Lookups agree for any table; the counts agree only because the table keeps a shape
(`FdTable.Valid`): each process is listed once, each descriptor once within its process, and no
process is left without descriptors. Every operation keeps that shape.

## Results

* `FdTable.view_put`, `FdTable.view_delete`, `FdTable.view_deletePid`: each change of the
  table is the corresponding change of the flat map.
* `FdTable.card_keys_view`, `FdTable.card_pidKeys_view`: on a table of the kept shape, the
  counts are the numbers of bindings.
* `FdTable.Valid.step`: every operation keeps the shape.
* `FdTable.view_step`, `FdTable.reply_step`: one operation leaves and answers what the flat map
  does.
* `FdTable.run_view`: a run answers as the flat map does, step by step.
* `nested_table_refines_flat_map`: from an empty table, every sequence of operations answers as
  the flat map does, and no process without descriptors is ever kept.
-/

set_option autoImplicit false

namespace SyscallTrace.Descriptor

/-- A finite map from a process and one of its descriptors to the entry recorded for them. -/
@[ext] structure FlatTable where
  find : UInt32 × UInt32 → Option FdInfo

namespace FlatTable

/-- The map with no binding. -/
def empty : FlatTable := ⟨fun _ => none⟩

/-- Binds `k` to `info`, replacing what was there. -/
def set (m : FlatTable) (k : UInt32 × UInt32) (info : FdInfo) : FlatTable :=
  ⟨Function.update m.find k (some info)⟩

/-- Removes the binding of `k`. -/
def erase (m : FlatTable) (k : UInt32 × UInt32) : FlatTable :=
  ⟨Function.update m.find k none⟩

/-- Removes every binding of process `pid`. -/
def erasePid (m : FlatTable) (pid : UInt32) : FlatTable :=
  ⟨fun k => if k.1 = pid then none else m.find k⟩

/-- The bound keys. -/
def keys (m : FlatTable) : Finset (UInt32 × UInt32) :=
  Finset.univ.filter fun k => (m.find k).isSome

/-- Runs one operation: the counts count bindings, and the map is empty when it has no key. -/
def step (m : FlatTable) : TableStep → TableReply × FlatTable
  | .put pid fd info => (.done, m.set (pid, fd) info)
  | .get pid fd => (.entry (m.find (pid, fd)), m)
  | .delete pid fd => (.done, m.erase (pid, fd))
  | .deletePid pid => (.done, m.erasePid pid)
  | .clear => (.done, empty)
  | .len => (.count m.keys.card, m)
  | .isEmpty => (.flag (decide (m.keys = ∅)), m)
  | .pidLen pid => (.count (m.keys.filter (·.1 = pid)).card, m)

/-- Runs operations in order, answering each, and gives the map they leave. -/
def run (m : FlatTable) : List TableStep → List TableReply × FlatTable
  | [] => ([], m)
  | s :: rest =>
    let (r, m) := m.step s
    let (rs, m) := m.run rest
    (r :: rs, m)

@[simp] theorem find_empty (k : UInt32 × UInt32) : empty.find k = none := rfl

theorem mem_keys (m : FlatTable) (k : UInt32 × UInt32) : k ∈ m.keys ↔ (m.find k).isSome := by
  simp [keys]

@[simp] theorem find_set (m : FlatTable) (k k' : UInt32 × UInt32) (info : FdInfo) :
    (m.set k info).find k' = if k' = k then some info else m.find k' :=
  Function.update_apply m.find k (some info) k'

@[simp] theorem find_erase (m : FlatTable) (k k' : UInt32 × UInt32) :
    (m.erase k).find k' = if k' = k then none else m.find k' :=
  Function.update_apply m.find k none k'

@[simp] theorem find_erasePid (m : FlatTable) (pid : UInt32) (k : UInt32 × UInt32) :
    (m.erasePid pid).find k = if k.1 = pid then none else m.find k := rfl

theorem run_cons (m : FlatTable) (s : TableStep) (rest : List TableStep) :
    m.run (s :: rest) = ((m.step s).1 :: ((m.step s).2.run rest).1, ((m.step s).2.run rest).2) :=
  rfl

end FlatTable

namespace FdTable

/-- The table as one flat map. -/
def view (t : FdTable) : FlatTable := ⟨fun k => t.get k.1 k.2⟩

@[simp] theorem find_view (t : FdTable) (k : UInt32 × UInt32) : t.view.find k = t.get k.1 k.2 :=
  rfl

theorem run_cons (t : FdTable) (s : TableStep) (rest : List TableStep) :
    t.run (s :: rest) = ((t.step s).1 :: ((t.step s).2.run rest).1, ((t.step s).2.run rest).2) :=
  rfl

/-- A lookup is a lookup among the descriptors of the process. -/
theorem get_eq_get?_fdsOf (t : FdTable) (pid fd : UInt32) :
    t.get pid fd = Keyed.get? (t.fdsOf pid) fd := by
  unfold get fdsOf
  cases Keyed.get? t.procs pid <;> rfl

/-! ## Each change is the flat change -/

theorem view_empty : empty.view = FlatTable.empty := rfl

theorem view_put (t : FdTable) (pid fd : UInt32) (info : FdInfo) :
    (t.put pid fd info).view = t.view.set (pid, fd) info := by
  ext1
  funext ⟨p, f⟩
  rw [find_view, get_put, FlatTable.find_set, find_view]
  by_cases h : pid = p ∧ fd = f
  · obtain ⟨rfl, rfl⟩ := h
    simp
  · rw [if_neg h, if_neg]
    rintro ⟨⟩
    exact h ⟨rfl, rfl⟩

theorem view_delete (t : FdTable) (pid fd : UInt32) :
    (t.delete pid fd).view = t.view.erase (pid, fd) := by
  ext1
  funext ⟨p, f⟩
  rw [find_view, get_delete, FlatTable.find_erase, find_view]
  by_cases h : pid = p ∧ fd = f
  · obtain ⟨rfl, rfl⟩ := h
    simp
  · rw [if_neg h, if_neg]
    rintro ⟨⟩
    exact h ⟨rfl, rfl⟩

theorem view_deletePid (t : FdTable) (pid : UInt32) :
    (t.deletePid pid).view = t.view.erasePid pid := by
  ext1
  funext ⟨p, f⟩
  rw [find_view, get_deletePid, FlatTable.find_erasePid, find_view]
  by_cases h : pid = p
  · subst h
    simp
  · rw [if_neg h, if_neg (Ne.symm h)]

/-! ## The kept shape -/

/-- The shape the table keeps: every process is listed once and has at least one descriptor,
and the descriptors of a process are listed once each. -/
structure Valid (t : FdTable) : Prop where
  pids_nodup : (t.procs.map (·.1)).Nodup
  fds_nodup : ∀ p ∈ t.procs, (p.2.map (·.1)).Nodup
  fds_ne_nil : ∀ p ∈ t.procs, p.2 ≠ []

theorem valid_empty : empty.Valid where
  pids_nodup := List.nodup_nil
  fds_nodup _ h := nomatch h
  fds_ne_nil _ h := nomatch h

variable {t : FdTable}

theorem Valid.fdsOf (hv : t.Valid) (pid : UInt32) : ((t.fdsOf pid).map (·.1)).Nodup := by
  unfold FdTable.fdsOf
  cases h : Keyed.get? t.procs pid with
  | none => exact List.nodup_nil
  | some fds => exact hv.fds_nodup _ (Keyed.mem_of_get?_eq_some h)

theorem Valid.put (hv : t.Valid) (pid fd : UInt32) (info : FdInfo) :
    (t.put pid fd info).Valid where
  pids_nodup := Keyed.nodup_keys_set hv.pids_nodup _ _
  fds_nodup p hp := by
    rcases Keyed.mem_set hp with rfl | hp
    · exact Keyed.nodup_keys_set (hv.fdsOf pid) fd info
    · exact hv.fds_nodup p hp
  fds_ne_nil p hp := by
    rcases Keyed.mem_set hp with rfl | hp
    · exact Keyed.set_ne_nil _ fd info
    · exact hv.fds_ne_nil p hp

theorem Valid.deletePid (hv : t.Valid) (pid : UInt32) : (t.deletePid pid).Valid where
  pids_nodup := Keyed.nodup_keys_erase hv.pids_nodup pid
  fds_nodup p hp := hv.fds_nodup p (Keyed.mem_erase.mp hp).1
  fds_ne_nil p hp := hv.fds_ne_nil p (Keyed.mem_erase.mp hp).1

theorem Valid.delete (hv : t.Valid) (pid fd : UInt32) : (t.delete pid fd).Valid := by
  unfold FdTable.delete
  cases h : Keyed.get? t.procs pid with
  | none => exact hv
  | some fds =>
    have hfds : (fds.map (·.1)).Nodup := hv.fds_nodup _ (Keyed.mem_of_get?_eq_some h)
    dsimp only
    split
    · -- the last descriptor went: the process goes with it
      exact hv.deletePid pid
    · rename_i hrest
      refine ⟨Keyed.nodup_keys_set hv.pids_nodup _ _, ?_, ?_⟩
      · intro p hp
        rcases Keyed.mem_set hp with rfl | hp
        · exact Keyed.nodup_keys_erase hfds fd
        · exact hv.fds_nodup p hp
      · intro p hp
        rcases Keyed.mem_set hp with rfl | hp
        · exact fun hnil => hrest (List.isEmpty_iff.mpr hnil)
        · exact hv.fds_ne_nil p hp

theorem Valid.step (hv : t.Valid) (s : TableStep) : (t.step s).2.Valid := by
  cases s with
  | put pid fd info => exact hv.put pid fd info
  | delete pid fd => exact hv.delete pid fd
  | deletePid pid => exact hv.deletePid pid
  | clear => exact valid_empty
  | get | len | isEmpty | pidLen => exact hv

/-! ## Counting bindings -/

/-- Every key of the table, process by process. -/
def keyList (t : FdTable) : List (UInt32 × UInt32) :=
  t.procs.flatMap fun p => p.2.map fun e => (p.1, e.1)

theorem length_keyList (t : FdTable) : t.keyList.length = t.len := by
  obtain ⟨procs⟩ := t
  unfold keyList len
  induction procs with
  | nil => rfl
  | cons p rest ih =>
    simp only [List.flatMap_cons, List.length_append, List.length_map, List.map_cons,
      List.foldr_cons] at ih ⊢
    rw [ih]

theorem mem_keyList (t : FdTable) (k : UInt32 × UInt32) :
    k ∈ t.keyList ↔ ∃ p ∈ t.procs, p.1 = k.1 ∧ k.2 ∈ p.2.map (·.1) := by
  unfold keyList
  simp only [List.mem_flatMap, List.mem_map]
  constructor
  · rintro ⟨p, hp, e, he, rfl⟩
    exact ⟨p, hp, rfl, e, he, rfl⟩
  · rintro ⟨p, hp, hk, e, he, hf⟩
    exact ⟨p, hp, e, he, by rw [hk, hf]⟩

/-- With each process listed once, a key is bound exactly when it is one of the listed keys. -/
theorem isSome_get_iff (hv : t.Valid) (pid fd : UInt32) :
    (t.get pid fd).isSome ↔ (pid, fd) ∈ t.keyList := by
  rw [mem_keyList]
  constructor
  · intro h
    unfold FdTable.get at h
    cases hp : Keyed.get? t.procs pid with
    | none => simp [hp] at h
    | some fds =>
      rw [hp, Option.bind_some, Keyed.isSome_get?] at h
      exact ⟨(pid, fds), Keyed.mem_of_get?_eq_some hp, rfl, h⟩
  · rintro ⟨⟨p, fds⟩, hp, hpid, hf⟩
    cases hpid
    have hfind : Keyed.get? t.procs pid = some fds := Keyed.get?_eq_some_of_mem hv.pids_nodup hp
    unfold FdTable.get
    rw [hfind, Option.bind_some, Keyed.isSome_get?]
    exact hf

theorem nodup_keyList (hv : t.Valid) : t.keyList.Nodup := by
  unfold keyList
  rw [List.nodup_flatMap]
  refine ⟨fun p hp => ?_, ?_⟩
  · have hmap : (p.2.map fun e => (p.1, e.1)) = (p.2.map (·.1)).map (Prod.mk p.1) := by
      rw [List.map_map]
      rfl
    rw [hmap]
    exact (hv.fds_nodup p hp).map (Prod.mk_right_injective p.1)
  · -- keys of two different processes differ in their first component
    have hpids : t.procs.Pairwise fun p q => p.1 ≠ q.1 := List.pairwise_map.mp hv.pids_nodup
    refine hpids.imp fun hne => ?_
    intro k hp hq
    obtain ⟨_, _, rfl⟩ := List.mem_map.mp hp
    obtain ⟨_, _, hk⟩ := List.mem_map.mp hq
    exact hne (congrArg Prod.fst hk).symm

theorem keys_view (hv : t.Valid) : t.view.keys = t.keyList.toFinset := by
  ext ⟨pid, fd⟩
  rw [FlatTable.mem_keys, find_view, List.mem_toFinset]
  exact isSome_get_iff hv pid fd

theorem card_keys_view (hv : t.Valid) : t.view.keys.card = t.len := by
  rw [keys_view hv, List.toFinset_card_of_nodup (nodup_keyList hv), length_keyList]

theorem pidKeys_view (t : FdTable) (pid : UInt32) :
    t.view.keys.filter (·.1 = pid) = ((t.fdsOf pid).map fun e => (pid, e.1)).toFinset := by
  ext ⟨p, f⟩
  rw [Finset.mem_filter, FlatTable.mem_keys, find_view, List.mem_toFinset, List.mem_map]
  dsimp only
  rw [get_eq_get?_fdsOf, Keyed.isSome_get?, List.mem_map]
  constructor
  · rintro ⟨⟨e, he, hf⟩, rfl⟩
    exact ⟨e, he, by rw [hf]⟩
  · rintro ⟨e, he, hk⟩
    cases hk
    exact ⟨⟨e, he, rfl⟩, rfl⟩

theorem card_pidKeys_view (hv : t.Valid) (pid : UInt32) :
    (t.view.keys.filter (·.1 = pid)).card = t.pidLen pid := by
  have hmap : ((t.fdsOf pid).map fun e => (pid, e.1)) = ((t.fdsOf pid).map (·.1)).map (Prod.mk pid) := by
    rw [List.map_map]
    rfl
  have hnodup : ((t.fdsOf pid).map fun e => (pid, e.1)).Nodup := by
    rw [hmap]
    exact (hv.fdsOf pid).map (Prod.mk_right_injective pid)
  rw [pidKeys_view, List.toFinset_card_of_nodup hnodup, List.length_map]
  rfl

/-! ## Runs answer as the flat map -/

/-- Every operation leaves the flat map's result, whatever the shape of the table. -/
theorem view_step (t : FdTable) (s : TableStep) : (t.step s).2.view = (t.view.step s).2 := by
  cases s with
  | put pid fd info => exact view_put t pid fd info
  | delete pid fd => exact view_delete t pid fd
  | deletePid pid => exact view_deletePid t pid
  | clear => exact view_empty
  | get | len | isEmpty | pidLen => rfl

/-- On a table of the kept shape, every operation answers as the flat map does. -/
theorem reply_step (hv : t.Valid) (s : TableStep) : (t.step s).1 = (t.view.step s).1 := by
  cases s with
  | len => exact congrArg TableReply.count (card_keys_view hv).symm
  | isEmpty =>
    have h : t.isEmpty = decide (t.view.keys = ∅) := by
      rw [FdTable.isEmpty, ← card_keys_view hv, Bool.eq_iff_iff, beq_iff_eq, decide_eq_true_iff,
        Finset.card_eq_zero]
    exact congrArg TableReply.flag h
  | pidLen pid => exact congrArg TableReply.count (card_pidKeys_view hv pid).symm
  | put | get | delete | deletePid | clear => rfl

/-- A run from a table of the kept shape answers as the flat map does, leaves the flat map's
result, and keeps the shape. -/
theorem run_view (hv : t.Valid) (steps : List TableStep) :
    (t.run steps).1 = (t.view.run steps).1 ∧ (t.run steps).2.view = (t.view.run steps).2 ∧
      (t.run steps).2.Valid := by
  induction steps generalizing t with
  | nil => exact ⟨rfl, rfl, hv⟩
  | cons s rest ih =>
    obtain ⟨hreplies, hview, hvalid⟩ := ih (hv.step s)
    rw [run_cons, FlatTable.run_cons, ← reply_step hv s, ← view_step t s]
    exact ⟨by rw [hreplies], hview, hvalid⟩

end FdTable

/-- Every sequence of operations on an empty table answers, step by step, what the flat map
answers under the same operations; the table it leaves is the flat map's, and it holds no
process without descriptors. -/
theorem nested_table_refines_flat_map (steps : List TableStep) :
    (FdTable.empty.run steps).1 = (FlatTable.empty.run steps).1 ∧
      (FdTable.empty.run steps).2.view = (FlatTable.empty.run steps).2 ∧
      ∀ p ∈ (FdTable.empty.run steps).2.procs, p.2 ≠ [] := by
  obtain ⟨hreplies, hview, hvalid⟩ := FdTable.run_view FdTable.valid_empty steps
  rw [FdTable.view_empty] at hreplies hview
  exact ⟨hreplies, hview, hvalid.fds_ne_nil⟩

end SyscallTrace.Descriptor
