import Mathlib
import SyscallTrace.Proofs.Gather
import SyscallTrace.Event.Decoded

/-!
# The bundled snapshot compiles

The decoder of recorded events is built by gathering the bundled snapshot, one tracepoint
directory per considered syscall. This module shows that every format of the snapshot reads
back from its UTF-8 bytes and compiles, so gathering succeeds, and that the decoder therefore
knows exactly the considered syscalls, each once.

The formats are long text constants. Their characters are obtained by rewriting each literal
into `String.ofList` of its characters, which Lean checks at once, rather than by reducing
`String.toList` on the literal; the compilation is then run on the characters themselves.

## Results

* `Utf8.decode?_encode_of_ascii`: ASCII text reads back strictly from its bytes.
* `snapshot_formats`: each format of the snapshot is considered, reads back and compiles.
* `gather_snapshotDir`: the snapshot gathers to its compiled formats, sorted by name.
* `bundledNames_perm`: the decoder knows the considered syscalls, each once.
-/

set_option autoImplicit false

namespace SyscallTrace.Text.Utf8

theorem decodeUpTo_ascii (cs : List Char) (h : ∀ c ∈ cs, c.toNat < 128) :
    decodeUpTo cs.length (cs.map fun c => c.val.toUInt8) = some cs := by
  induction cs with
  | nil => rfl
  | cons c cs ih =>
    have hc := toNat_toUInt8_of_ascii (h c (List.mem_cons_self ..))
    have hlt : c.val.toUInt8.toNat < 128 := hc ▸ h c (List.mem_cons_self ..)
    rw [List.length_cons, List.map_cons, decodeUpTo, next_of_lt hlt, hc, Char.ofNat_toNat]
    show Option.map (c :: ·) (decodeUpTo cs.length (cs.map _)) = some (c :: cs)
    rw [ih fun x hx => h x (List.mem_cons_of_mem c hx)]
    rfl

/-- ASCII text reads back strictly from its bytes. -/
theorem decode?_encode_of_ascii {s : String} (h : ∀ c ∈ s.toList, c.toNat < 128) :
    decode? (encode s) = some s := by
  have hlen : (s.toList.map fun c => c.val.toUInt8).length = s.toList.length := List.length_map _
  rw [decode?, decodeChars?, encode_of_ascii h, hlen, decodeUpTo_ascii _ h, Option.map_some,
    String.ofList_toList]

end SyscallTrace.Text.Utf8

namespace SyscallTrace.Schema

open SyscallTrace.Text

/-! ## The formats of the snapshot -/

/-- The characters of a string written as `String.ofList` of them. A literal unifies with
`String.ofList` of its characters, so rewriting with this lemma reads a literal's characters
off without computing `String.toList`. -/
theorem toList_of_eq_ofList {s : String} {l : List Char} (h : s = String.ofList l) :
    s.toList = l := by
  rw [h, String.toList_ofList]

/-- A format of the snapshot: its syscall is considered, and its text reads back from its UTF-8
bytes and compiles. -/
def SnapshotFormat (name format : String) : Prop :=
  name ∈ consideredSyscalls ∧ FormatFile.text? (.bytes (Utf8.encode format)) = some format ∧
    ∃ v, compileSyscall name format = .ok v

theorem snapshotFormat_of_chars {name format : String} (hn : name ∈ consideredSyscalls)
    (hascii : format.toList.all (fun c => decide (c.toNat < 128)) = true)
    (hok : (compileLines name ((lines format.toList).dropWhile fun l => !l.isEmpty) []).toOption.isSome) :
    SnapshotFormat name format := by
  refine ⟨hn, ?_, ?_⟩
  · have h : ∀ c ∈ format.toList, c.toNat < 128 := fun c hc => by
      simpa using List.all_eq_true.1 hascii c hc
    exact Utf8.decode?_encode_of_ascii h
  · obtain ⟨ps, hps⟩ := exists_eq_ok_of_isSome hok
    unfold compileSyscall bodyLines
    rw [hps]
    exact ⟨_, rfl⟩

/-- The tracepoints of the snapshot: each syscall with its format. -/
def snapshotSources : List (String × String) :=
  [("chmod", formatChmod), ("chown", formatChown), ("close", formatClose),
   ("fchmod", formatFchmod), ("fchmodat", formatFchmodat), ("fchown", formatFchown),
   ("fchownat", formatFchownat), ("mkdir", formatMkdir), ("mkdirat", formatMkdirat),
   ("open", formatOpen), ("read", formatRead), ("write", formatWrite)]

/-- Every format of the snapshot is considered, reads back from its bytes and compiles. -/
theorem snapshot_formats : ∀ p ∈ snapshotSources, SnapshotFormat p.1 p.2 := by
  intro p hp
  simp only [snapshotSources, List.mem_cons, List.not_mem_nil, or_false] at hp
  rcases hp with rfl | rfl | rfl | rfl | rfl | rfl | rfl | rfl | rfl | rfl | rfl | rfl <;>
    refine snapshotFormat_of_chars (by simp [consideredSyscalls]) ?_ ?_ <;>
    delta formatChmod formatChown formatClose formatFchmod formatFchmodat formatFchown
      formatFchownat formatMkdir formatMkdirat formatOpen formatRead formatWrite <;>
    (repeat rewrite [String.toList_append]) <;>
    (repeat rewrite [toList_of_eq_ofList rfl]) <;>
    decide +kernel

/-! ## Gathering the snapshot -/

/-- The entry of a tracepoint directory that holds a syscall's format. -/
def sourceEntry (p : String × String) : TraceEntry :=
  .subdir ("sys_enter_" ++ p.1) (.bytes (Utf8.encode p.2))

theorem snapshotDir_eq :
    snapshotDir = ⟨"formats/syscalls", .ok (snapshotSources.map sourceEntry)⟩ := rfl

theorem source?_sourceEntry {p : String × String} (h : SnapshotFormat p.1 p.2) :
    (sourceEntry p).source? = some p :=
  (source?_eq_some_iff _ _ _).2 ⟨h.1, _, rfl, h.2.1⟩

/-- Gathering a listing of formats compiles each of them, in the order listed. -/
theorem filterMap_source?_sourceEntry {ps : List (String × String)}
    (h : ∀ p ∈ ps, SnapshotFormat p.1 p.2) :
    (ps.map sourceEntry).filterMap TraceEntry.source? = ps := by
  induction ps with
  | nil => rfl
  | cons p ps ih =>
    rw [List.map_cons, List.filterMap_cons, source?_sourceEntry (h p (List.mem_cons_self ..))]
    exact congrArg (p :: ·) (ih fun q hq => h q (List.mem_cons_of_mem p hq))

/-- The snapshot gathers to its compiled formats, sorted by name. -/
theorem gather_snapshotDir : ∃ vs, CompilesTo snapshotSources vs ∧
    gather snapshotDir = .ok (SchemaSet.ofViews (sortViews vs)) := by
  obtain ⟨vs, hvs⟩ :=
    (exists_compilesTo_iff snapshotSources).2 fun p hp => (snapshot_formats p hp).2.2
  refine ⟨vs, hvs, ?_⟩
  rw [snapshotDir_eq, gather_eq_ok_iff, filterMap_source?_sourceEntry snapshot_formats]
  exact ⟨vs, hvs, rfl⟩

end SyscallTrace.Schema

namespace SyscallTrace.Event

open SyscallTrace.Schema

/-! ## The decoder's layouts -/

theorem layoutsOf_ofViews (ws : List SyscallViews) :
    layoutsOf (SchemaSet.ofViews ws) = ws.map fun v => ⟨v.1, v.2.1, v.2.2⟩ := by
  induction ws with
  | nil => rfl
  | cons w ws ih => exact congrArg (⟨w.1, w.2.1, w.2.2⟩ :: ·) ih

/-- The decoder's layouts are the snapshot's compiled formats, sorted by name. -/
theorem bundledLayouts_eq : ∃ vs, CompilesTo snapshotSources vs ∧
    bundledLayouts = (sortViews vs).map fun v => ⟨v.1, v.2.1, v.2.2⟩ := by
  obtain ⟨vs, hvs, hg⟩ := gather_snapshotDir
  refine ⟨vs, hvs, ?_⟩
  show gatheredLayouts (gather snapshotDir) = _
  rw [hg]
  exact layoutsOf_ofViews _

/-- The decoder knows the considered syscalls, each once. -/
theorem bundledNames_perm :
    (bundledLayouts.map (·.decoder.rawName)).Perm consideredSyscalls := by
  obtain ⟨vs, hvs, hb⟩ := bundledLayouts_eq
  have hsorted : bundledLayouts.map (·.decoder.rawName) = (sortViews vs).map (·.1.rawName) := by
    rw [hb, List.map_map]
    rfl
  have hsources : snapshotSources.map (·.1) = ["chmod", "chown", "close", "fchmod", "fchmodat",
      "fchown", "fchownat", "mkdir", "mkdirat", "open", "read", "write"] := rfl
  calc bundledLayouts.map (·.decoder.rawName)
      _ = (sortViews vs).map (·.1.rawName) := hsorted
      List.Perm _ (vs.map (·.1.rawName)) := (List.mergeSort_perm _ _).map _
      _ = snapshotSources.map (·.1) := hvs.names
      List.Perm _ consideredSyscalls := by rw [hsources]; decide +kernel

end SyscallTrace.Event
