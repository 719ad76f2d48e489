import Mathlib
import SyscallTrace.Proofs.EventEncoding

/-!
# Gathering a tracepoint directory

Gathering compiles, in listing order, the entries that are the entry tracepoint of a considered
syscall with a UTF-8 format (`EntersSyscall`), stops at the first format that does not compile,
and then sorts each of the three views by syscall name on its own. This module shows what the
walk gives in terms of the entries alone:

* it succeeds exactly when the directory can be listed and each such entry compiles;
* each view then holds one syscall per such entry, the three views of one entry at the same
  index, in strictly increasing order of the name's bytes: the three sorts agree because the
  sort is stable and the three key sequences are the same;
* so the outcome, when it is a success, does not depend on the order of the listing, and an
  entry of any other kind can be taken out of the listing without changing anything.

A real directory lists each name once (`DistinctNames`); order and strictness rest on that.

## Results

* `compileAll_eq_ok_iff`: compiling pairs gives the views of each pair in order.
* `enteredSyscall?_eq_some_iff`, `source?_eq_some_iff`: which entries are compiled.
* `sorted_ofViews`: sorting the three views one by one sorts the compiled syscalls.
* `gather_eq_ok_iff`: the gathered set, through the compiled views of the listed entries.
* `gather_spec`: success, value, order independence and the entries that never count.
-/

set_option autoImplicit false

namespace SyscallTrace.Schema

open SyscallTrace.Text

/-! ## Compiling pairs in order -/

/-- The schema set whose index `i` holds the three views of the `i`-th compiled syscall. -/
def SchemaSet.ofViews (vs : List SyscallViews) : SchemaSet :=
  ⟨vs.map (·.1), vs.map (·.2.1), vs.map (·.2.2)⟩

@[simp] theorem SchemaSet.ofViews_nil : SchemaSet.ofViews [] = SchemaSet.empty := rfl

theorem SchemaSet.push_ofViews (vs : List SyscallViews) (v : SyscallViews) :
    (SchemaSet.ofViews vs).push v.1 v.2.1 v.2.2 = SchemaSet.ofViews (vs ++ [v]) := by
  simp [SchemaSet.ofViews, SchemaSet.push]

/-- Each pair compiles to the views at the same index. -/
def CompilesTo (pairs : List (String × String)) (vs : List SyscallViews) : Prop :=
  List.Forall₂ (fun p v => compileSyscall p.1 p.2 = .ok v) pairs vs

theorem compileOnto_eq_ok_iff (us : List SyscallViews) (pairs : List (String × String))
    (s : SchemaSet) :
    compileOnto (SchemaSet.ofViews us) pairs = .ok s ↔
      ∃ vs, CompilesTo pairs vs ∧ s = SchemaSet.ofViews (us ++ vs) := by
  induction pairs generalizing us with
  | nil =>
    simp only [compileOnto, Except.ok.injEq, CompilesTo, List.forall₂_nil_left_iff,
      exists_eq_left, List.append_nil]
    exact eq_comm
  | cons p pairs ih =>
    obtain ⟨name, format⟩ := p
    simp only [CompilesTo, List.forall₂_cons_left_iff]
    cases hc : compileSyscall name format with
    | error e => simp [compileOnto, hc]
    | ok v =>
      have hstep : compileOnto (SchemaSet.ofViews us) ((name, format) :: pairs) =
          compileOnto (SchemaSet.ofViews (us ++ [v])) pairs := by
        simp only [compileOnto, hc, ← SchemaSet.push_ofViews]
      rw [hstep, ih]
      constructor
      · rintro ⟨vs, hvs, rfl⟩
        exact ⟨v :: vs, ⟨v, vs, rfl, hvs, rfl⟩, by simp⟩
      · rintro ⟨_, ⟨w, vs, hw, hvs, rfl⟩, rfl⟩
        cases hw
        exact ⟨vs, hvs, by simp⟩

/-- Compiling pairs succeeds with the views of each pair, in order. -/
theorem compileAll_eq_ok_iff (pairs : List (String × String)) (s : SchemaSet) :
    compileAll pairs = .ok s ↔ ∃ vs, CompilesTo pairs vs ∧ s = SchemaSet.ofViews vs := by
  rw [compileAll, ← SchemaSet.ofViews_nil, compileOnto_eq_ok_iff]
  simp only [List.nil_append]

theorem exists_compilesTo_iff (pairs : List (String × String)) :
    (∃ vs, CompilesTo pairs vs) ↔ ∀ p ∈ pairs, ∃ v, compileSyscall p.1 p.2 = .ok v := by
  induction pairs with
  | nil => exact iff_of_true ⟨[], List.Forall₂.nil⟩ (fun _ h => absurd h List.not_mem_nil)
  | cons p pairs ih =>
    simp only [CompilesTo, List.forall₂_cons_left_iff, List.forall_mem_cons] at ih ⊢
    constructor
    · rintro ⟨_, v, vs, hv, hvs, rfl⟩
      exact ⟨⟨v, hv⟩, ih.1 ⟨vs, hvs⟩⟩
    · rintro ⟨⟨v, hv⟩, hrest⟩
      obtain ⟨vs, hvs⟩ := ih.2 hrest
      exact ⟨v :: vs, v, vs, hv, hvs, rfl⟩

/-- The views of a listing are determined by it. -/
theorem CompilesTo.unique {pairs : List (String × String)} {vs ws : List SyscallViews}
    (hv : CompilesTo pairs vs) (hw : CompilesTo pairs ws) : vs = ws := by
  induction hv generalizing ws with
  | nil => exact (List.forall₂_nil_left_iff.1 hw).symm
  | cons hp _ ih =>
    obtain ⟨w, ws', hw', hws', rfl⟩ := List.forall₂_cons_left_iff.1 hw
    rw [hp] at hw'
    rw [Except.ok.inj hw', ih hws']

/-! ## The name a compiled syscall carries -/

/-- The three views of a compiled syscall carry the name it was compiled under. -/
theorem rawName_of_compileSyscall {name format : String} {v : SyscallViews}
    (h : compileSyscall name format = .ok v) :
    v.1.rawName = name ∧ v.2.1.rawName = name ∧ v.2.2.rawName = name := by
  unfold compileSyscall at h
  split at h
  · cases h
  · cases h
    exact ⟨rfl, rfl, rfl⟩

/-- Views whose kernel and wire parts name the syscall of the decoder part. -/
def SameName (v : SyscallViews) : Prop :=
  v.2.1.rawName = v.1.rawName ∧ v.2.2.rawName = v.1.rawName

theorem CompilesTo.sameName {pairs : List (String × String)} {vs : List SyscallViews}
    (h : CompilesTo pairs vs) : ∀ v ∈ vs, SameName v := by
  induction h with
  | nil => exact fun _ hv => absurd hv List.not_mem_nil
  | cons hv _ ih =>
    rintro w (_ | ⟨_, hw⟩)
    · obtain ⟨h1, h2, h3⟩ := rawName_of_compileSyscall hv
      exact ⟨h2.trans h1.symm, h3.trans h1.symm⟩
    · exact ih w hw

theorem CompilesTo.names {pairs : List (String × String)} {vs : List SyscallViews}
    (h : CompilesTo pairs vs) : vs.map (·.1.rawName) = pairs.map (·.1) := by
  induction h with
  | nil => rfl
  | cons hv _ ih => rw [List.map_cons, List.map_cons, ih, (rawName_of_compileSyscall hv).1]

theorem CompilesTo.mem {pairs : List (String × String)} {vs : List SyscallViews}
    (h : CompilesTo pairs vs) {v : SyscallViews} :
    v ∈ vs ↔ ∃ p ∈ pairs, compileSyscall p.1 p.2 = .ok v := by
  induction h with
  | nil => simp
  | @cons p w ps ws hw _ ih =>
    simp only [List.mem_cons, ih, exists_eq_or_imp]
    constructor
    · rintro (rfl | h)
      · exact .inl hw
      · exact .inr h
    · rintro (h | h)
      · rw [hw] at h
        exact .inl (Except.ok.inj h).symm
      · exact .inr h

/-! ## Sorting the three views -/

/-- Compiled syscalls sorted by name, keeping the order of equal names. -/
def sortViews (vs : List SyscallViews) : List SyscallViews :=
  vs.mergeSort fun a b => !(b.1.rawName < a.1.rawName)

/-- Sorting each view on its own sorts the compiled syscalls, as long as the three parts of
each name the same syscall: the sort is stable and sees the same keys in each view. -/
theorem sorted_ofViews {vs : List SyscallViews} (h : ∀ v ∈ vs, SameName v) :
    (SchemaSet.ofViews vs).sorted = SchemaSet.ofViews (sortViews vs) := by
  simp only [SchemaSet.sorted, SchemaSet.ofViews, sortViews, sortByName]
  congr 1
  · refine (List.map_mergeSort fun a _ b _ => ?_).symm
    rfl
  · refine (List.map_mergeSort fun a ha b hb => ?_).symm
    rw [(h a ha).1, (h b hb).1]
  · refine (List.map_mergeSort fun a ha b hb => ?_).symm
    rw [(h a ha).2, (h b hb).2]

theorem not_decide_lt_iff (a b : String) : (!decide (b < a)) = true ↔ a ≤ b := by
  rw [Bool.not_eq_true', decide_eq_false_iff_not, String.not_lt]

theorem pairwise_sortViews (vs : List SyscallViews) :
    (sortViews vs).Pairwise fun a b => a.1.rawName ≤ b.1.rawName := by
  have h : (sortViews vs).Pairwise fun a b => !(b.1.rawName < a.1.rawName) :=
    List.pairwise_mergeSort (fun a b c hab hbc => by
      rw [not_decide_lt_iff] at hab hbc ⊢
      exact String.le_trans hab hbc)
    (fun a b => by
      rw [Bool.or_eq_true, not_decide_lt_iff, not_decide_lt_iff]
      exact String.le_total a.1.rawName b.1.rawName)
    vs
  exact h.imp fun hab => (not_decide_lt_iff _ _).1 hab

/-! ## Which entries are compiled -/

/-- The entry is the entry tracepoint of the considered syscall `n`, a directory named
`sys_enter_<n>`, and its format reads as the UTF-8 text `text`. -/
def EntersSyscall (e : TraceEntry) (n text : String) : Prop :=
  n ∈ consideredSyscalls ∧ ∃ f, e = .subdir ("sys_enter_" ++ n) f ∧ f.text? = some text

theorem enteredSyscall?_eq_some_iff (dirName n : String) :
    enteredSyscall? dirName = some n ↔ dirName = "sys_enter_" ++ n ∧ n ∈ consideredSyscalls := by
  have henter : "sys_enter_".toList = ['s', 'y', 's', '_', 'e', 'n', 't', 'e', 'r', '_'] := rfl
  have hexit : "sys_exit".toList = ['s', 'y', 's', '_', 'e', 'x', 'i', 't'] := rfl
  have hlen : "sys_enter_".length = 10 := rfl
  unfold enteredSyscall?
  by_cases hx : "sys_exit".isPrefixOf dirName = true
  · rw [if_pos hx]
    refine iff_of_false nofun ?_
    rintro ⟨rfl, -⟩
    have hp := String.startsWith_string_iff.1 hx
    rw [String.toList_append, henter, hexit] at hp
    simp at hp
  · rw [if_neg hx]
    by_cases he : "sys_enter_".isPrefixOf dirName = true
    · rw [if_pos he]
      obtain ⟨t, ht⟩ := String.startsWith_string_iff.1 he
      have hname : ((dirName.drop "sys_enter_".length).toString) = String.ofList t := by
        rw [String.Slice.toString_eq, ← String.toList_inj, String.toList_copy_drop,
          @String.toList_ofList t, ← ht, hlen, henter]
        rfl
      have hdir : dirName = "sys_enter_" ++ String.ofList t := by
        rw [← String.toList_inj, String.toList_append, ← ht, @String.toList_ofList t]
      simp only [hname]
      by_cases hc : String.ofList t ∈ consideredSyscalls
      · rw [if_pos hc, Option.some.injEq]
        constructor
        · rintro rfl
          exact ⟨hdir, hc⟩
        · rintro ⟨h, -⟩
          rw [hdir] at h
          exact (String.append_right_inj _).1 h
      · rw [if_neg hc]
        refine iff_of_false nofun ?_
        rintro ⟨h, hn⟩
        rw [hdir] at h
        exact hc (((String.append_right_inj _).1 h) ▸ hn)
    · rw [if_neg he]
      refine iff_of_false nofun ?_
      rintro ⟨rfl, -⟩
      exact he (String.startsWith_string_iff.2 (by rw [String.toList_append]; exact List.prefix_append _ _))

theorem source?_subdir (dirName : String) (format : FormatFile) :
    (TraceEntry.subdir dirName format).source? =
      (enteredSyscall? dirName).bind fun n => format.text?.map (n, ·) := by
  simp only [TraceEntry.source?]
  cases enteredSyscall? dirName <;> cases format.text? <;> rfl

/-- An entry is compiled exactly when it is the entry tracepoint of a considered syscall with
a UTF-8 format. -/
theorem source?_eq_some_iff (e : TraceEntry) (n text : String) :
    e.source? = some (n, text) ↔ EntersSyscall e n text := by
  cases e with
  | subdir dirName format =>
    rw [source?_subdir, Option.bind_eq_some_iff]
    simp only [Option.map_eq_some_iff, Prod.mk.injEq, enteredSyscall?_eq_some_iff, EntersSyscall,
      TraceEntry.subdir.injEq]
    constructor
    · rintro ⟨m, ⟨rfl, hm⟩, t, ht, rfl, rfl⟩
      exact ⟨hm, format, ⟨rfl, rfl⟩, ht⟩
    · rintro ⟨hm, f, ⟨rfl, rfl⟩, ht⟩
      exact ⟨n, ⟨rfl, hm⟩, text, ht, rfl, rfl⟩
  | file name => simp [TraceEntry.source?, EntersSyscall]

/-- The name an entry is listed under. -/
def TraceEntry.name : TraceEntry → String
  | .subdir name _ => name
  | .file name => name

/-- A listing that names each entry once, as a directory does. -/
def DistinctNames (entries : List TraceEntry) : Prop :=
  (entries.map TraceEntry.name).Nodup

theorem name_of_entersSyscall {e : TraceEntry} {n text : String} (h : EntersSyscall e n text) :
    e.name = "sys_enter_" ++ n := by
  obtain ⟨-, f, rfl, -⟩ := h
  rfl

/-- Distinct entries enter distinct syscalls. -/
theorem nodup_sourceNames {entries : List TraceEntry} (h : DistinctNames entries) :
    ((entries.filterMap TraceEntry.source?).map (·.1)).Nodup := by
  induction entries with
  | nil => exact List.nodup_nil
  | cons e es ih =>
    rw [DistinctNames, List.map_cons, List.nodup_cons] at h
    cases hs : e.source? with
    | none => simpa [List.filterMap_cons, hs] using ih h.2
    | some p =>
      obtain ⟨n, t⟩ := p
      rw [List.filterMap_cons, hs, List.map_cons, List.nodup_cons]
      refine ⟨fun hn => h.1 ?_, ih h.2⟩
      obtain ⟨⟨m, t'⟩, hp, rfl⟩ := List.mem_map.1 hn
      obtain ⟨e', he', hs'⟩ := List.mem_filterMap.1 hp
      have hname : e'.name = e.name := by
        rw [name_of_entersSyscall ((source?_eq_some_iff _ _ _).1 hs'),
          name_of_entersSyscall ((source?_eq_some_iff _ _ _).1 hs)]
      exact hname ▸ List.mem_map_of_mem he'

/-! ## Gathering -/

theorem gather_unlisted (path reason : String) :
    gather ⟨path, .error reason⟩ = .error (.unlisted path reason) := rfl

theorem gather_eq_ok_iff (path : String) (entries : List TraceEntry) (s : SchemaSet) :
    gather ⟨path, .ok entries⟩ = .ok s ↔
      ∃ vs, CompilesTo (entries.filterMap TraceEntry.source?) vs ∧
        s = SchemaSet.ofViews (sortViews vs) := by
  unfold gather
  dsimp only
  cases hc : compileAll (entries.filterMap TraceEntry.source?) with
  | error e =>
    simp only [reduceCtorEq, false_iff, not_exists, not_and]
    intro vs hvs
    exact absurd ((compileAll_eq_ok_iff _ _).2 ⟨vs, hvs, rfl⟩) (by rw [hc]; nofun)
  | ok s' =>
    obtain ⟨vs, hvs, rfl⟩ := (compileAll_eq_ok_iff _ _).1 hc
    simp only [Except.ok.injEq]
    constructor
    · rintro rfl
      exact ⟨vs, hvs, sorted_ofViews hvs.sameName⟩
    · rintro ⟨ws, hws, rfl⟩
      rw [hws.unique hvs]
      exact sorted_ofViews hvs.sameName

/-- Gathering a listing succeeds exactly when each entry it compiles compiles. -/
theorem gather_ok_iff (path : String) (entries : List TraceEntry) :
    (∃ s, gather ⟨path, .ok entries⟩ = .ok s) ↔
      ∀ e ∈ entries, ∀ n text, EntersSyscall e n text → ∃ v, compileSyscall n text = .ok v := by
  have hviews : (∃ s, gather ⟨path, .ok entries⟩ = .ok s) ↔
      ∃ vs, CompilesTo (entries.filterMap TraceEntry.source?) vs := by
    simp only [gather_eq_ok_iff]
    exact ⟨fun ⟨_, vs, hvs, _⟩ => ⟨vs, hvs⟩, fun ⟨vs, hvs⟩ => ⟨_, vs, hvs, rfl⟩⟩
  rw [hviews, exists_compilesTo_iff]
  constructor
  · intro h e he n text hent
    exact h (n, text) (List.mem_filterMap.2 ⟨e, he, (source?_eq_some_iff e n text).2 hent⟩)
  · rintro h ⟨n, text⟩ hp
    obtain ⟨e, he, hs⟩ := List.mem_filterMap.1 hp
    exact h e he n text ((source?_eq_some_iff e n text).1 hs)

/-! ## The order of the gathered syscalls -/

/-- With distinct entries, the gathered syscalls stand in strictly increasing order of name. -/
theorem pairwise_lt_sortViews {entries : List TraceEntry} (h : DistinctNames entries)
    {vs : List SyscallViews} (hvs : CompilesTo (entries.filterMap TraceEntry.source?) vs) :
    (sortViews vs).Pairwise fun a b => a.1.rawName < b.1.rawName := by
  have hnames : ((sortViews vs).map (·.1.rawName)).Nodup := by
    refine ((List.mergeSort_perm vs _).map _).nodup_iff.2 ?_
    rw [hvs.names]
    exact nodup_sourceNames h
  rw [List.Nodup, List.pairwise_map] at hnames
  exact (pairwise_sortViews vs).imp₂ (fun _ _ hle hne => lt_of_le_of_ne hle hne) hnames

/-- ASCII characters are written as bytes in the same order. -/
theorem map_lt_map_of_ascii : ∀ {l₁ l₂ : List Char}, (∀ c ∈ l₁, c.toNat < 128) →
    (∀ c ∈ l₂, c.toNat < 128) → l₁ < l₂ →
      l₁.map (fun c => c.val.toUInt8) < l₂.map (fun c => c.val.toUInt8)
  | [], _ :: _, _, _, _ => List.Lex.nil
  | a :: _, _ :: _, h₁, h₂, .cons h =>
    List.Lex.cons (map_lt_map_of_ascii (fun c hc => h₁ c (List.mem_cons_of_mem a hc))
      (fun c hc => h₂ c (List.mem_cons_of_mem a hc)) h)
  | a :: _, b :: _, h₁, h₂, .rel h => by
    have ha := Utf8.toNat_toUInt8_of_ascii (h₁ a (List.mem_cons_self ..))
    have hb := Utf8.toNat_toUInt8_of_ascii (h₂ b (List.mem_cons_self ..))
    have hab : a.toNat < b.toNat := h
    refine List.Lex.rel ?_
    rw [UInt8.lt_iff_toNat_lt, ha, hb]
    exact hab

/-- Every considered syscall is named in ASCII. -/
theorem ascii_of_considered : ∀ n ∈ consideredSyscalls, ∀ c ∈ n.toList, c.toNat < 128 := by
  intro n hn
  simp only [consideredSyscalls, List.mem_cons, List.not_mem_nil, or_false] at hn
  rcases hn with rfl | rfl | rfl | rfl | rfl | rfl | rfl | rfl | rfl | rfl | rfl | rfl <;>
    rw [String.toList_ofList] <;> simp

theorem encode_lt_encode_of_considered {a b : String} (ha : a ∈ consideredSyscalls)
    (hb : b ∈ consideredSyscalls) (h : a < b) : Utf8.encode a < Utf8.encode b := by
  rw [Utf8.encode_of_ascii (ascii_of_considered a ha), Utf8.encode_of_ascii (ascii_of_considered b hb)]
  exact map_lt_map_of_ascii (ascii_of_considered a ha) (ascii_of_considered b hb) h

theorem mem_sortViews_iff {entries : List TraceEntry} {vs : List SyscallViews}
    (hvs : CompilesTo (entries.filterMap TraceEntry.source?) vs) (v : SyscallViews) :
    v ∈ sortViews vs ↔
      ∃ e ∈ entries, ∃ n text, EntersSyscall e n text ∧ compileSyscall n text = .ok v := by
  rw [sortViews, List.mem_mergeSort, hvs.mem]
  constructor
  · rintro ⟨⟨n, text⟩, hp, hv⟩
    obtain ⟨e, he, hs⟩ := List.mem_filterMap.1 hp
    exact ⟨e, he, n, text, (source?_eq_some_iff e n text).1 hs, hv⟩
  · rintro ⟨e, he, n, text, hent, hv⟩
    exact ⟨(n, text), List.mem_filterMap.2 ⟨e, he, (source?_eq_some_iff e n text).2 hent⟩, hv⟩

theorem considered_of_mem_sortViews {entries : List TraceEntry} {vs : List SyscallViews}
    (hvs : CompilesTo (entries.filterMap TraceEntry.source?) vs) {v : SyscallViews}
    (hv : v ∈ sortViews vs) : v.1.rawName ∈ consideredSyscalls := by
  obtain ⟨_, _, n, _, ⟨hn, -⟩, hc⟩ := (mem_sortViews_iff hvs v).1 hv
  rw [(rawName_of_compileSyscall hc).1]
  exact hn

/-- What a successful gathering holds: the three views of each compiled entry at one index,
in strictly increasing order of the name's bytes. -/
theorem gather_value {path : String} {entries : List TraceEntry} (h : DistinctNames entries)
    {s : SchemaSet} (hs : gather ⟨path, .ok entries⟩ = .ok s) :
    ∃ vs, s = SchemaSet.ofViews vs ∧
      (vs.map fun v => Utf8.encode v.1.rawName).Pairwise (· < ·) ∧
      ∀ v, v ∈ vs ↔ ∃ e ∈ entries, ∃ n text, EntersSyscall e n text ∧
        compileSyscall n text = .ok v := by
  obtain ⟨vs, hvs, rfl⟩ := (gather_eq_ok_iff path entries s).1 hs
  refine ⟨sortViews vs, rfl, ?_, mem_sortViews_iff hvs⟩
  rw [List.pairwise_map]
  exact (pairwise_lt_sortViews h hvs).imp_of_mem fun ha hb hab =>
    encode_lt_encode_of_considered (considered_of_mem_sortViews hvs ha)
      (considered_of_mem_sortViews hvs hb) hab

/-- Two listings of the same entries gather to the same set, or both fail. -/
theorem gather_perm {path : String} {entries entries' : List TraceEntry}
    (h : DistinctNames entries) (hp : entries'.Perm entries) :
    (gather ⟨path, .ok entries'⟩).toOption = (gather ⟨path, .ok entries⟩).toOption := by
  have h' : DistinctNames entries' := (hp.map _).nodup_iff.2 h
  have hsame := (gather_ok_iff path entries').trans
    ((forall_congr' fun e => by rw [hp.mem_iff]).trans (gather_ok_iff path entries).symm)
  cases hg : gather ⟨path, .ok entries⟩ with
  | error e =>
    cases hg' : gather ⟨path, .ok entries'⟩ with
    | error e' => rfl
    | ok s' =>
      obtain ⟨s, hs⟩ := hsame.1 ⟨s', hg'⟩
      rw [hs] at hg
      cases hg
  | ok s =>
    obtain ⟨s', hs'⟩ := hsame.2 ⟨s, hg⟩
    rw [hs']
    obtain ⟨vs, hvs, rfl⟩ := (gather_eq_ok_iff path entries s).1 hg
    obtain ⟨ws, hws, rfl⟩ := (gather_eq_ok_iff path entries' s').1 hs'
    have hlt := pairwise_lt_sortViews h hvs
    have hlt' := pairwise_lt_sortViews h' hws
    have hmem : ∀ v, v ∈ sortViews ws ↔ v ∈ sortViews vs := fun v => by
      rw [mem_sortViews_iff hws, mem_sortViews_iff hvs]
      simp only [hp.mem_iff]
    have hperm : (sortViews ws).Perm (sortViews vs) :=
      (List.perm_ext_iff_of_nodup (hlt'.imp fun hab heq => (heq ▸ hab).false)
        (hlt.imp fun hab heq => (heq ▸ hab).false)).2 hmem
    rw [hperm.eq_of_pairwise (fun a b _ _ hab hba => absurd hba (String.lt_asymm hab)) hlt' hlt]

/-- An entry that is not the entry tracepoint of a considered syscall with a UTF-8 format
changes nothing when it is taken out of the listing. -/
theorem gather_erase {path : String} {pre post : List TraceEntry} {e : TraceEntry}
    (he : ¬∃ n text, EntersSyscall e n text) :
    gather ⟨path, .ok (pre ++ e :: post)⟩ = gather ⟨path, .ok (pre ++ post)⟩ := by
  have hs : e.source? = none := by
    cases hs : e.source? with
    | none => rfl
    | some p => exact absurd ⟨p.1, p.2, (source?_eq_some_iff e p.1 p.2).1 hs⟩ he
  simp only [gather, List.filterMap_append, List.filterMap_cons, hs]

theorem exists_eq_ok_of_isSome {ε α : Type} {r : Except ε α} (h : r.toOption.isSome) :
    ∃ a, r = .ok a := by
  cases r with
  | error e => cases h
  | ok a => exact ⟨a, rfl⟩

/-- **Gathering depends on the entries, not on their listing.** A directory gathers exactly when
it can be listed and each entry tracepoint of a considered syscall with a UTF-8 format compiles.
For a listing that names each entry once, the gathered set then holds, index by index, the
three views of each such entry, in strictly increasing order of the name's bytes; any other
listing of the same entries gathers to the same set or fails as well; and an entry of any
other kind can be taken out of the listing without changing the outcome. -/
theorem gather_spec (dir : TraceDir) :
    ((∃ s, gather dir = .ok s) ↔ ∃ entries, dir.entries = .ok entries ∧
      ∀ e ∈ entries, ∀ n text, EntersSyscall e n text → ∃ v, compileSyscall n text = .ok v) ∧
    (∀ entries s, dir.entries = .ok entries → DistinctNames entries → gather dir = .ok s →
      ∃ vs, s = SchemaSet.ofViews vs ∧
        (vs.map fun v => Utf8.encode v.1.rawName).Pairwise (· < ·) ∧
        ∀ v, v ∈ vs ↔ ∃ e ∈ entries, ∃ n text, EntersSyscall e n text ∧
          compileSyscall n text = .ok v) ∧
    (∀ entries entries', dir.entries = .ok entries → DistinctNames entries →
      entries'.Perm entries →
        (gather ⟨dir.path, .ok entries'⟩).toOption = (gather dir).toOption) ∧
    (∀ pre e post, dir.entries = .ok (pre ++ e :: post) →
      (¬∃ n text, EntersSyscall e n text) →
        gather dir = gather ⟨dir.path, .ok (pre ++ post)⟩) := by
  obtain ⟨path, listing⟩ := dir
  cases listing with
  | error reason =>
    refine ⟨?_, nofun, nofun, nofun⟩
    rw [gather_unlisted]
    exact iff_of_false (fun ⟨_, h⟩ => nomatch h) (fun ⟨_, h, _⟩ => nomatch h)
  | ok entries =>
    refine ⟨?_, ?_, ?_, ?_⟩
    · rw [gather_ok_iff]
      exact ⟨fun h => ⟨entries, rfl, h⟩, fun ⟨_, he, h⟩ => Except.ok.inj he ▸ h⟩
    · rintro _ s ⟨⟩ h hs
      exact gather_value h hs
    · rintro _ entries' ⟨⟩ h hp
      exact gather_perm h hp
    · rintro pre e post ⟨⟩ he
      exact gather_erase he

/-- A listing with the `close` entry tracepoint, its exit tracepoint and a plain file gathers,
and the same entries listed the other way round gather to the same set. -/
theorem gather_spec_close_listing :
    (∃ s, gather ⟨"events/syscalls", .ok
      [.file "enable", .subdir "sys_exit_close" .absent,
        .subdir "sys_enter_close" (.bytes (Utf8.encode "x\n\n\tfield:unsigned int fd;\n"))]⟩ = .ok s ∧
      ∃ vs, s = SchemaSet.ofViews vs ∧
        (vs.map fun v => Utf8.encode v.1.rawName).Pairwise (· < ·) ∧
        ∀ v, v ∈ vs ↔ ∃ e ∈ [TraceEntry.file "enable", .subdir "sys_exit_close" .absent,
          .subdir "sys_enter_close" (.bytes (Utf8.encode "x\n\n\tfield:unsigned int fd;\n"))],
          ∃ n text, EntersSyscall e n text ∧ compileSyscall n text = .ok v) ∧
    (gather ⟨"events/syscalls", .ok
      [.subdir "sys_enter_close" (.bytes (Utf8.encode "x\n\n\tfield:unsigned int fd;\n")),
        .subdir "sys_exit_close" .absent, .file "enable"]⟩).toOption =
      (gather ⟨"events/syscalls", .ok
        [.file "enable", .subdir "sys_exit_close" .absent,
          .subdir "sys_enter_close" (.bytes (Utf8.encode "x\n\n\tfield:unsigned int fd;\n"))]⟩).toOption ∧
    gather ⟨"events/syscalls", .ok
      [.file "enable", .subdir "sys_exit_close" .absent,
        .subdir "sys_enter_close" (.bytes (Utf8.encode "x\n\n\tfield:unsigned int fd;\n"))]⟩ =
      gather ⟨"events/syscalls", .ok
        [.subdir "sys_exit_close" .absent,
          .subdir "sys_enter_close" (.bytes (Utf8.encode "x\n\n\tfield:unsigned int fd;\n"))]⟩ := by
  have hdistinct : DistinctNames [.file "enable", .subdir "sys_exit_close" .absent,
      .subdir "sys_enter_close" (.bytes (Utf8.encode "x\n\n\tfield:unsigned int fd;\n"))] := by
    unfold DistinctNames
    decide +kernel
  have hsome : (gather ⟨"events/syscalls", .ok
      [.file "enable", .subdir "sys_exit_close" .absent,
        .subdir "sys_enter_close" (.bytes (Utf8.encode "x\n\n\tfield:unsigned int fd;\n"))]⟩).toOption.isSome :=
    by decide +kernel
  obtain ⟨s, hok⟩ := exists_eq_ok_of_isSome hsome
  refine ⟨⟨s, hok, (gather_spec _).2.1 _ s rfl hdistinct hok⟩,
    (gather_spec _).2.2.1 _ _ rfl hdistinct (by decide +kernel),
    (gather_spec _).2.2.2 [] (.file "enable") _ rfl (by simp [EntersSyscall])⟩

end SyscallTrace.Schema
