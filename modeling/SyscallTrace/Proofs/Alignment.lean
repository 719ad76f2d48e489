import Mathlib
import SyscallTrace.Proofs.Gather
import SyscallTrace.Codegen.Artifacts

/-!
# Compiled schemas are aligned

The generators refuse a schema set whose three views disagree (`checkAligned`). Compiling never
produces such a set: every argument gets the same position and name in the three views, the
record table gives each C type the record type of its decoder type (so the two agree in size,
buffer-ness and sign), and the wire type of a decoder type is wide enough for it. Sorting the
views after a directory is gathered keeps them aligned, since the three sorts agree.

So generation from compiled formats can only fail for want of a syscall, and a build fails
only when gathering does, or when it finds nothing to compile.

## Results

* `RecordType.ofKernel?_eq`: the record table is the decoder table seen through `recordType`.
* `compileSyscall_aligned`: the three views of a compiled syscall pass the check.
* `checkAligned_ofViews`: a nonempty list of compiled syscalls passes the check.
* `compiled_schemas_generate`: compiling succeeds into a set every generator accepts, and a
  build fails only when gathering fails or gathers nothing.
-/

set_option autoImplicit false

namespace SyscallTrace.Schema

/-! ## The type tables agree -/

/-- The record type the probe writes a field of this decoder type as. -/
def DecoderType.recordType : DecoderType → RecordType
  | .buffer => .char
  | .i32 => .s32
  | .u32 => .u32
  | .i64 => .s64
  | .u64 => .u64

/-- The record table lists the C types of the decoder table, in the same order, each with the
record type of its decoder type. -/
theorem recordTable_eq : recordTable = decoderTable.map fun p => (p.1, p.2.recordType) := rfl

theorem lookupType_map {α β : Type} (table : List (String × α)) (f : α → β) (cType : String) :
    lookupType (table.map fun p => (p.1, f p.2)) cType = (lookupType table cType).map f := by
  induction table with
  | nil => rfl
  | cons p ps ih =>
    by_cases h : p.1 = cType
    · simp [lookupType, h]
    · simpa [lookupType, h] using ih

theorem RecordType.ofKernel?_eq (cType : String) :
    RecordType.ofKernel? cType = (DecoderType.ofKernel? cType).map DecoderType.recordType := by
  rw [RecordType.ofKernel?, recordTable_eq, lookupType_map, DecoderType.ofKernel?]

/-- A C type the decoder table knows is known to the record table. -/
theorem RecordType.ofKernel?_of_decoder {cType : String} {d : DecoderType}
    (h : DecoderType.ofKernel? cType = some d) : RecordType.ofKernel? cType = some d.recordType := by
  rw [RecordType.ofKernel?_eq, h, Option.map_some]

end SyscallTrace.Schema

namespace SyscallTrace.Codegen

open SyscallTrace.Schema

theorem recordCompatible_recordType (d : DecoderType) : recordCompatible d d.recordType = true := by
  cases d <;> rfl

theorem wireCompatible_ofDecoder (d : DecoderType) : wireCompatible d (WireType.ofDecoder d) = true := by
  cases d <;> rfl

/-! ## One argument, one syscall -/

/-- The three views of one argument stand at `position`, carry one name, and have types the
check accepts side by side. -/
def ParamAligned (position : Nat) (p : ParamViews) : Prop :=
  p.1.position = position ∧ p.2.1.position = position ∧ p.2.2.position = position ∧
    p.2.1.rawName = p.1.rawName ∧ p.2.2.rawName = p.1.rawName ∧
    recordCompatible p.1.ty p.2.1.ty = true ∧ wireCompatible p.1.ty p.2.2.ty = true

/-- Consecutive arguments aligned from `position` on. -/
def ParamsAligned : Nat → List ParamViews → Prop
  | _, [] => True
  | position, p :: ps => ParamAligned position p ∧ ParamsAligned (position + 1) ps

theorem ParamsAligned.append {position : Nat} {ps : List ParamViews} {p : ParamViews}
    (hps : ParamsAligned position ps) (hp : ParamAligned (position + ps.length) p) :
    ParamsAligned position (ps ++ [p]) := by
  induction ps generalizing position with
  | nil => exact ⟨hp, trivial⟩
  | cons q qs ih =>
    refine ⟨hps.1, ih hps.2 ?_⟩
    rwa [List.length_cons, ← Nat.add_assoc, Nat.add_right_comm] at hp

/-- A line that declares an argument declares it aligned at the position it is given. -/
theorem compileLine_aligned {syscall : String} {line : List Char} {position : Nat}
    {p : ParamViews} (h : compileLine syscall line position = .ok (some p)) :
    ParamAligned position p := by
  unfold compileLine at h
  split at h
  · cases h
  · split at h
    · cases h
    · rename_i cType rawName _
      split at h
      · cases h
      · split at h
        · cases h
        · rename_i d hd
          rw [RecordType.ofKernel?_of_decoder hd, WireType.ofDecoder?_eq] at h
          cases h
          exact ⟨rfl, rfl, rfl, rfl, rfl, recordCompatible_recordType d, wireCompatible_ofDecoder d⟩

/-- The arguments found so far stay aligned as the remaining lines are compiled. -/
theorem compileLines_aligned {syscall : String} :
    ∀ {lines : List (List Char)} {found ps : List ParamViews},
      compileLines syscall lines found = .ok ps → ParamsAligned 0 found → ParamsAligned 0 ps
  | [], found, ps, h, hfound => by
    cases h
    exact hfound
  | line :: rest, found, ps, h, hfound => by
    unfold compileLines at h
    split at h
    · cases h
    · exact compileLines_aligned h hfound
    · rename_i p hp
      exact compileLines_aligned h (hfound.append (by simpa using compileLine_aligned hp))

theorem checkFields_aligned (syscall : String) :
    ∀ {position : Nat} {ps : List ParamViews}, ParamsAligned position ps →
      checkFields syscall position (ps.map (·.1)) (ps.map (·.2.1)) (ps.map (·.2.2)) = .ok ()
  | _, [], _ => rfl
  | position, p :: ps, ⟨⟨h1, h2, h3, hk, hw, hrec, hwire⟩, hps⟩ => by
    simp only [List.map_cons, checkFields, h1, h2, h3, hk, hw, hrec, hwire, beq_self_eq_true,
      Bool.and_self, Bool.not_true, Bool.false_eq_true, if_false]
    exact checkFields_aligned syscall hps

/-- The three views of a compiled syscall pass the check. -/
theorem compileSyscall_aligned {name format : String} {v : SyscallViews}
    (h : compileSyscall name format = .ok v) : checkSyscall v.1 v.2.1 v.2.2 = .ok () := by
  unfold compileSyscall at h
  split at h
  · cases h
  · rename_i params hparams
    cases h
    have haligned := compileLines_aligned hparams trivial
    simp only [checkSyscall, bne_self_eq_false, Bool.or_false, List.length_map, beq_self_eq_true,
      Bool.and_self, Bool.not_true, Bool.false_eq_true, if_false]
    exact checkFields_aligned name haligned

/-! ## Whole sets -/

theorem checkSyscalls_ofViews :
    ∀ {vs : List SyscallViews}, (∀ v ∈ vs, checkSyscall v.1 v.2.1 v.2.2 = .ok ()) →
      checkSyscalls (vs.map (·.1)) (vs.map (·.2.1)) (vs.map (·.2.2)) = .ok ()
  | [], _ => rfl
  | v :: vs, h => by
    simp only [List.map_cons, checkSyscalls, h v (List.mem_cons_self ..)]
    exact checkSyscalls_ofViews fun w hw => h w (List.mem_cons_of_mem v hw)

/-- A nonempty list of syscalls whose views each pass the check passes it as a set. -/
theorem checkAligned_ofViews {vs : List SyscallViews} (hne : vs ≠ [])
    (h : ∀ v ∈ vs, checkSyscall v.1 v.2.1 v.2.2 = .ok ()) :
    checkAligned (SchemaSet.ofViews vs) = .ok () := by
  have hempty : (SchemaSet.ofViews vs).isEmpty = false := by
    simpa [SchemaSet.isEmpty, SchemaSet.ofViews] using hne
  unfold checkAligned
  rw [hempty]
  simp only [SchemaSet.ofViews, List.length_map, beq_self_eq_true, Bool.and_self, Bool.not_true,
    Bool.false_eq_true, if_false]
  exact checkSyscalls_ofViews h

theorem checkAligned_empty : checkAligned SchemaSet.empty = .error .empty := rfl

/-! ## Generating -/

section Generate

variable {s : SchemaSet}

theorem generateDecoder_of_aligned (h : checkAligned s = .ok ()) :
    generateDecoder s = .ok (render (decoderLines s)) := by
  rw [generateDecoder, h]

theorem generateRecords_of_aligned (h : checkAligned s = .ok ()) :
    generateRecords s = .ok (render (recordsLines s)) := by
  rw [generateRecords, h]

theorem generateWire_of_aligned (h : checkAligned s = .ok ()) :
    generateWire s = .ok (render (wireLines s)) := by
  rw [generateWire, h]

theorem generateProto_of_aligned (h : checkAligned s = .ok ()) :
    generateProto s = .ok (render (protoLines s)) := by
  rw [generateProto, h]

theorem generate_of_aligned (h : checkAligned s = .ok ()) (t : Target) :
    ∃ text, t.generate s = .ok text := by
  cases t with
  | decoder => exact ⟨_, generateDecoder_of_aligned h⟩
  | records => exact ⟨_, generateRecords_of_aligned h⟩
  | wire => exact ⟨_, generateWire_of_aligned h⟩
  | proto => exact ⟨_, generateProto_of_aligned h⟩

theorem generateAll_of_aligned (h : checkAligned s = .ok ()) :
    generateAll s = .ok ⟨render (decoderLines s), render (recordsLines s), render (wireLines s),
      render (protoLines s)⟩ := by
  simp only [generateAll, generateDecoder_of_aligned h, generateRecords_of_aligned h,
    generateWire_of_aligned h, generateProto_of_aligned h]
  rfl

/-- Generating everything fails with the misalignment the check finds, if any. -/
theorem generateAll_eq_error {m : Misalignment} (h : generateAll s = .error m) :
    checkAligned s = .error m := by
  cases hc : checkAligned s with
  | ok u =>
    rw [generateAll_of_aligned hc] at h
    cases h
  | error m' =>
    have hd : generateDecoder s = .error m' := by rw [generateDecoder, hc]
    simp only [generateAll, hd] at h
    exact congrArg Except.error (Except.error.inj h)

end Generate

/-! ## Building -/

/-- The syscalls a gathered directory holds pass the check, unless there are none. -/
theorem checkAligned_gather {dir : TraceDir} {s : SchemaSet} (hs : gather dir = .ok s) :
    s = SchemaSet.empty ∨ checkAligned s = .ok () := by
  obtain ⟨path, listing⟩ := dir
  cases listing with
  | error reason => cases hs
  | ok entries =>
    obtain ⟨vs, hvs, rfl⟩ := (gather_eq_ok_iff path entries s).1 hs
    by_cases hne : sortViews vs = []
    · exact .inl (by rw [hne]; rfl)
    · refine .inr (checkAligned_ofViews hne fun v hv => ?_)
      obtain ⟨_, _, n, text, -, hc⟩ := (mem_sortViews_iff hvs v).1 hv
      exact compileSyscall_aligned hc

/-- A build fails only when gathering fails, or when it compiles no syscall. -/
theorem buildArtifacts_error {dir : TraceDir} {e : BuildError}
    (h : buildArtifacts dir = .error e) :
    (∃ g, gather dir = .error g ∧ e = .gather g) ∨
      (gather dir = .ok SchemaSet.empty ∧ e = .generate dir.path .empty) := by
  unfold buildArtifacts at h
  cases hg : gather dir with
  | error g =>
    simp only [hg, Except.error.injEq] at h
    exact .inl ⟨g, rfl, h.symm⟩
  | ok s =>
    cases hgen : generateAll s with
    | ok a => simp [hg, hgen] at h
    | error m =>
      simp only [hg, hgen, Except.error.injEq] at h
      have hm := generateAll_eq_error hgen
      rcases checkAligned_gather hg with rfl | hok
      · -- the empty set is refused for having no syscall
        rw [checkAligned_empty, Except.error.injEq] at hm
        exact .inr ⟨rfl, by rw [← h, ← hm]⟩
      · rw [hok] at hm
        cases hm

/-- **Compiled formats always generate.** Compiling a nonempty list of formats that each
compile gives a schema set that passes the alignment check, so every generator accepts it;
and a build from a directory fails only when gathering fails, or gathers no syscall. -/
theorem compiled_schemas_generate :
    (∀ pairs : List (String × String), pairs ≠ [] →
      (∀ p ∈ pairs, ∃ v, compileSyscall p.1 p.2 = .ok v) →
        ∃ s, compileAll pairs = .ok s ∧ checkAligned s = .ok () ∧
          (∃ a, generateAll s = .ok a) ∧ ∀ t : Target, ∃ text, t.generate s = .ok text) ∧
    (∀ dir e, buildArtifacts dir = .error e →
      (∃ g, gather dir = .error g ∧ e = .gather g) ∨
        (gather dir = .ok SchemaSet.empty ∧ e = .generate dir.path .empty)) := by
  refine ⟨fun pairs hne hok => ?_, fun _ _ h => buildArtifacts_error h⟩
  obtain ⟨vs, hvs⟩ := (exists_compilesTo_iff pairs).2 hok
  have hvne : vs ≠ [] := by
    rintro rfl
    exact hne (List.forall₂_nil_right_iff.1 hvs)
  have haligned := checkAligned_ofViews hvne fun v hv => by
    obtain ⟨p, -, hp⟩ := hvs.mem.1 hv
    exact compileSyscall_aligned hp
  exact ⟨_, (compileAll_eq_ok_iff pairs _).2 ⟨vs, hvs, rfl⟩, haligned,
    ⟨_, generateAll_of_aligned haligned⟩, generate_of_aligned haligned⟩

/-- The format of `close` with its one field compiles into a set every generator accepts. -/
theorem compiled_schemas_generate_close :
    ∃ s, compileAll [("close", "name: sys_enter_close\n\n\tfield:unsigned int fd;\n")] = .ok s ∧
      checkAligned s = .ok () ∧ (∃ a, generateAll s = .ok a) ∧
      ∀ t : Target, ∃ text, t.generate s = .ok text :=
  compiled_schemas_generate.1 _ (List.cons_ne_nil _ _) fun p hp => by
    rw [List.mem_singleton] at hp
    subst hp
    exact exists_eq_ok_of_isSome (by decide +kernel)

end SyscallTrace.Codegen
