import Mathlib
import SyscallTrace.Proofs.Alignment
import SyscallTrace.Proofs.FieldPattern

/-!
# Compiling a tracepoint format

A tracepoint format is a header, an empty line, and then lines that declare the fields of the
event. Compiling the format of a syscall reads, from the first empty line on, each line that
starts with `field:` after its blanks, matches it against the field pattern of
`SyscallTrace.Proofs.FieldPattern`, and maps the C type it declares through the decoder, record
and wire tables; the syscall number is read but not kept.

The proof goes line by line. `compileLine` is first characterised on one field line
(`compileLine_eq_error_iff`, `fieldLineOk_iff`), then the fold over the lines by induction on
them: the first failing field line gives the error, and the views found so far are extended by
the declared fields, numbered on (`compileLines_views`).

## Results

* `compileSyscall_reads_field_lines`: the error a format stops with, when it compiles, and the
  three views it compiles to, in terms of the field pattern and the type tables.
-/

set_option autoImplicit false

namespace SyscallTrace.Text

theorem newline_not_mem_linesFrom {cur cs : List Char} (hcur : '\n' ∉ cur) :
    ∀ l ∈ linesFrom cur cs, '\n' ∉ l := by
  induction cs generalizing cur with
  | nil =>
    intro l hl
    simp only [linesFrom] at hl
    split_ifs at hl
    · cases hl
    · rw [List.mem_singleton] at hl
      rw [hl, List.mem_reverse]
      exact hcur
  | cons c cs ih =>
    intro l hl
    simp only [linesFrom] at hl
    split_ifs at hl with hc
    · rcases List.mem_cons.1 hl with rfl | hl
      · -- a line cut at a line feed loses at most its closing carriage return
        intro hmem
        unfold dropClosingReturn at hmem
        split at hmem
        · exact hcur (List.mem_reverse.1 (List.mem_of_mem_dropLast hmem))
        · exact hcur (List.mem_reverse.1 hmem)
      · exact ih (List.not_mem_nil) l hl
    · exact ih (fun h => (List.mem_cons.1 h).elim (fun h => hc h.symm) hcur) l hl

/-- No line holds a line feed. -/
theorem newline_not_mem_lines {cs l : List Char} (hl : l ∈ lines cs) : '\n' ∉ l :=
  newline_not_mem_linesFrom List.not_mem_nil l hl

end SyscallTrace.Text

namespace SyscallTrace.Schema

open SyscallTrace.Text

/-! ## What one field line gives -/

/-- The view of the field `name` of C type `ty` at `position`, with type `t`: its name in camel
case, and a path looked up for `Fd` and `Dfd`. -/
def fieldParam {τ : Type} (position : Nat) (ty name : String) (t : τ) : Param τ :=
  { position, name := camelCase name, rawName := name, kernelType := ty, ty := t,
    needsPath := camelCase name == "Fd" || camelCase name == "Dfd" }

/-- The three views of a field whose C type has decoder type `d` and record type `r`; the wire
type follows from the decoder type. -/
def fieldViews (position : Nat) (ty name : String) (d : DecoderType) (r : RecordType) :
    ParamViews :=
  (fieldParam position ty name d, fieldParam position ty name r,
    fieldParam position ty name (WireType.ofDecoder d))

/-- A field line that compiles: the field pattern matches it, and the field it declares is the
syscall number or has a C type the decoder table knows. -/
def FieldLineOk (line : List Char) : Prop :=
  ∃ ty name : String, FieldPatternMatch line ty.toList name.toList ∧
    (name = syscallNumberField ∨ (DecoderType.ofKernel? ty).isSome)

/-- The error a field line stops the compilation of syscall `syscall` with: the line itself when
the field pattern matches nowhere in it, or the C type and name of the field it declares, other
than the syscall number, when the decoder table lacks that type. -/
def FieldLineError (syscall : String) (line : List Char) (e : SchemaError) : Prop :=
  ((∀ s t n, ¬FieldPatternAt line s t n) ∧ e = .malformedLine syscall (String.ofList line)) ∨
    ∃ ty name : String, FieldPatternMatch line ty.toList name.toList ∧
      name ≠ syscallNumberField ∧ DecoderType.ofKernel? ty = none ∧
      e = .unmappedType .decoder ty syscall name

section Line

variable {syscall : String} {line : List Char} {position : Nat}

theorem compileLine_of_not_startsField (h : startsField line = false) :
    compileLine syscall line position = .ok none := by
  simp [compileLine, h]

theorem compileLine_of_none (hs : startsField line = true) (h : fieldDeclaration? line = none) :
    compileLine syscall line position = .error (.malformedLine syscall (String.ofList line)) := by
  simp [compileLine, hs, h]

/-- A declared field compiles through the decoder table alone: the record table knows every type
the decoder table does, and the wire table every decoder type. -/
theorem compileLine_of_some {ty name : String} (hs : startsField line = true)
    (h : fieldDeclaration? line = some (ty, name)) :
    compileLine syscall line position =
      if name = syscallNumberField then .ok none
      else match DecoderType.ofKernel? ty with
        | none => .error (.unmappedType .decoder ty syscall name)
        | some d => .ok (some (fieldViews position ty name d d.recordType)) := by
  simp only [compileLine, hs, Bool.not_true, Bool.false_eq_true, if_false, h]
  split_ifs
  · rfl
  · cases hd : DecoderType.ofKernel? ty with
    | none => rfl
    | some d =>
      simp only [RecordType.ofKernel?_of_decoder hd, WireType.ofDecoder?_eq]
      rfl

theorem compileLine_eq_error_iff (hl : '\n' ∉ line) (hs : startsField line = true)
    (e : SchemaError) :
    compileLine syscall line position = .error e ↔ FieldLineError syscall line e := by
  constructor
  · intro h
    cases hd : fieldDeclaration? line with
    | none =>
      rw [compileLine_of_none hs hd] at h
      cases h
      exact .inl ⟨(fieldDeclaration?_eq_none_iff hl).1 hd, rfl⟩
    | some p =>
      obtain ⟨ty, name⟩ := p
      rw [compileLine_of_some hs hd] at h
      split_ifs at h with hn
      cases hdk : DecoderType.ofKernel? ty with
      | none =>
        rw [hdk] at h
        cases h
        exact .inr ⟨ty, name, (fieldDeclaration?_eq_some_iff hl).1 hd, hn, hdk, rfl⟩
      | some d =>
        rw [hdk] at h
        cases h
  · rintro (⟨hno, rfl⟩ | ⟨ty, name, hm, hn, hdk, rfl⟩)
    · rw [compileLine_of_none hs ((fieldDeclaration?_eq_none_iff hl).2 hno)]
    · rw [compileLine_of_some hs ((fieldDeclaration?_eq_some_iff hl).2 hm), if_neg hn, hdk]

/-- A field line that compiles declares a field, and gives its views unless it is the syscall
number. -/
theorem compileLine_eq_ok (hl : '\n' ∉ line) (hs : startsField line = true)
    {r : Option ParamViews} (h : compileLine syscall line position = .ok r) :
    ∃ ty name : String, FieldPatternMatch line ty.toList name.toList ∧
      (name = syscallNumberField ∧ r = none ∨
        ∃ d, name ≠ syscallNumberField ∧ DecoderType.ofKernel? ty = some d ∧
          r = some (fieldViews position ty name d d.recordType)) := by
  cases hd : fieldDeclaration? line with
  | none =>
    rw [compileLine_of_none hs hd] at h
    cases h
  | some p =>
    obtain ⟨ty, name⟩ := p
    refine ⟨ty, name, (fieldDeclaration?_eq_some_iff hl).1 hd, ?_⟩
    rw [compileLine_of_some hs hd] at h
    split_ifs at h with hn
    · cases h
      exact .inl ⟨hn, rfl⟩
    · cases hdk : DecoderType.ofKernel? ty with
      | none =>
        rw [hdk] at h
        cases h
      | some d =>
        rw [hdk] at h
        cases h
        exact .inr ⟨d, hn, rfl, rfl⟩

theorem fieldLineOk_iff (hl : '\n' ∉ line) (hs : startsField line = true) :
    FieldLineOk line ↔ ∃ r, compileLine syscall line position = .ok r := by
  constructor
  · rintro ⟨ty, name, hm, hok⟩
    rw [compileLine_of_some hs ((fieldDeclaration?_eq_some_iff hl).2 hm)]
    split_ifs with hn
    · exact ⟨_, rfl⟩
    · obtain ⟨d, hdk⟩ := Option.isSome_iff_exists.1 (hok.resolve_left hn)
      rw [hdk]
      exact ⟨_, rfl⟩
  · rintro ⟨r, hr⟩
    obtain ⟨ty, name, hm, ⟨hn, -⟩ | ⟨d, -, hdk, -⟩⟩ := compileLine_eq_ok hl hs hr
    · exact ⟨ty, name, hm, .inl hn⟩
    · exact ⟨ty, name, hm, .inr (by rw [hdk]; rfl)⟩

theorem not_fieldLineOk_of_error (hl : '\n' ∉ line) (hs : startsField line = true)
    {e : SchemaError} (h : compileLine syscall line position = .error e) : ¬FieldLineOk line :=
  fun hok => by
    obtain ⟨r, hr⟩ := (fieldLineOk_iff hl hs).1 hok
    rw [hr] at h
    cases h

end Line

/-! ## The field lines of a format -/

/-- The fields `lines` declare, in order: the C type and name of each line's match, the syscall
number left out. -/
def DeclaredFields (lines : List (List Char)) (decls : List (String × String)) : Prop :=
  ∃ ms : List (String × String),
    List.Forall₂ (fun l m => FieldPatternMatch l m.1.toList m.2.toList) lines ms ∧
      decls = ms.filter (·.2 != syscallNumberField)

/-- `params` are the views of the fields `decls`, numbered from `position` on, each C type
through the decoder and record tables. -/
inductive ViewsOf : Nat → List (String × String) → List ParamViews → Prop
  | nil (position : Nat) : ViewsOf position [] []
  | cons {position : Nat} {ty name : String} {d : DecoderType} {r : RecordType}
      {decls : List (String × String)} {params : List ParamViews} :
      DecoderType.ofKernel? ty = some d → RecordType.ofKernel? ty = some r →
      ViewsOf (position + 1) decls params →
      ViewsOf position ((ty, name) :: decls) (fieldViews position ty name d r :: params)

/-- Some element satisfies `q` after elements that all satisfy `p` exactly when the head does,
or the head satisfies `p` and some element of the tail satisfies `q` after such elements. -/
theorem exists_split_cons_iff {α : Type} {p q : α → Prop} {x : α} {xs : List α} :
    (∃ pre y post, x :: xs = pre ++ y :: post ∧ (∀ z ∈ pre, p z) ∧ q y) ↔
      q x ∨ p x ∧ ∃ pre y post, xs = pre ++ y :: post ∧ (∀ z ∈ pre, p z) ∧ q y := by
  constructor
  · rintro ⟨_ | ⟨z, pre⟩, y, post, h, hpre, hq⟩
    · obtain ⟨rfl, -⟩ := List.cons.inj h
      exact .inl hq
    · obtain ⟨rfl, rfl⟩ := List.cons.inj h
      obtain ⟨hz, hpre⟩ := List.forall_mem_cons.1 hpre
      exact .inr ⟨hz, pre, y, post, rfl, hpre, hq⟩
  · rintro (hq | ⟨hp, pre, y, post, rfl, hpre, hq⟩)
    · exact ⟨[], x, xs, rfl, nofun, hq⟩
    · exact ⟨x :: pre, y, post, rfl, List.forall_mem_cons.2 ⟨hp, hpre⟩, hq⟩

section Lines

variable {syscall : String}

theorem compileLines_cons_of_error {l : List Char} {ls : List (List Char)}
    {found : List ParamViews} {e : SchemaError}
    (h : compileLine syscall l found.length = .error e) :
    compileLines syscall (l :: ls) found = .error e := by
  rw [compileLines, h]

theorem compileLines_cons_of_ok {l : List Char} {ls : List (List Char)}
    {found : List ParamViews} {r : Option ParamViews}
    (h : compileLine syscall l found.length = .ok r) :
    compileLines syscall (l :: ls) found = compileLines syscall ls (found ++ r.toList) := by
  cases r <;> simp [compileLines, h]

/-- A line that is not a field line is skipped. -/
theorem compileLines_cons_of_not_startsField {l : List Char} {ls : List (List Char)}
    {found : List ParamViews} (hs : startsField l = false) :
    compileLines syscall (l :: ls) found = compileLines syscall ls found := by
  rw [compileLines_cons_of_ok (compileLine_of_not_startsField hs), Option.toList_none,
    List.append_nil]

/-- The compilation of `lines` stops with `e` exactly when, among its field lines, every one
before some line compiles and that line fails with `e`. -/
theorem compileLines_eq_error_iff : ∀ {ls : List (List Char)} {found : List ParamViews},
    (∀ l ∈ ls, '\n' ∉ l) → ∀ e, compileLines syscall ls found = .error e ↔
      ∃ pre l post, ls.filter startsField = pre ++ l :: post ∧ (∀ l' ∈ pre, FieldLineOk l') ∧
        FieldLineError syscall l e
  | [], _, _, e => by simp [compileLines]
  | l :: ls, found, hls, e => by
    obtain ⟨hl, hrest⟩ := List.forall_mem_cons.1 hls
    cases hs : startsField l with
    | false =>
      rw [compileLines_cons_of_not_startsField hs, List.filter_cons_of_neg (by simp [hs])]
      exact compileLines_eq_error_iff hrest e
    | true =>
      have hline : compileLine syscall l found.length = .error e ↔ FieldLineError syscall l e :=
        compileLine_eq_error_iff hl hs e
      rw [List.filter_cons_of_pos hs, exists_split_cons_iff, ← hline]
      cases hc : compileLine syscall l found.length with
      | error e₀ =>
        rw [compileLines_cons_of_error hc,
          or_iff_left fun h => not_fieldLineOk_of_error hl hs hc h.1]
        simp only [Except.error.injEq]
      | ok r =>
        rw [compileLines_cons_of_ok hc, compileLines_eq_error_iff hrest e, or_iff_right nofun,
          and_iff_right ((fieldLineOk_iff hl hs).2 ⟨r, hc⟩)]

/-- The compilation of `lines` succeeds exactly when each field line compiles. -/
theorem compileLines_ok_iff : ∀ {ls : List (List Char)} {found : List ParamViews},
    (∀ l ∈ ls, '\n' ∉ l) →
      ((∃ ps, compileLines syscall ls found = .ok ps) ↔ ∀ l ∈ ls.filter startsField, FieldLineOk l)
  | [], _, _ => by simp [compileLines]
  | l :: ls, found, hls => by
    obtain ⟨hl, hrest⟩ := List.forall_mem_cons.1 hls
    cases hs : startsField l with
    | false =>
      rw [compileLines_cons_of_not_startsField hs, List.filter_cons_of_neg (by simp [hs])]
      exact compileLines_ok_iff hrest
    | true =>
      rw [List.filter_cons_of_pos hs, List.forall_mem_cons]
      cases hc : compileLine syscall l found.length with
      | error e =>
        have hnok : ¬FieldLineOk l := not_fieldLineOk_of_error hl hs hc
        rw [compileLines_cons_of_error hc]
        simp only [reduceCtorEq, exists_false, false_iff, not_and]
        exact fun h => absurd h hnok
      | ok r =>
        have hok : FieldLineOk l := (fieldLineOk_iff hl hs).2 ⟨r, hc⟩
        rw [compileLines_cons_of_ok hc, compileLines_ok_iff hrest]
        exact (and_iff_right hok).symm

/-- A compilation that succeeds appends the views of the declared fields, numbered on from the
views already found. -/
theorem compileLines_views : ∀ {ls : List (List Char)} {found ps : List ParamViews},
    (∀ l ∈ ls, '\n' ∉ l) → compileLines syscall ls found = .ok ps →
      ∃ decls rest, ps = found ++ rest ∧ DeclaredFields (ls.filter startsField) decls ∧
        ViewsOf found.length decls rest
  | [], found, ps, _, h => by
    simp only [compileLines, Except.ok.injEq] at h
    subst h
    exact ⟨[], [], (List.append_nil _).symm, ⟨[], .nil, rfl⟩, .nil _⟩
  | l :: ls, found, ps, hls, h => by
    obtain ⟨hl, hrest⟩ := List.forall_mem_cons.1 hls
    cases hs : startsField l with
    | false =>
      rw [compileLines_cons_of_not_startsField hs] at h
      rw [List.filter_cons_of_neg (by simp [hs])]
      exact compileLines_views hrest h
    | true =>
      rw [List.filter_cons_of_pos hs]
      cases hc : compileLine syscall l found.length with
      | error e =>
        rw [compileLines_cons_of_error hc] at h
        cases h
      | ok r =>
        rw [compileLines_cons_of_ok hc] at h
        obtain ⟨decls, rest, rfl, ⟨ms, hms, rfl⟩, hviews⟩ := compileLines_views hrest h
        obtain ⟨ty, name, hm, ⟨hn, rfl⟩ | ⟨d, hn, hdk, rfl⟩⟩ := compileLine_eq_ok hl hs hc
        · refine ⟨_, rest, by simp, ⟨(ty, name) :: ms, .cons hm hms, ?_⟩, by simpa using hviews⟩
          simp [hn]
        · refine ⟨_, fieldViews found.length ty name d d.recordType :: rest, by simp,
            ⟨(ty, name) :: ms, .cons hm hms, ?_⟩,
            .cons hdk (RecordType.ofKernel?_of_decoder hdk) (by simpa using hviews)⟩
          simp [hn]

end Lines

/-! ## Compiling a format -/

/-- The field lines of a format: from the first empty line on, those that start with `field:`
after their blanks. -/
def fieldLines (format : String) : List (List Char) :=
  (bodyLines format).filter startsField

theorem compileSyscall_eq_error_iff (n f : String) (e : SchemaError) :
    compileSyscall n f = .error e ↔ compileLines n (bodyLines f) [] = .error e := by
  unfold compileSyscall
  cases compileLines n (bodyLines f) [] <;> simp

theorem compileSyscall_ok_iff (n f : String) :
    (∃ v, compileSyscall n f = .ok v) ↔ ∃ ps, compileLines n (bodyLines f) [] = .ok ps := by
  unfold compileSyscall
  cases compileLines n (bodyLines f) [] <;> simp

/-- The views of a compiled syscall list the parameters the lines compile to. -/
theorem params_of_compileSyscall {n f : String} {v : SyscallViews}
    (h : compileSyscall n f = .ok v) :
    ∃ ps, compileLines n (bodyLines f) [] = .ok ps ∧ v.1.params = ps.map (·.1) ∧
      v.2.1.params = ps.map (·.2.1) ∧ v.2.2.params = ps.map (·.2.2) := by
  unfold compileSyscall at h
  cases hc : compileLines n (bodyLines f) [] with
  | error e =>
    rw [hc] at h
    cases h
  | ok ps =>
    rw [hc] at h
    cases h
    exact ⟨ps, rfl, rfl, rfl, rfl⟩

theorem newline_not_mem_bodyLines {f : String} : ∀ l ∈ bodyLines f, '\n' ∉ l :=
  fun _ hl => newline_not_mem_lines ((List.dropWhile_suffix _).subset hl)

/-- **A format compiles by its field lines, read with the field pattern.** Of the lines from the
first empty one on, those that start with `field:` after their blanks are read in order. The
first that fails stops the compilation: with the line, when the field pattern matches nowhere in
it, or with the C type and name of the field it declares, when that field is not the syscall
number and the decoder table lacks its type. Otherwise the compilation succeeds, and its three
views list the fields the lines declare, the syscall number left out, the `k`-th at position `k`
with its name in camel case, its raw name and C type, its type through the decoder, record and
wire tables, and a path looked up exactly when its camel-case name is `Fd` or `Dfd`. -/
theorem compileSyscall_reads_field_lines (n f : String) :
    (∀ e, compileSyscall n f = .error e ↔
      ∃ pre l post, fieldLines f = pre ++ l :: post ∧ (∀ l' ∈ pre, FieldLineOk l') ∧
        FieldLineError n l e) ∧
    ((∃ v, compileSyscall n f = .ok v) ↔ ∀ l ∈ fieldLines f, FieldLineOk l) ∧
    ∀ v, compileSyscall n f = .ok v →
      ∃ decls params, DeclaredFields (fieldLines f) decls ∧ ViewsOf 0 decls params ∧
        v.1.params = params.map (·.1) ∧ v.2.1.params = params.map (·.2.1) ∧
        v.2.2.params = params.map (·.2.2) := by
  refine ⟨fun e => (compileSyscall_eq_error_iff n f e).trans
      (compileLines_eq_error_iff newline_not_mem_bodyLines e),
    (compileSyscall_ok_iff n f).trans (compileLines_ok_iff newline_not_mem_bodyLines),
    fun v hv => ?_⟩
  obtain ⟨ps, hps, h₁, h₂, h₃⟩ := params_of_compileSyscall hv
  obtain ⟨decls, params, hparams, hdecls, hviews⟩ :=
    compileLines_views newline_not_mem_bodyLines hps
  rw [hparams, List.nil_append] at h₁ h₂ h₃
  exact ⟨decls, params, hdecls, hviews, h₁, h₂, h₃⟩

end SyscallTrace.Schema
