import Mathlib
import SyscallTrace.Proofs.FormatCompile

/-!
# What the generated decoder reads, and what it binds

The decoder source of a syscall is only sound when each name its functions read is in scope:

* `render` passes its template to `format!`, which takes one value for each placeholder `{…}`
  of the template, a doubled `{{` being a literal brace (`formatArgs`). Each field adds its
  placeholders and its values; a descriptor adds its looked-up path after its own value.
* `render`, `arg` and `args` bind the return value as `ret` only when a buffer is bounded by it,
  and `_ret` otherwise; the text of such a buffer is the one expression that reads it.
* after the struct literal, `decode` calls the context (`contextCalls`): it resolves the path of
  each descriptor field into the field beside it, and `close` makes the context forget the
  descriptor in the field `fd`. Each call reads `header` and `ctx`, which the signature binds
  without an underscore only when a path is resolved (or, for `ctx`, for `close`).

Two choices made apart break these rules for formats that compile: the template of a buffer
shows its text alone, while a buffer field that needs a path (a `char *` named `fd`) still adds
its path as a value; and `close` forgets `event.fd` with `header` unbound, or with no field
`fd`, when its format has no descriptor field `fd`.

## Results

* `formatArgs_join_templatePiece`: the template takes as many values as follow it, less one
  for each buffer field that needs a path.
* `retBinding_eq_ret_iff`: `ret` is bound exactly when some field's text reads it.
* `contextCalls_bound_iff`: the context calls read bound names exactly unless the syscall is
  `close` without a field `fd` and a path to resolve.
* `compiled_decoder_binds_what_it_reads`: the three, for every syscall a format compiles to.
* `compiled_decoder_binding_slips`: a `read` with a `char * fd` field, and a `close` with only a
  field `how`, where the rules fail.
-/

set_option autoImplicit false

namespace SyscallTrace.Codegen

open SyscallTrace.Schema SyscallTrace.Text

/-! ## Placeholders of a format template -/

/-- The values a `format!` template takes, read from the start (`inside` a placeholder or not):
one for each placeholder `{…}`, where `{{` is a literal brace. -/
def formatArgs : Bool → List Char → Nat
  | _, [] => 0
  | false, '{' :: '{' :: rest => formatArgs false rest
  | false, '{' :: rest => formatArgs true rest + 1
  | false, _ :: rest => formatArgs false rest
  | true, '}' :: rest => formatArgs false rest
  | true, _ :: rest => formatArgs true rest

example : formatArgs false "fd {}<{}> buf {:?} {{x}}".toList = 3 := by decide

theorem formatArgs_plain_cons {c : Char} (hc : c ≠ '{') (r : List Char) :
    formatArgs false (c :: r) = formatArgs false r :=
  formatArgs.eq_4 c r (fun _ h => absurd h hc) hc

/-- Text without an opening brace adds no placeholder. -/
theorem formatArgs_append_of_no_brace {t : List Char} (ht : '{' ∉ t) (r : List Char) :
    formatArgs false (t ++ r) = formatArgs false r := by
  induction t with
  | nil => rfl
  | cons c t ih =>
    rw [List.mem_cons, not_or] at ht
    rw [List.cons_append, formatArgs_plain_cons (Ne.symm ht.1), ih ht.2]

theorem length_templateValues (s : Syscall DecoderType) (p : Param DecoderType) :
    (templateValues s p).length = 1 + if p.needsPath then 1 else 0 := by
  unfold templateValues
  split_ifs <;> rfl

/-- A field's piece of the template takes as many values as the field adds, less one for a
buffer that needs a path. -/
theorem formatArgs_templatePiece (s : Syscall DecoderType) {p : Param DecoderType}
    (hp : '{' ∉ p.name.toList) (r : List Char) :
    formatArgs false ((templatePiece p).toList ++ r) +
        (if p.ty.isBuffer && p.needsPath then 1 else 0) =
      (templateValues s p).length + formatArgs false r := by
  rw [length_templateValues]
  unfold templatePiece
  by_cases hb : p.ty.isBuffer <;> by_cases hn : p.needsPath <;>
    simp [hb, hn, String.toList_append, formatArgs_append_of_no_brace hp, formatArgs] <;> omega

/-- **Placeholders against values.** For fields whose names hold no brace, the template takes
as many values as follow it, less one for each buffer field that needs a path. -/
theorem formatArgs_join_templatePiece (s : Syscall DecoderType) :
    ∀ ps : List (Param DecoderType), (∀ p ∈ ps, '{' ∉ p.name.toList) →
      formatArgs false (String.join (ps.map templatePiece)).toList +
          (ps.filter fun p => p.ty.isBuffer && p.needsPath).length =
        (ps.flatMap (templateValues s)).length
  | [], _ => rfl
  | p :: ps, h => by
    rw [List.forall_mem_cons] at h
    have hpiece := formatArgs_templatePiece s h.1 (String.join (ps.map templatePiece)).toList
    have hrest := formatArgs_join_templatePiece s ps h.2
    rw [List.map_cons, String.join_cons, String.toList_append, List.filter_cons,
      List.flatMap_cons, List.length_append]
    split_ifs at hpiece ⊢ with hb
    · rw [List.length_cons]
      omega
    · omega

/-! ## The return value -/

section Ret

variable {s : Syscall DecoderType}

/-- Texts that wrap one field in different amounts of text differ. -/
theorem wrap_ne_wrap {a b c e : String} (x : String)
    (h : a.length + b.length ≠ c.length + e.length) : a ++ x ++ b ≠ c ++ x ++ e := by
  intro hx
  have hlen := congrArg String.length hx
  simp only [String.length_append] at hlen
  omega

theorem displayText_eq_retBoundedText_iff {p : Param DecoderType} :
    displayText s p = retBoundedText (ident p.rawName) ↔
      p.ty.isBuffer ∧ s.bufferPolicy = .returnBounded := by
  unfold displayText retBoundedText
  cases hb : p.ty.isBuffer with
  | false =>
    simp only [Bool.not_false, if_true, Bool.false_eq_true, false_and, iff_false]
    rw [← @String.append_empty ("self." ++ ident p.rawName)]
    exact wrap_ne_wrap _ (by decide)
  | true =>
    cases hpol : s.bufferPolicy with
    | nulTerminated => exact iff_of_false (wrap_ne_wrap _ (by decide)) (by simp)
    | returnBounded => simp

/-- The text views bind `ret` exactly when the text of some field reads it. -/
theorem retBinding_eq_ret_iff :
    retBinding s = "ret" ↔ ∃ p ∈ s.params, displayText s p = retBoundedText (ident p.rawName) := by
  simp only [displayText_eq_retBoundedText_iff]
  unfold retBinding usesRet
  by_cases hpol : s.bufferPolicy = .returnBounded
  · simp [hpol]
  · simp [hpol]

end Ret

/-! ## The context calls of `decode` -/

/-- The names of the fields the struct of `d` declares. -/
def fieldNames (d : Syscall DecoderType) : List String := (structFields d).map Prod.fst

/-- The names a context call reads are bound in the `decode` of `d`: `header` and `ctx` by the
signature without a leading underscore, the descriptor field by the struct, and the field the
answer is stored into by the struct too, the event being bound mutable. -/
def ContextCall.BoundIn (c : ContextCall) (d : Syscall DecoderType) : Prop :=
  headerBinding d = "header" ∧ ctxBinding d = "ctx" ∧ c.fd ∈ fieldNames d ∧
    ∀ f ∈ c.into, f ∈ fieldNames d ∧ eventBinding d = "mut event"

instance (c : ContextCall) (d : Syscall DecoderType) : Decidable (c.BoundIn d) :=
  inferInstanceAs (Decidable (_ ∧ _ ∧ _ ∧ _))

section Bindings

variable {d : Syscall DecoderType}

theorem headerBinding_eq_header_iff :
    headerBinding d = "header" ↔ ∃ p ∈ d.params, p.needsPath := by
  unfold headerBinding
  split_ifs with h <;> simp_all

theorem ctxBinding_eq_ctx_iff :
    ctxBinding d = "ctx" ↔ (∃ p ∈ d.params, p.needsPath) ∨ d.rawName = "close" := by
  unfold ctxBinding
  split_ifs with h <;> simp_all

theorem eventBinding_eq_mut_iff :
    eventBinding d = "mut event" ↔ ∃ p ∈ d.params, p.needsPath := by
  unfold eventBinding
  split_ifs with h <;> simp_all

/-- The struct declares each field, and the path field beside a descriptor. -/
theorem mem_fieldNames_of_mem {p : Param DecoderType} (hp : p ∈ d.params) :
    ident p.rawName ∈ fieldNames d ∧ (p.needsPath → pathField p ∈ fieldNames d) := by
  unfold fieldNames structFields
  constructor
  · exact List.mem_map.2 ⟨(ident p.rawName, decoderTypeText p.ty),
      List.mem_flatMap.2 ⟨p, hp, by simp⟩, rfl⟩
  · intro hn
    exact List.mem_map.2 ⟨(pathField p, "String"), List.mem_flatMap.2 ⟨p, hp, by simp [hn]⟩, rfl⟩

theorem mem_contextCalls_iff {c : ContextCall} :
    c ∈ contextCalls d ↔
      (∃ p ∈ d.params, p.needsPath ∧ c = ⟨"resolve_fd_path", ident p.rawName, some (pathField p)⟩) ∨
        (d.rawName = "close" ∧ c = ⟨"forget_fd", "fd", none⟩) := by
  unfold contextCalls
  rw [List.mem_append]
  apply or_congr
  · simp only [List.mem_map, List.mem_filter]
    constructor
    · rintro ⟨p, ⟨hp, hn⟩, rfl⟩
      exact ⟨p, hp, hn, rfl⟩
    · rintro ⟨p, hp, hn, rfl⟩
      exact ⟨p, ⟨hp, hn⟩, rfl⟩
  · by_cases h : d.rawName = "close" <;> simp [h]

/-- A path lookup only happens when a path is resolved, which binds all it reads. -/
theorem resolveCall_boundIn {p : Param DecoderType} (hp : p ∈ d.params) (hn : p.needsPath) :
    (⟨"resolve_fd_path", ident p.rawName, some (pathField p)⟩ : ContextCall).BoundIn d := by
  have hres : ∃ p ∈ d.params, p.needsPath := ⟨p, hp, hn⟩
  obtain ⟨hident, hpath⟩ := mem_fieldNames_of_mem hp
  refine ⟨headerBinding_eq_header_iff.2 hres, ctxBinding_eq_ctx_iff.2 (.inl hres), hident, ?_⟩
  intro f hf
  cases hf
  exact ⟨hpath hn, eventBinding_eq_mut_iff.2 hres⟩

/-- Forgetting the descriptor reads a bound `header` only when a path is resolved as well. -/
theorem forgetCall_boundIn_iff (hclose : d.rawName = "close") :
    (⟨"forget_fd", "fd", none⟩ : ContextCall).BoundIn d ↔
      (∃ p ∈ d.params, p.needsPath) ∧ "fd" ∈ fieldNames d := by
  unfold ContextCall.BoundIn
  rw [headerBinding_eq_header_iff, ctxBinding_eq_ctx_iff]
  simp [hclose]

/-- **The calls of `decode` read bound names** exactly unless the syscall is `close` and either
resolves no path or has no field `fd`. -/
theorem contextCalls_bound_iff :
    (∀ c ∈ contextCalls d, c.BoundIn d) ↔
      (d.rawName = "close" → (∃ p ∈ d.params, p.needsPath) ∧ "fd" ∈ fieldNames d) := by
  constructor
  · intro h hclose
    exact (forgetCall_boundIn_iff hclose).1 (h _ (mem_contextCalls_iff.2 (.inr ⟨hclose, rfl⟩)))
  · intro h c hc
    rcases mem_contextCalls_iff.1 hc with ⟨p, hp, hn, rfl⟩ | ⟨hclose, rfl⟩
    · exact resolveCall_boundIn hp hn
    · exact (forgetCall_boundIn_iff hclose).2 (h hclose)

end Bindings

end SyscallTrace.Codegen

namespace SyscallTrace.Schema

theorem ViewsOf.mem {position : Nat} {decls : List (String × String)} {params : List ParamViews}
    (h : ViewsOf position decls params) :
    ∀ q ∈ params, ∃ position ty name d r, q = fieldViews position ty name d r := by
  induction h with
  | nil => exact fun _ hq => absurd hq List.not_mem_nil
  | cons _ _ _ ih =>
    intro q hq
    rcases List.mem_cons.1 hq with rfl | hq
    · exact ⟨_, _, _, _, _, rfl⟩
    · exact ih q hq

/-- The fields of a compiled syscall are named in camel case, with ASCII letters and digits. -/
theorem compileSyscall_names_alnum {n f : String} {v : SyscallViews}
    (hv : compileSyscall n f = .ok v) : ∀ p ∈ v.1.params, ∀ c ∈ p.name.toList, c.isAlphanum := by
  obtain ⟨decls, params, -, hviews, hparams, -⟩ := (compileSyscall_reads_field_lines n f).2.2 v hv
  intro p hp c hc
  rw [hparams, List.mem_map] at hp
  obtain ⟨q, hq, rfl⟩ := hp
  obtain ⟨position, ty, name, d, r, rfl⟩ := hviews.mem q hq
  simp only [fieldViews, fieldParam, camelCase, String.toList_ofList] at hc
  exact camelChars_alnum true _ c hc

end SyscallTrace.Schema

namespace SyscallTrace.Codegen

open SyscallTrace.Schema SyscallTrace.Text

/-! ## Compiled syscalls -/

/-- **What a compiled decoder reads, against what it binds.** For every syscall a format
compiles to (so for every syscall of a parsed or gathered set): its `render` template takes as
many values as follow it, less one for each buffer field that needs a path; the text views bind
`ret` exactly when a field's text reads it; and the context calls of `decode` read only bound
names, `header`, `ctx`, the descriptor field and the path field, exactly unless the syscall is
`close` and has no descriptor path to resolve or no field `fd`. -/
theorem compiled_decoder_binds_what_it_reads (n f : String) (v : SyscallViews)
    (hv : compileSyscall n f = .ok v) :
    formatArgs false (renderTemplate v.1).toList +
        (v.1.params.filter fun p => p.ty.isBuffer && p.needsPath).length =
      (renderValues v.1).length ∧
    (retBinding v.1 = "ret" ↔
      ∃ p ∈ v.1.params, displayText v.1 p = retBoundedText (ident p.rawName)) ∧
    ((∀ c ∈ contextCalls v.1, c.BoundIn v.1) ↔
      (v.1.rawName = "close" → (∃ p ∈ v.1.params, p.needsPath) ∧ "fd" ∈ fieldNames v.1)) := by
  have hnames : ∀ p ∈ v.1.params, '{' ∉ p.name.toList := fun p hp hc =>
    absurd (compileSyscall_names_alnum hv p hp '{' hc) (by decide)
  exact ⟨formatArgs_join_templatePiece v.1 v.1.params hnames, retBinding_eq_ret_iff,
    contextCalls_bound_iff⟩

/-- The entry format of `close`, with its descriptor field `fd`. -/
def closeFormat : String :=
  "name: sys_enter_close\n\n\tfield:unsigned int fd;\n"

theorem compiled_close_binds_what_it_reads :
    ∃ v, compileSyscall "close" closeFormat = .ok v ∧
      (formatArgs false (renderTemplate v.1).toList +
          (v.1.params.filter fun p => p.ty.isBuffer && p.needsPath).length =
        (renderValues v.1).length ∧
      (retBinding v.1 = "ret" ↔
        ∃ p ∈ v.1.params, displayText v.1 p = retBoundedText (ident p.rawName)) ∧
      ((∀ c ∈ contextCalls v.1, c.BoundIn v.1) ↔
        (v.1.rawName = "close" → (∃ p ∈ v.1.params, p.needsPath) ∧ "fd" ∈ fieldNames v.1))) := by
  obtain ⟨v, hv⟩ :=
    exists_eq_ok_of_isSome (r := compileSyscall "close" closeFormat) (by decide +kernel)
  exact ⟨v, hv, compiled_decoder_binds_what_it_reads _ _ v hv⟩

/-- A `read` format whose one field is a `char *` named `fd`. -/
def readBufferFdFormat : String :=
  "name: sys_enter_read\n\n\tfield:char * fd;\n"

/-- A `close` format whose one field is `how`. -/
def closeWithoutFdFormat : String :=
  "name: sys_enter_close\n\n\tfield:unsigned int how;\n"

/-- Formats that compile, with decoders that read what they do not bind: the `render` template
of a `char * fd` field takes one value where two follow, and `close` without a field `fd`
forgets `event.fd` with the header bound as `_header` and only the field `how` declared. -/
theorem compiled_decoder_binding_slips :
    (compileSyscall "read" readBufferFdFormat).map
        (fun v => (formatArgs false (renderTemplate v.1).toList, (renderValues v.1).length)) =
      .ok (1, 2) ∧
    (compileSyscall "close" closeWithoutFdFormat).map
        (fun v => (headerBinding v.1, contextCalls v.1, fieldNames v.1)) =
      .ok ("_header", [⟨"forget_fd", "fd", none⟩], ["how"]) := by
  constructor <;> decide +kernel

end SyscallTrace.Codegen
