import Mathlib
import SyscallTrace.Proofs.AlignedSets

/-!
# The generated texts agree with each other

The four texts generated from one schema set come from functions that each walk their own
view: the decoder reads the decoder view beside the record view, the records text the record
view alone, the wire structs and the `.proto` definition the wire view. They fit together only
because the alignment check compared the views index by index. `TextsAgree` reads what the
texts say of syscall `i` side by side:

* the `decode` of the decoder text sets, once the empty path texts of its descriptors are left
  out, exactly the fields the record declares after the common header, in order, each read
  with the reader of the record's type, so at the record's width and sign;
* the decoder and the record declare one payload size: the sum of the record's widths, which
  is also the sum of the decoder's own widths;
* the `metric` of the decoder builds the message of the wire view, whose plain struct has
  exactly the fields the metric sets, in order; the envelope alternative at index `i + 2`
  (the `i + 3`-th, counting from one, after the two connection events) carries that message,
  and, when every decoder type is named from its syscall as compiling names it, is the
  variant the metric names;
* the `.proto` definition declares that message with the same fields and carries it in the
  envelope's alternative numbered `i + 5`.

## Results

* `decodeInits_filter_shadows`: with the names of two views equal, the reads of a decode are
  the fields of the record.
* `getElem?_envelope_syscall`, `getElem?_numbered`: where each syscall stands in the envelope
  and its numbering.
* `generated_views_agree`: every syscall of an aligned set agrees across the four texts.
-/

set_option autoImplicit false

namespace SyscallTrace.Codegen

open SyscallTrace.Schema SyscallTrace.Text

/-! ## Lists side by side -/

section Lists

variable {α β γ : Type}

theorem infix_flatMap_of_mem' {f : α → List β} {a : α} {l : List α} (h : a ∈ l) :
    f a <:+: l.flatMap f :=
  List.infix_of_mem_flatten (List.mem_map_of_mem h)

/-- Two lists that agree at every index where three do, and have their lengths, are related
entry by entry. -/
theorem AtEveryIndex.forall₂ {P : Nat → α → β → γ → Prop} {R : α → β → Prop}
    (hR : ∀ i a b c, P i a b c → R a b) :
    ∀ {xs : List α} {ys : List β} {zs : List γ}, AtEveryIndex P xs ys zs →
      ys.length = xs.length → zs.length = xs.length → List.Forall₂ R xs ys
  | [], [], _, _, _, _ => .nil
  | a :: as, b :: bs, c :: cs, h, hy, hz => by
    rw [atEveryIndex_cons] at h
    exact .cons (hR 0 a b c h.1)
      (AtEveryIndex.forall₂ (fun i => hR (i + 1)) h.2 (Nat.succ.inj hy) (Nat.succ.inj hz))

theorem AtEveryIndex.swap {P : Nat → α → β → γ → Prop} {xs : List α} {ys : List β}
    {zs : List γ} (h : AtEveryIndex P xs ys zs) :
    AtEveryIndex (fun i a c b => P i a b c) xs zs ys :=
  fun i a c b ha hc hb => h i a b c ha hb hc

/-- Entry `j` of a numbered list is line `first + j`. -/
theorem getElem?_numbered (line : Nat → α → String) :
    ∀ (first : Nat) (xs : List α) (j : Nat),
      (numbered first line xs)[j]? = xs[j]?.map (line (first + j))
  | _, [], _ => rfl
  | first, x :: xs, 0 => rfl
  | first, x :: xs, j + 1 => by
    rw [numbered, List.getElem?_cons_succ, getElem?_numbered line (first + 1) xs j,
      List.getElem?_cons_succ, Nat.add_right_comm, Nat.add_assoc]

end Lists

/-! ## One syscall's views -/

section Views

variable {d : Syscall DecoderType} {k : Syscall RecordType} {w : Syscall WireType}

theorem readText_ne_empty (t : RecordType) : readText t ≠ "String::new()" := by
  cases t <;> decide

/-- Reading a decoder view beside a record view with the same names: once the empty path texts
are left out, the fields set are the record's, each read at the record's type. -/
theorem decodeInits_filter_shadows :
    ∀ {ps : List (Param DecoderType)} {qs : List (Param RecordType)},
      List.Forall₂ (fun p q => q.rawName = p.rawName) ps qs →
      ((ps.zip qs).flatMap fun (p, r) =>
          [(ident p.rawName, readText r.ty)] ++
            (if p.needsPath then [(pathField p, "String::new()")] else [])).filter
          (fun f => f.2 != "String::new()") =
        qs.map fun q => (ident q.rawName, readText q.ty)
  | [], [], .nil => rfl
  | p :: ps, q :: qs, .cons hname hrest => by
    have hread : (readText q.ty != "String::new()") = true := by
      simpa using readText_ne_empty q.ty
    rw [List.zip_cons_cons, List.flatMap_cons, List.filter_append, decodeInits_filter_shadows hrest,
      List.map_cons, hname]
    cases p.needsPath <;> simp [hread]

theorem sum_sizes_eq :
    ∀ {ps : List (Param DecoderType)} {qs : List (Param RecordType)},
      List.Forall₂ (fun p q => p.ty.size = q.ty.size) ps qs →
      (ps.map (·.ty.size)).sum = (qs.map (·.ty.size)).sum
  | [], [], .nil => rfl
  | _ :: _, _ :: _, .cons hsize hrest => by
    rw [List.map_cons, List.map_cons, List.sum_cons, List.sum_cons, hsize, sum_sizes_eq hrest]

theorem map_ident_eq :
    ∀ {ps : List (Param DecoderType)} {rs : List (Param WireType)},
      List.Forall₂ (fun p r => r.rawName = p.rawName) ps rs →
      (rs.map fun r => ident r.rawName) = ps.map fun p => ident p.rawName
  | [], [], .nil => rfl
  | _ :: _, _ :: _, .cons hname hrest => by
    rw [List.map_cons, List.map_cons, hname, map_ident_eq hrest]

theorem payloadSize_eq_sum (k : Syscall RecordType) :
    payloadSize k = (k.params.map (·.ty.size)).sum := by
  rw [payloadSize, List.sum_eq_foldr]

theorem inits_infix_decodeLines (d : Syscall DecoderType) (k : Syscall RecordType) :
    (decodeInits d k).map (fun f => initLine f.1 f.2) <:+: decodeLines d k := by
  unfold decodeLines
  simp only [List.append_assoc]
  exact List.infix_append' _ _ _

theorem payloadSizeLine_mem_decodeLines (d : Syscall DecoderType) (k : Syscall RecordType) :
    payloadSizeLine (payloadSize k) ∈ decodeLines d k := by
  unfold decodeLines
  simp

theorem fields_infix_recordLines (k : Syscall RecordType) :
    ("    pub common: CommonEvent," ::
      (recordFields k).map fun f => fieldDeclLine f.1 (recordTypeText f.2)) <:+: recordLines k := by
  unfold recordLines
  simp only [List.cons_append, List.nil_append]
  iterate 5 apply List.infix_cons
  exact (List.prefix_append _ _).isInfix

theorem payloadSizeLine_mem_recordLines (k : Syscall RecordType) :
    payloadSizeLine (payloadSize k) ∈ recordLines k := by
  unfold recordLines
  simp

theorem metricEventLine_mem_traceEventLines (s : Syscall DecoderType) (wireName : String) :
    metricEventLine s.name wireName ∈ traceEventLines s wireName := by
  unfold traceEventLines
  simp

theorem metricInits_infix_traceEventLines (s : Syscall DecoderType) (wireName : String) :
    (metricInits s).map (fun f => "                " ++ f.1 ++ ": " ++ f.2 ++ ",") <:+:
      traceEventLines s wireName := by
  unfold traceEventLines
  exact List.infix_append _ _ _

end Views

/-! ## Where a syscall stands in the texts -/

section Texts

variable {S : SchemaSet} {d : Syscall DecoderType} {k : Syscall RecordType}
  {w : Syscall WireType}

theorem block_infix_decoderLines (h : (d, k, w) ∈ S.decoder.zip (S.kernel.zip S.wire)) :
    structLines d ++ decodeLines d k ++ traceEventLines d w.name <:+: decoderLines S := by
  unfold decoderLines
  refine (infix_flatMap_of_mem' (f := fun (x : SyscallViews) =>
    structLines x.1 ++ decodeLines x.1 x.2.1 ++ traceEventLines x.1 x.2.2.name) h).trans ?_
  simp only [List.append_assoc]
  exact List.infix_append' _ _ _

theorem recordLines_infix_recordsLines (h : k ∈ S.kernel) : recordLines k <:+: recordsLines S := by
  unfold recordsLines
  exact (infix_flatMap_of_mem' h).trans (List.suffix_append _ _).isInfix

theorem message_mem_messageFields (h : w ∈ S.wire) :
    (w.name, w.params.map fun r => (r.rawName, r.ty)) ∈ messageFields S := by
  unfold messageFields
  exact List.mem_append_right _ (List.mem_map_of_mem (f := fun w : Syscall WireType =>
    (w.name, w.params.map fun r => (r.rawName, r.ty))) h)

theorem structMessage_infix_wireLines (h : w ∈ S.wire) :
    structMessageLines w.name (w.params.map fun r => (r.rawName, r.ty)) <:+: wireLines S := by
  unfold wireLines
  refine (infix_flatMap_of_mem' (f := fun m : String × List (String × WireType) =>
    structMessageLines m.1 m.2) (message_mem_messageFields h)).trans ?_
  simp only [List.append_assoc]
  exact List.infix_append' _ _ _

theorem variants_infix_wireLines (S : SchemaSet) :
    (envelope S.wire).map variantLine <:+: wireLines S := by
  unfold wireLines
  exact List.infix_append _ _ _

theorem protoMessage_infix_protoLines (h : w ∈ S.wire) :
    protoMessageLines w.name (w.params.map fun r => (r.rawName, r.ty)) <:+: protoLines S := by
  unfold protoLines
  refine (infix_flatMap_of_mem' (f := fun m : String × List (String × WireType) =>
    protoMessageLines m.1 m.2) (message_mem_messageFields h)).trans ?_
  simp only [List.append_assoc]
  exact (List.infix_append' _ _ _).trans (List.suffix_append _ _).isInfix

theorem oneofs_infix_protoLines (S : SchemaSet) :
    numbered 3 oneofLine (envelope S.wire) <:+: protoLines S := by
  unfold protoLines
  exact List.infix_append _ _ _

/-- The two connection events come first in the envelope, then the syscalls in order. -/
theorem getElem?_envelope_syscall (wire : List (Syscall WireType)) (i : Nat) :
    (envelope wire)[i + 2]? =
      wire[i]?.map fun s => ⟨s.rawName ++ "_event", s.camelName ++ "Event", s.name⟩ := by
  have hfixed : (fixedMessages.filterMap fun m =>
      m.envelopeField.map fun f => (⟨f, variantName m.name, m.name⟩ : EnvelopeEntry)).length = 2 :=
    rfl
  rw [envelope, List.getElem?_append_right (by omega), hfixed, Nat.add_sub_cancel,
    List.getElem?_map]

end Texts

/-- What the four texts generated from a set `S` say of syscall `i`, whose three views are `d`,
`k` and `w`, read side by side. -/
structure TextsAgree (S : SchemaSet) (i : Nat) (d : Syscall DecoderType) (k : Syscall RecordType)
    (w : Syscall WireType) : Prop where
  /-- The decode of `d` and the record of `k` stand in the decoder and records texts. -/
  decode_in_decoder : decodeLines d k <:+: decoderLines S
  record_in_records : recordLines k <:+: recordsLines S
  /-- The struct literal of the decode sets the fields of `decodeInits`, in order. -/
  inits_in_decode : (decodeInits d k).map (fun f => initLine f.1 f.2) <:+: decodeLines d k
  /-- The record declares the fields of `recordFields` right after the common header. -/
  fields_in_record : ("    pub common: CommonEvent," ::
    (recordFields k).map fun f => fieldDeclLine f.1 (recordTypeText f.2)) <:+: recordLines k
  /-- Without the empty path texts, the decode sets the record's fields, in order, each read
  at the record's type. -/
  reads_record_fields : (decodeInits d k).filter (fun f => f.2 != "String::new()") =
    (recordFields k).map fun f => (f.1, readText f.2)
  /-- Decoder and record declare one payload size: the sum of the record's widths, and of the
  decoder's. -/
  payload_in_decode : payloadSizeLine (payloadSize k) ∈ decodeLines d k
  payload_in_record : payloadSizeLine (payloadSize k) ∈ recordLines k
  payload_record_widths : payloadSize k = ((recordFields k).map (·.2.size)).sum
  payload_decoder_widths : payloadSize k = (d.params.map (·.ty.size)).sum
  /-- The metric of `d` stands in the decoder text: it names a variant and the message of `w`,
  and sets the fields of `metricInits`. -/
  metric_in_decoder : traceEventLines d w.name <:+: decoderLines S
  metric_names : metricEventLine d.name w.name ∈ traceEventLines d w.name
  metric_sets : (metricInits d).map (fun f => "                " ++ f.1 ++ ": " ++ f.2 ++ ",") <:+:
    traceEventLines d w.name
  /-- The plain `metric::Event` enum lists the envelope; at index `i + 2` it carries the message
  of `w`, under the variant the metric names when decoder types are named from their
  syscalls. -/
  variants_in_wire : (envelope S.wire).map variantLine <:+: wireLines S
  message_at : ((envelope S.wire)[i + 2]?).map (·.message) = some w.name
  variant_at : (∀ x ∈ S.decoder, x.name = camelCase x.rawName ++ "Event") →
    ((envelope S.wire)[i + 2]?).map (·.variant) = some d.name
  /-- The plain struct of that message has exactly the fields the metric sets, in order. -/
  struct_in_wire : structMessageLines w.name (w.params.map fun r => (r.rawName, r.ty)) <:+:
    wireLines S
  struct_fields : (w.params.map fun r => ident r.rawName) = (metricInits d).map (·.1)
  /-- The `.proto` text declares the same message with the same fields, and carries it in the
  alternative numbered `i + 5`. -/
  message_in_proto : protoMessageLines w.name (w.params.map fun r => (r.rawName, r.ty)) <:+:
    protoLines S
  oneof_in_proto : oneofLine (i + 5) ⟨w.rawName ++ "_event", w.camelName ++ "Event", w.name⟩ ∈
    protoLines S

/-- **The generated texts agree.** For every set that passes the alignment check and every
syscall index `i`: the decode reads exactly the fields the record declares, in order and at the
record's types; decoder and record declare one payload size, the sum of the widths; the metric
builds the message of the wire view, whose plain struct and `.proto` message have exactly the
fields it sets, and which the envelope carries at its `i + 3`-th alternative, under the variant
the metric names when decoder types are named as compiling names them. -/
theorem generated_views_agree (S : SchemaSet) (hS : checkAligned S = .ok ()) (i : Nat)
    (d : Syscall DecoderType) (k : Syscall RecordType) (w : Syscall WireType)
    (hd : S.decoder[i]? = some d) (hk : S.kernel[i]? = some k) (hw : S.wire[i]? = some w) :
    TextsAgree S i d k w := by
  have hsys : SyscallAligned FieldTypesFit d k w :=
    ((checkAligned_ok_iff S).1 hS).2.2.2 i d k w hd hk hw
  obtain ⟨hkname, hwname, hklen, hwlen, hfields⟩ := hsys
  have hrec : List.Forall₂ (fun p q => q.rawName = p.rawName ∧ p.ty.size = q.ty.size)
      d.params k.params :=
    hfields.forall₂ (fun _ _ _ _ h => ⟨h.2.2.2.1, h.2.2.2.2.2.1⟩) hklen hwlen
  have hwire : List.Forall₂ (fun p r => r.rawName = p.rawName) d.params w.params :=
    hfields.swap.forall₂ (fun _ _ _ _ h => h.2.2.2.2.1) hwlen hklen
  have hmem : (d, k, w) ∈ S.decoder.zip (S.kernel.zip S.wire) := by
    apply List.mem_of_getElem? (i := i)
    rw [List.getElem?_zip_eq_some, List.getElem?_zip_eq_some]
    exact ⟨hd, hk, hw⟩
  have hentry := getElem?_envelope_syscall S.wire i
  rw [hw, Option.map_some] at hentry
  refine
    { decode_in_decoder := ?_
      record_in_records := recordLines_infix_recordsLines (List.mem_of_getElem? hk)
      inits_in_decode := inits_infix_decodeLines d k
      fields_in_record := fields_infix_recordLines k
      reads_record_fields := ?_
      payload_in_decode := payloadSizeLine_mem_decodeLines d k
      payload_in_record := payloadSizeLine_mem_recordLines k
      payload_record_widths := ?_
      payload_decoder_widths := ?_
      metric_in_decoder := ?_
      metric_names := metricEventLine_mem_traceEventLines d w.name
      metric_sets := metricInits_infix_traceEventLines d w.name
      variants_in_wire := variants_infix_wireLines S
      message_at := by rw [hentry]; rfl
      variant_at := fun hnames => ?_
      struct_in_wire := structMessage_infix_wireLines (List.mem_of_getElem? hw)
      struct_fields := ?_
      message_in_proto := protoMessage_infix_protoLines (List.mem_of_getElem? hw)
      oneof_in_proto := ?_ }
  · exact (List.infix_append _ _ _).trans (block_infix_decoderLines hmem)
  · rw [decodeInits, decodeInits_filter_shadows (hrec.imp fun _ _ h => h.1), recordFields,
      List.map_map]
    rfl
  · rw [payloadSize_eq_sum, recordFields, List.map_map]
    rfl
  · rw [payloadSize_eq_sum, sum_sizes_eq (hrec.imp fun _ _ h => h.2)]
  · exact (List.suffix_append _ _).isInfix.trans (block_infix_decoderLines hmem)
  · -- the variant is the camel-case name of the wire view's syscall, which is the decoder's
    rw [hentry, Option.map_some, hnames d (List.mem_of_getElem? hd), Syscall.camelName, hwname]
  · rw [map_ident_eq hwire, metricInits, List.map_map]
    rfl
  · have hline := getElem?_numbered oneofLine 3 (envelope S.wire) (i + 2)
    rw [hentry, Option.map_some, show 3 + (i + 2) = i + 5 by omega] at hline
    exact (oneofs_infix_protoLines S).subset (List.mem_of_getElem? hline)

/-- The decoder, record and wire views of `close`, with its one descriptor field. -/
def closeViews : SchemaSet :=
  ⟨[⟨"CloseEvent", "close", .nulTerminated, [⟨0, "Fd", "fd", "unsigned int", .u64, true⟩]⟩],
   [⟨"CloseRecord", "close", .nulTerminated, [⟨0, "Fd", "fd", "unsigned int", .u64, true⟩]⟩],
   [⟨"ProtobufCloseEvent", "close", .nulTerminated,
      [⟨0, "Fd", "fd", "unsigned int", .uint64, true⟩]⟩]⟩

theorem generated_views_agree_close :
    checkAligned closeViews = .ok () ∧
      TextsAgree closeViews 0
        ⟨"CloseEvent", "close", .nulTerminated, [⟨0, "Fd", "fd", "unsigned int", .u64, true⟩]⟩
        ⟨"CloseRecord", "close", .nulTerminated, [⟨0, "Fd", "fd", "unsigned int", .u64, true⟩]⟩
        ⟨"ProtobufCloseEvent", "close", .nulTerminated,
          [⟨0, "Fd", "fd", "unsigned int", .uint64, true⟩]⟩ :=
  ⟨by decide +kernel, generated_views_agree closeViews (by decide +kernel) 0 _ _ _ rfl rfl rfl⟩

end SyscallTrace.Codegen
