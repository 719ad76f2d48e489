import Mathlib
import SyscallTrace.Proofs.Alignment

/-!
# Schema sets the alignment check accepts

`checkAligned` accepts exactly the sets that are `AlignedBy FieldTypesFit`: a decoder view
with at least one syscall, three views of one length, and at every index three views of one
syscall with as many fields each, whose fields agree at every position: the position itself,
the name, and the types. The types of a field fit when the decoder and record types have one
size and one buffer-ness, and, for a number, one sign and a wire type of fixed size at least
as large. The wire check only asks whether the wire type can hold the value: a buffer may
travel in any wire type, and the sign of the wire type is never compared.

The type tables agree more closely (`TableFit`): a buffer travels as bytes, and a number has
one sign in all three views. Every set aligned in that sense passes the check, but not
conversely.

Every generator fails exactly when the check does, with the check's misalignment.

## Results

* `checkFields_ok_iff`, `checkSyscall_ok_iff`, `checkSyscalls_ok_iff`: each level of the check
  accepts exactly what agrees at every index.
* `checkAligned_ok_iff`: the check accepts exactly the aligned sets.
* `Target.generate_error_iff`, `generateAll_error_iff`: generating fails with the check's
  error.
* `checkAligned_characterised`: all of it together.
* `checkAligned_accepts_loose_wire_types`: a set whose wire view carries a file name as text
  and a user id as a signed integer passes the check.
-/

set_option autoImplicit false

namespace SyscallTrace.Codegen

open SyscallTrace.Schema

/-! ## Agreement at every index -/

/-- `P` holds at every index where all three lists have an entry. -/
def AtEveryIndex {α β γ : Type} (P : Nat → α → β → γ → Prop) (xs : List α) (ys : List β)
    (zs : List γ) : Prop :=
  ∀ i a b c, xs[i]? = some a → ys[i]? = some b → zs[i]? = some c → P i a b c

section AtEveryIndex

variable {α β γ : Type} {P Q : Nat → α → β → γ → Prop}

theorem atEveryIndex_nil_left (ys : List β) (zs : List γ) : AtEveryIndex P [] ys zs := by
  intro i a b c ha
  simp at ha

theorem atEveryIndex_nil_mid (xs : List α) (zs : List γ) : AtEveryIndex P xs [] zs := by
  intro i a b c _ hb
  simp at hb

theorem atEveryIndex_nil_right (xs : List α) (ys : List β) : AtEveryIndex P xs ys [] := by
  intro i a b c _ _ hc
  simp at hc

theorem atEveryIndex_cons {a : α} {as : List α} {b : β} {bs : List β} {c : γ} {cs : List γ} :
    AtEveryIndex P (a :: as) (b :: bs) (c :: cs) ↔
      P 0 a b c ∧ AtEveryIndex (fun i => P (i + 1)) as bs cs := by
  constructor
  · intro h
    exact ⟨h 0 a b c rfl rfl rfl, fun i x y z hx hy hz => h (i + 1) x y z hx hy hz⟩
  · rintro ⟨h0, hrest⟩ i x y z hx hy hz
    cases i with
    | zero =>
      simp only [List.getElem?_cons_zero, Option.some.injEq] at hx hy hz
      subst hx hy hz
      exact h0
    | succ i =>
      rw [List.getElem?_cons_succ] at hx hy hz
      exact hrest i x y z hx hy hz

theorem AtEveryIndex.mono (hPQ : ∀ i a b c, P i a b c → Q i a b c) {xs : List α} {ys : List β}
    {zs : List γ} (h : AtEveryIndex P xs ys zs) : AtEveryIndex Q xs ys zs :=
  fun i a b c ha hb hc => hPQ i a b c (h i a b c ha hb hc)

end AtEveryIndex

/-! ## Aligned sets -/

/-- The types of one field fit the way the check asks: one size and one buffer-ness for the
decoder and the record, and for a number one sign and a wire type of fixed size that holds it. -/
def FieldTypesFit (d : DecoderType) (k : RecordType) (w : WireType) : Prop :=
  d.size = k.size ∧ d.isBuffer = k.isBuffer ∧
    (d.isBuffer = false → d.isSigned = k.isSigned ∧ ∃ n, w.size? = some n ∧ d.size ≤ n)

/-- The types of one field fit the way the type tables agree: a buffer travels as bytes, and a
number has one sign in all three views and a wire type of fixed size that holds it. -/
def TableFit (d : DecoderType) (k : RecordType) (w : WireType) : Prop :=
  d.size = k.size ∧ d.isBuffer = k.isBuffer ∧ (d.isBuffer = true → w = .bytes) ∧
    (d.isBuffer = false →
      d.isSigned = k.isSigned ∧ d.isSigned = w.isSigned ∧ ∃ n, w.size? = some n ∧ d.size ≤ n)

/-- The three views of one field agree at `position`, with types that `fit`. -/
def FieldAligned (fit : DecoderType → RecordType → WireType → Prop) (position : Nat)
    (p : Param DecoderType) (q : Param RecordType) (r : Param WireType) : Prop :=
  p.position = position ∧ q.position = position ∧ r.position = position ∧
    q.rawName = p.rawName ∧ r.rawName = p.rawName ∧ fit p.ty q.ty r.ty

/-- The three views of one syscall name it alike and agree field by field. -/
def SyscallAligned (fit : DecoderType → RecordType → WireType → Prop) (d : Syscall DecoderType)
    (k : Syscall RecordType) (w : Syscall WireType) : Prop :=
  k.rawName = d.rawName ∧ w.rawName = d.rawName ∧
    k.params.length = d.params.length ∧ w.params.length = d.params.length ∧
    AtEveryIndex (FieldAligned fit) d.params k.params w.params

/-- A schema set with a syscall, three views of one length that agree syscall by syscall. -/
def AlignedBy (fit : DecoderType → RecordType → WireType → Prop) (s : SchemaSet) : Prop :=
  s.decoder ≠ [] ∧ s.kernel.length = s.decoder.length ∧ s.wire.length = s.decoder.length ∧
    AtEveryIndex (fun _ => SyscallAligned fit) s.decoder s.kernel s.wire

theorem AlignedBy.mono {fit fit' : DecoderType → RecordType → WireType → Prop}
    (hfit : ∀ d k w, fit d k w → fit' d k w) {s : SchemaSet} (h : AlignedBy fit s) :
    AlignedBy fit' s := by
  obtain ⟨hne, hk, hw, hsys⟩ := h
  refine ⟨hne, hk, hw, hsys.mono fun _ d k w ⟨hn, hwn, hkl, hwl, hfields⟩ => ?_⟩
  exact ⟨hn, hwn, hkl, hwl, hfields.mono fun _ p q r ⟨h1, h2, h3, h4, h5, h6⟩ =>
    ⟨h1, h2, h3, h4, h5, hfit _ _ _ h6⟩⟩

theorem fieldTypesFit_of_tableFit {d : DecoderType} {k : RecordType} {w : WireType}
    (h : TableFit d k w) : FieldTypesFit d k w := by
  obtain ⟨hsize, hbuf, -, hnum⟩ := h
  exact ⟨hsize, hbuf, fun hb => ⟨(hnum hb).1, (hnum hb).2.2⟩⟩

/-! ## The check, level by level -/

theorem recordCompatible_eq_true_iff (d : DecoderType) (k : RecordType) :
    recordCompatible d k = true ↔
      d.size = k.size ∧ d.isBuffer = k.isBuffer ∧ (d.isBuffer = false → d.isSigned = k.isSigned) := by
  cases d <;> cases k <;> decide

theorem wireCompatible_eq_true_iff (d : DecoderType) (w : WireType) :
    wireCompatible d w = true ↔ (d.isBuffer = false → ∃ n, w.size? = some n ∧ d.size ≤ n) := by
  cases d <;> cases w <;> simp [wireCompatible, WireType.size?, DecoderType.isBuffer,
    DecoderType.size, bufferSize]

theorem fieldTypesFit_iff (d : DecoderType) (k : RecordType) (w : WireType) :
    FieldTypesFit d k w ↔ recordCompatible d k = true ∧ wireCompatible d w = true := by
  rw [recordCompatible_eq_true_iff, wireCompatible_eq_true_iff, FieldTypesFit]
  constructor
  · rintro ⟨hsize, hbuf, hnum⟩
    exact ⟨⟨hsize, hbuf, fun hb => (hnum hb).1⟩, fun hb => (hnum hb).2⟩
  · rintro ⟨⟨hsize, hbuf, hsign⟩, hwire⟩
    exact ⟨hsize, hbuf, fun hb => ⟨hsign hb, hwire hb⟩⟩

section Fields

variable (syscall : String)

/-- One field passes when its three views agree; then the check moves on to the next. -/
theorem checkFields_cons_ok_iff (index : Nat) (p : Param DecoderType) (ps : List (Param DecoderType))
    (q : Param RecordType) (qs : List (Param RecordType)) (r : Param WireType)
    (rs : List (Param WireType)) :
    checkFields syscall index (p :: ps) (q :: qs) (r :: rs) = .ok () ↔
      FieldAligned FieldTypesFit index p q r ∧ checkFields syscall (index + 1) ps qs rs = .ok () := by
  by_cases hagree : FieldAligned FieldTypesFit index p q r
  · obtain ⟨h1, h2, h3, h4, h5, hfit⟩ := hagree
    obtain ⟨hrec, hwire⟩ := (fieldTypesFit_iff _ _ _).1 hfit
    simp [checkFields, FieldAligned, h1, h2, h3, h4, h5, hfit, hrec, hwire]
  · -- some guard fails, and the check stops at this field
    simp only [hagree, false_and, iff_false]
    rw [checkFields]
    split_ifs with hpos hname hrec hwire
    · exact not_false
    · exact not_false
    · exact not_false
    · exact not_false
    · -- every guard passed, so the views agree after all
      simp only [Bool.not_and, Bool.or_eq_true, Bool.not_eq_eq_eq_not, Bool.not_true,
        beq_eq_false_iff_ne, ne_eq, not_or, Decidable.not_not, Bool.not_eq_false] at hpos hname hrec hwire
      exact absurd ⟨hpos.1.1, hpos.1.2, hpos.2, hname.1.symm, hname.2.symm,
        (fieldTypesFit_iff _ _ _).2 ⟨hrec, hwire⟩⟩ hagree

/-- The fields pass exactly when they agree at every index, counted from `index`. -/
theorem checkFields_ok_iff : ∀ (index : Nat) (ds : List (Param DecoderType))
    (ks : List (Param RecordType)) (ws : List (Param WireType)),
    checkFields syscall index ds ks ws = .ok () ↔
      AtEveryIndex (fun j => FieldAligned FieldTypesFit (index + j)) ds ks ws
  | _, [], _, _ => iff_of_true rfl (atEveryIndex_nil_left _ _)
  | _, _ :: _, [], _ => iff_of_true rfl (atEveryIndex_nil_mid _ _)
  | _, _ :: _, _ :: _, [] => iff_of_true rfl (atEveryIndex_nil_right _ _)
  | index, p :: ps, q :: qs, r :: rs => by
    have hshift : (fun j => FieldAligned FieldTypesFit (index + 1 + j)) =
        fun j => FieldAligned FieldTypesFit (index + (j + 1)) := by
      funext j
      rw [Nat.add_right_comm, Nat.add_assoc]
    rw [checkFields_cons_ok_iff, checkFields_ok_iff (index + 1) ps qs rs, hshift, atEveryIndex_cons]
    exact Iff.rfl

end Fields

theorem checkSyscall_ok_iff (d : Syscall DecoderType) (k : Syscall RecordType)
    (w : Syscall WireType) : checkSyscall d k w = .ok () ↔ SyscallAligned FieldTypesFit d k w := by
  have hfields := checkFields_ok_iff d.rawName 0 d.params k.params w.params
  simp only [Nat.zero_add] at hfields
  rw [checkSyscall, SyscallAligned]
  split_ifs with hname hlen
  · -- another syscall in the kernel or the wire view
    simp only [Bool.or_eq_true, bne_iff_ne, ne_eq] at hname
    refine iff_of_false not_false fun h => ?_
    rcases hname with hk | hw
    · exact hk h.1
    · exact hw h.2.1
  · -- a different number of fields
    simp only [Bool.not_and, Bool.or_eq_true, Bool.not_eq_eq_eq_not, Bool.not_true,
      beq_eq_false_iff_ne, ne_eq] at hlen
    refine iff_of_false not_false fun h => ?_
    rcases hlen with hk | hw
    · exact hk h.2.2.1.symm
    · exact hw h.2.2.2.1.symm
  · simp only [Bool.or_eq_true, bne_iff_ne, ne_eq, not_or, Decidable.not_not, Bool.not_and,
      Bool.not_eq_eq_eq_not, Bool.not_true, beq_eq_false_iff_ne] at hname hlen
    rw [hfields]
    exact ⟨fun h => ⟨hname.1, hname.2, hlen.1.symm, hlen.2.symm, h⟩, fun h => h.2.2.2.2⟩

theorem checkSyscalls_cons_ok_iff (d : Syscall DecoderType) (ds : List (Syscall DecoderType))
    (k : Syscall RecordType) (ks : List (Syscall RecordType)) (w : Syscall WireType)
    (ws : List (Syscall WireType)) :
    checkSyscalls (d :: ds) (k :: ks) (w :: ws) = .ok () ↔
      checkSyscall d k w = .ok () ∧ checkSyscalls ds ks ws = .ok () := by
  rw [checkSyscalls]
  cases checkSyscall d k w with
  | error e => simp
  | ok u => simp

/-- The syscalls pass exactly when their views agree at every index. -/
theorem checkSyscalls_ok_iff : ∀ (ds : List (Syscall DecoderType)) (ks : List (Syscall RecordType))
    (ws : List (Syscall WireType)),
    checkSyscalls ds ks ws = .ok () ↔ AtEveryIndex (fun _ => SyscallAligned FieldTypesFit) ds ks ws
  | [], _, _ => iff_of_true rfl (atEveryIndex_nil_left _ _)
  | _ :: _, [], _ => iff_of_true rfl (atEveryIndex_nil_mid _ _)
  | _ :: _, _ :: _, [] => iff_of_true rfl (atEveryIndex_nil_right _ _)
  | d :: ds, k :: ks, w :: ws => by
    rw [checkSyscalls_cons_ok_iff, checkSyscall_ok_iff, checkSyscalls_ok_iff ds ks ws,
      atEveryIndex_cons]

/-- The check accepts exactly the aligned sets. -/
theorem checkAligned_ok_iff (s : SchemaSet) : checkAligned s = .ok () ↔ AlignedBy FieldTypesFit s := by
  rw [checkAligned, AlignedBy]
  split_ifs with hempty hlen
  · -- no syscall to generate
    simp only [SchemaSet.isEmpty, List.isEmpty_iff] at hempty
    exact iff_of_false not_false fun h => h.1 hempty
  · -- views of different lengths
    simp only [Bool.not_and, Bool.or_eq_true, Bool.not_eq_eq_eq_not, Bool.not_true,
      beq_eq_false_iff_ne, ne_eq] at hlen
    refine iff_of_false not_false fun h => ?_
    rcases hlen with hk | hw
    · exact hk h.2.1.symm
    · exact hw h.2.2.1.symm
  · simp only [SchemaSet.isEmpty, List.isEmpty_iff, Bool.not_and, Bool.or_eq_true,
      Bool.not_eq_eq_eq_not, Bool.not_true, beq_eq_false_iff_ne, ne_eq, not_or,
      Decidable.not_not] at hempty hlen
    rw [checkSyscalls_ok_iff]
    exact ⟨fun h => ⟨hempty, hlen.1.symm, hlen.2.symm, h⟩, fun h => h.2.2.2⟩

/-! ## Generating fails as the check does -/

theorem Target.generate_error_iff (t : Target) (s : SchemaSet) (e : Misalignment) :
    t.generate s = .error e ↔ checkAligned s = .error e := by
  cases hc : checkAligned s with
  | ok u =>
    cases t <;> simp [Target.generate, generateDecoder, generateRecords, generateWire,
      generateProto, hc]
  | error m =>
    cases t <;> simp [Target.generate, generateDecoder, generateRecords, generateWire,
      generateProto, hc]

theorem generateAll_error_iff (s : SchemaSet) (e : Misalignment) :
    generateAll s = .error e ↔ checkAligned s = .error e := by
  refine ⟨generateAll_eq_error, fun h => ?_⟩
  have hd : generateDecoder s = .error e := (Target.generate_error_iff .decoder s e).2 h
  simp only [generateAll, hd]
  rfl

/-- **What the alignment check accepts.** A schema set passes the check exactly when it is
aligned: its decoder view has a syscall, its three views have one length, and at every index
the three views name one syscall, have as many fields, and agree field by field on the
position, the name and types that fit (one size and buffer-ness for decoder and record, and
for a number one sign and a wire type of fixed size that holds it; a buffer may travel in any
wire type, and the wire sign is not compared). A set aligned in the stricter sense of the type
tables therefore passes. Generating all four texts, and generating each one, fails exactly
when the check does, with its misalignment. -/
theorem checkAligned_characterised (s : SchemaSet) :
    (checkAligned s = .ok () ↔ AlignedBy FieldTypesFit s) ∧
    (AlignedBy TableFit s → checkAligned s = .ok ()) ∧
    (∀ e, generateAll s = .error e ↔ checkAligned s = .error e) ∧
    ∀ (t : Target) (e : Misalignment), t.generate s = .error e ↔ checkAligned s = .error e :=
  ⟨checkAligned_ok_iff s,
    fun h => (checkAligned_ok_iff s).2 (h.mono fun _ _ _ => fieldTypesFit_of_tableFit),
    generateAll_error_iff s, fun t e => t.generate_error_iff s e⟩

/-- `chown` as compiled, with its wire view edited: the file name travels as text, and the user
id, unsigned in the decoder and the record, as a signed integer. -/
def chownLooseWire : SchemaSet :=
  ⟨[⟨"ChownEvent", "chown", .nulTerminated,
      [⟨0, "Filename", "filename", "const char *", .buffer, false⟩,
       ⟨1, "User", "user", "uid_t", .u32, false⟩]⟩],
   [⟨"ChownRecord", "chown", .nulTerminated,
      [⟨0, "Filename", "filename", "const char *", .char, false⟩,
       ⟨1, "User", "user", "uid_t", .u32, false⟩]⟩],
   [⟨"ProtobufChownEvent", "chown", .nulTerminated,
      [⟨0, "Filename", "filename", "const char *", .string, false⟩,
       ⟨1, "User", "user", "uid_t", .int32, false⟩]⟩]⟩

/-- The check passes a set that the type tables' agreement rules out: a buffer carried as text
and an unsigned number carried as a signed one. -/
theorem checkAligned_accepts_loose_wire_types :
    checkAligned chownLooseWire = .ok () ∧ ¬ AlignedBy TableFit chownLooseWire := by
  refine ⟨by decide +kernel, fun h => ?_⟩
  obtain ⟨-, -, -, hsys⟩ := h
  obtain ⟨-, -, -, -, hfields⟩ := hsys 0 _ _ _ rfl rfl rfl
  obtain ⟨-, -, -, -, -, hfit⟩ := hfields 0 _ _ _ rfl rfl rfl
  exact absurd (hfit.2.2.1 rfl) (by decide)

end SyscallTrace.Codegen
