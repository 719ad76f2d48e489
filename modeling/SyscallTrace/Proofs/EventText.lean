import Mathlib
import SyscallTrace.Proofs.DecodedEvents

/-!
# The text views of a decoded event

An event is shown three ways: `arg` gives one field's plain text, `args` every field's text
under its kernel name, and `render` one line with each field after its camel-case name. The
three are written separately, for syscalls from the decoder view of their layout and for
connections by hand, so this module says once what a field shows (`ShownField`) and proves
that all three views of every decoded event show the same fields (`Body.ShowsFields`).

The plain text of a buffer is the bytes before its first NUL read as UTF-8, or for `read` and
`write` its first `min (max ret 0) 256` bytes; of a number its decimal digits; of an IPv4
address the dotted decimal of its four payload bytes in memory order, and of an IPv6 address
its text. Among the arguments a buffer is quoted, and a descriptor is followed by the path the
table holds for it in angle brackets.

## Results

* `SyscallEvent.showsFields`: a syscall event shows any list of fields that agree one by one
  with its own.
* `forall₂_resolvedFields`: the fields of a decoded syscall agree with its record's fields.
* `showsFields_of_plain`, `connection_render`: the fields a connection shows.
* `decoded_text_views`: what the three views of every decoded event show, for every return
  value.
-/

set_option autoImplicit false

/-- Lists whose elements are related by `F a = G b` have the same images. -/
theorem List.map_eq_map_of_forall₂ {α β γ : Type*} {F : α → γ} {G : β → γ} {l₁ : List α}
    {l₂ : List β} (h : List.Forall₂ (fun a b => F a = G b) l₁ l₂) : l₁.map F = l₂.map G := by
  have hmap : List.Forall₂ (· = ·) (l₁.map F) (l₂.map G) :=
    List.forall₂_map_left_iff.2 (List.forall₂_map_right_iff.2 h)
  rwa [List.forall₂_eq_eq_eq] at hmap

/-- The bytes of a 32-bit word in memory order are its little-endian bytes. -/
theorem SyscallTrace.Net.wordBytes_eq_u32 (w : UInt32) : Net.wordBytes w = Bytes.u32 w := by
  have hw := w.toNat_lt
  simp only [Net.wordBytes, Bytes.u32, Bytes.encode, List.cons.injEq, and_true]
  refine ⟨?_, ?_, ?_, ?_⟩ <;> apply UInt8.toNat_inj.1 <;>
    simp only [UInt32.toNat_toUInt8, UInt32.toNat_shiftRight, Nat.toUInt8_eq, UInt8.toNat_ofNat',
      Nat.shiftRight_eq_div_pow, UInt32.reduceToNat, Nat.reduceMod, Nat.reducePow] <;> omega

namespace SyscallTrace.Event

open SyscallTrace.Bytes SyscallTrace.Schema SyscallTrace.Descriptor

/-! ## What a field shows -/

/-- How a field's text stands among the arguments. -/
inductive Display where
  /-- Quoted, as a buffer is. -/
  | quoted
  /-- Followed by a descriptor's path in angle brackets. -/
  | withPath (path : String)
  /-- As it is. -/
  | plain
  deriving DecidableEq, Repr

/-- A field as the text views show it: its kernel name, its plain text, and how that text
stands among the arguments. -/
structure ShownField where
  rawName : String
  text : String
  display : Display
  deriving DecidableEq, Repr

/-- The text of a field among the arguments. -/
def ShownField.argText (f : ShownField) : String :=
  match f.display with
  | .quoted => Text.quote f.text
  | .withPath path => f.text ++ "<" ++ path ++ ">"
  | .plain => f.text

/-- The three text views of `e`, for the return value `ret`, show the fields `fs` of the event
`name`: argument `n` is the plain text of field `n`, and past the last field it is out of
range; the arguments are the fields' kernel names with their texts, in order; the line is, for
each field, its camel-case name, a space, its text and a space. -/
structure Body.ShowsFields (e : Body) (ret : Int64) (name : String) (fs : List ShownField) :
    Prop where
  arg_lt : ∀ n (h : n < fs.length), e.arg n ret = .ok fs[n].text
  arg_ge : ∀ n, fs.length ≤ n → e.arg n ret = .error (.outOfRange name n)
  args_eq : e.args ret = fs.map fun f => (f.rawName, f.argText)
  render_eq : e.render ret =
    String.join (fs.map fun f => camelCase f.rawName ++ " " ++ f.argText ++ " ")

/-! ## Syscall events -/

/-- The field `q` of a record of the syscall `syscall` holding `v`, as the text views show it
for the return value `ret`: a buffer quoted, its text the bytes before its first NUL or, for
`read` and `write`, its first `min (max ret 0) 256` bytes, read as UTF-8; a number in decimal,
for a descriptor followed by the path `ctx` holds for it in the process `pid`. -/
def recordField (ctx : Context) (pid : UInt32) (ret : Int64) (syscall : String)
    (q : Param RecordType) (v : FieldValue) : ShownField :=
  match v with
  | .buffer b =>
    ⟨q.rawName, Text.Utf8.decodeLossy (if syscall ∈ ["read", "write"]
      then b.take (min (max ret.toInt 0) 256).toNat else b.takeWhile (· != 0)), .quoted⟩
  | v => ⟨q.rawName, toString v.toInt,
    if q.needsPath then .withPath (ctx.resolveFdPath pid v.word32) else .plain⟩

/-- A buffer bounded by a return value holds the first `min (max ret 0) 256` of its bytes. -/
theorem retBounded_of_length {b : List UInt8} (hb : b.length = bufferSize) (ret : Int64) :
    retBounded b ret = b.take (min (max ret.toInt 0) 256).toNat := by
  rw [retBounded, retLength, List.take_eq_take_iff, hb, bufferSize]
  omega

namespace SyscallEvent

/-- The decoded field `f` of `s` shows as `g`, for the return value `ret`: under its kernel
name, with its plain text and its argument text, and the decoder names it in camel case. -/
structure ShowsAs (s : SyscallEvent) (ret : Int64) (f : DecodedField) (g : ShownField) :
    Prop where
  rawName_eq : g.rawName = f.param.rawName
  text_eq : g.text = s.shown ret f
  argText_eq : g.argText = s.argText ret f
  name_eq : f.param.name = camelCase g.rawName

/-- A syscall event shows every list of fields that agree one by one with its own. -/
theorem showsFields {s : SyscallEvent} {ret : Int64} {gs : List ShownField}
    (h : List.Forall₂ (s.ShowsAs ret) s.fields gs) :
    (Body.syscall s).ShowsFields ret s.name gs where
  arg_lt n hn := by
    have hlen : n < s.fields.length := h.length_eq ▸ hn
    have hget := h.get hlen hn
    simp only [List.get_eq_getElem] at hget
    show s.arg n ret = _
    rw [SyscallEvent.arg, List.getElem?_eq_getElem hlen, hget.text_eq]
  arg_ge n hn := by
    show s.arg n ret = _
    rw [SyscallEvent.arg, List.getElem?_eq_none (h.length_eq ▸ hn)]
  args_eq := List.map_eq_map_of_forall₂ (h.imp fun f g hfg => by
    rw [hfg.rawName_eq, hfg.argText_eq])
  render_eq := congrArg String.join (List.map_eq_map_of_forall₂ (h.imp fun f g hfg => by
    rw [hfg.name_eq, hfg.argText_eq]))

/-- A field decoded by a compiled layout of the syscall `syscall` shows as `recordField` says,
for every return value. -/
theorem showsAs_resolved {s : SyscallEvent} {syscall : String}
    (hpolicy : s.layout.decoder.bufferPolicy = bufferPolicyOf syscall)
    (ctx : Context) (pid : UInt32) (ret : Int64) {p : Param DecoderType} {q : Param RecordType}
    {v : FieldValue}
    (hpq : p.name = camelCase q.rawName ∧ p.rawName = q.rawName ∧ p.needsPath = q.needsPath)
    (hv : v.Fits q.ty) :
    s.ShowsAs ret (DecodedField.resolved ctx pid (p, v)) (recordField ctx pid ret syscall q v) := by
  obtain ⟨hname, hraw, hpath⟩ := hpq
  generalize q.ty = ty at hv
  cases hv with
  | buffer hb =>
    rename_i b
    have htext : (recordField ctx pid ret syscall q (.buffer b)).text =
        s.shown ret (DecodedField.resolved ctx pid (p, .buffer b)) := by
      by_cases hrw : syscall ∈ ["read", "write"]
      · simp only [recordField, SyscallEvent.shown, DecodedField.resolved, hpolicy, bufferPolicyOf,
          returnBoundedSyscalls, hrw, ↓reduceIte, retBounded_of_length hb]
      · simp only [recordField, SyscallEvent.shown, DecodedField.resolved, hpolicy, bufferPolicyOf,
          returnBoundedSyscalls, hrw, ↓reduceIte, cString]
    exact ⟨hraw.symm, htext, congrArg Text.quote htext, hname⟩
  | s32 x | u32 x | s64 x | u64 x =>
    refine ⟨hraw.symm, rfl, ?_, hname⟩
    cases hq : q.needsPath <;> simp only [recordField, DecodedField.resolved, hpath, hq] <;> rfl

end SyscallEvent

/-- The fields a compiled layout decodes from values that fit its record show as the record's
fields, one by one. -/
theorem forall₂_resolvedFields {s : SyscallEvent} {syscall : String}
    (hpolicy : s.layout.decoder.bufferPolicy = bufferPolicyOf syscall)
    (ctx : Context) (pid : UInt32) (ret : Int64) {ps : List (Param DecoderType)}
    {qs : List (Param RecordType)}
    (hps : List.Forall₂ (fun (p : Param DecoderType) (q : Param RecordType) =>
      p.name = camelCase q.rawName ∧ p.rawName = q.rawName ∧ p.needsPath = q.needsPath) ps qs) :
    ∀ {vs : List FieldValue}, List.Forall₂ FieldValue.Fits vs (qs.map (·.ty)) →
      List.Forall₂ (s.ShowsAs ret) ((ps.zip vs).map (DecodedField.resolved ctx pid))
        ((qs.zip vs).map fun qv => recordField ctx pid ret syscall qv.1 qv.2) := by
  induction hps with
  | nil =>
    intro vs _
    exact .nil
  | cons hpq _ ih =>
    intro vs hvs
    rw [List.map_cons] at hvs
    cases hvs with
    | cons hv hvs => exact .cons (SyscallEvent.showsAs_resolved hpolicy ctx pid ret hpq hv) (ih hvs)

/-- A syscall event decoded by a compiled layout from values that fit its record shows the
record's fields. -/
theorem showsFields_decoded {l : SyscallLayout} (hl : l.Compiled) (ctx : Context) (pid : UInt32)
    (ret : Int64) {vs : List FieldValue}
    (hvs : List.Forall₂ FieldValue.Fits vs (l.kernel.params.map (·.ty))) :
    (Body.syscall ⟨l, l.resolvedFields ctx pid vs⟩).ShowsFields ret l.kernel.rawName
      ((l.kernel.params.zip vs).map fun qv => recordField ctx pid ret l.kernel.rawName qv.1 qv.2) := by
  have h := SyscallEvent.showsFields
    (forall₂_resolvedFields (s := ⟨l, l.resolvedFields ctx pid vs⟩) hl.bufferPolicy_eq ctx pid ret
      hl.params hvs)
  rw [SyscallEvent.name, hl.rawName_eq] at h
  exact h

/-! ## Connection events -/

/-- The fields a connection shows: its two addresses as the texts given, its ports and its
network namespace in decimal. -/
def connectionFields (saddr daddr : String) (sport dport : UInt16) (netns : UInt32) :
    List ShownField :=
  [⟨"saddr", saddr, .plain⟩, ⟨"daddr", daddr, .plain⟩, ⟨"sport", toString sport.toNat, .plain⟩,
    ⟨"dport", toString dport.toNat, .plain⟩, ⟨"netns", toString netns.toNat, .plain⟩]

/-- An event whose arguments are its fields' plain texts, picked out one by one by `nthArg`,
shows those fields. -/
theorem showsFields_of_plain {e : Body} {ret : Int64} {name : String} {fs : List ShownField}
    (hplain : ∀ f ∈ fs, f.display = .plain)
    (hargs : e.args ret = fs.map fun f => (f.rawName, f.text))
    (harg : ∀ n, e.arg n ret = nthArg name (e.args ret) n)
    (hrender : e.render ret =
      String.join (fs.map fun f => camelCase f.rawName ++ " " ++ f.text ++ " ")) :
    e.ShowsFields ret name fs := by
  have htext : ∀ f ∈ fs, f.argText = f.text := fun f hf => by
    rw [ShownField.argText, hplain f hf]
  refine ⟨fun n hn => ?_, fun n hn => ?_, ?_, ?_⟩
  · rw [harg, hargs, nthArg, List.getElem?_map, List.getElem?_eq_getElem hn]
    rfl
  · rw [harg, hargs, nthArg, List.getElem?_eq_none (by rw [List.length_map]; exact hn)]
  · rw [hargs]
    exact List.map_congr_left fun f hf => by rw [htext f hf]
  · rw [hrender]
    exact congrArg String.join (List.map_congr_left fun f hf => by rw [htext f hf])

/-- The line of a connection is each of its fields' camel-case names and texts. -/
theorem connection_render (saddr daddr : String) (sport dport : UInt16) (netns : UInt32) :
    "Saddr " ++ saddr ++ " Daddr " ++ daddr ++ " Sport " ++ toString sport.toNat ++ " Dport " ++
        toString dport.toNat ++ " Netns " ++ toString netns.toNat ++ " " =
      String.join ((connectionFields saddr daddr sport dport netns).map fun f =>
        camelCase f.rawName ++ " " ++ f.text ++ " ") := by
  have h₁ : camelCase "saddr" = "Saddr" := by decide
  have h₂ : camelCase "daddr" = "Daddr" := by decide
  have h₃ : camelCase "sport" = "Sport" := by decide
  have h₄ : camelCase "dport" = "Dport" := by decide
  have h₅ : camelCase "netns" = "Netns" := by decide
  have e₁ : "Saddr " = "Saddr" ++ " " := rfl
  have e₂ : " Daddr " = " " ++ ("Daddr" ++ " ") := rfl
  have e₃ : " Sport " = " " ++ ("Sport" ++ " ") := rfl
  have e₄ : " Dport " = " " ++ ("Dport" ++ " ") := rfl
  have e₅ : " Netns " = " " ++ ("Netns" ++ " ") := rfl
  rw [e₁, e₂, e₃, e₄, e₅]
  simp only [connectionFields, h₁, h₂, h₃, h₄, h₅, String.append_assoc, List.map_cons,
    List.map_nil, String.join_cons, String.join_nil, String.append_empty]

/-- Every field of a connection stands as it is among the arguments. -/
theorem connectionFields_plain (saddr daddr : String) (sport dport : UInt16) (netns : UInt32) :
    ∀ f ∈ connectionFields saddr daddr sport dport netns, f.display = .plain := by
  intro f hf
  simp only [connectionFields, List.mem_cons, List.not_mem_nil, or_false] at hf
  rcases hf with rfl | rfl | rfl | rfl | rfl <;> rfl

/-- An IPv4 connection shows its addresses as the dotted decimal of their bytes in memory order. -/
theorem ConnectV4.showsFields (c : ConnectV4) (ret : Int64) :
    (Body.connectV4 c).ShowsFields ret c.kind
      (connectionFields (Net.ipv4Text (u32 c.saddr)) (Net.ipv4Text (u32 c.daddr)) c.sport c.dport
        c.netns) := by
  have hword : ∀ w, Net.ipv4OfWord w = Net.ipv4Text (u32 w) := fun w => by
    rw [Net.ipv4OfWord, Net.wordBytes_eq_u32]
  refine showsFields_of_plain (connectionFields_plain _ _ _ _ _) ?_ (fun _ => rfl) ?_
  · show c.args = _
    rw [ConnectV4.args, hword, hword]
    rfl
  · -- unfold the line by its definition: its equation lemma is slow to make
    show c.render = _
    delta ConnectV4.render
    rw [hword, hword]
    exact connection_render _ _ _ _ _

/-- An IPv6 connection shows its addresses as the text of their sixteen bytes. -/
theorem ConnectV6.showsFields (c : ConnectV6) (ret : Int64) :
    (Body.connectV6 c).ShowsFields ret c.kind
      (connectionFields (Net.ipv6Text c.saddr) (Net.ipv6Text c.daddr) c.sport c.dport c.netns) := by
  refine showsFields_of_plain (connectionFields_plain _ _ _ _ _) ?_ (fun _ => rfl) ?_
  · show c.args = _
    rw [ConnectV6.args]
    rfl
  · show c.render = _
    delta ConnectV6.render
    exact connection_render _ _ _ _ _

/-! ## Every decoded event -/

/-- What the text views of the event `e` of the process `pid`, decoded by `r` from the values
`v` against the table `ctx`, show for the return value `ret`: a syscall the fields of its
record; a connection its addresses, ports and namespace; a descriptor install no single
argument; an event with no decoder nothing at all. -/
def Route.TextViews (ctx : Context) (pid : UInt32) (name : String) (ret : Int64) (e : Body) :
    (r : Route) → r.Values → Prop
  | .syscall l, vs => e.ShowsFields ret name
      ((l.kernel.params.zip vs.1).map fun qv => recordField ctx pid ret name qv.1 qv.2)
  | .file, _ => ∀ n, e.arg n ret = .error (.unsupported fdInstallName)
  | .connectV4 _, (saddr, daddr, sport, dport, netns) => e.ShowsFields ret name
      (connectionFields (Net.ipv4Text (u32 saddr)) (Net.ipv4Text (u32 daddr)) sport dport netns)
  | .connectV6 _, (saddr, daddr, sport, dport, netns) => e.ShowsFields ret name
      (connectionFields (Net.ipv6Text saddr.1) (Net.ipv6Text daddr.1) sport dport netns)
  | .other, _ =>
    (∀ n, e.arg n ret = .error (.unsupported otherName)) ∧ e.args ret = [] ∧ e.render ret = ""

/-- Every event a decoder makes from compiled layouts shows what `Route.TextViews` says. -/
theorem Route.textViews_decoded {layouts : List SyscallLayout} {name : String}
    (hl : ∀ l ∈ layouts, l.Compiled) (ctx : Context) (pid : UInt32) (ret : Int64)
    (v : (route layouts name).Values) :
    (route layouts name).TextViews ctx pid name ret ((route layouts name).decoded ctx pid v).1 v := by
  revert v
  cases hr : route layouts name with
  | syscall l =>
    rintro ⟨vs, hvs⟩
    obtain ⟨hmem, hname⟩ := route_eq_syscall hr
    have hc := hl l hmem
    rw [hc.rawName_eq] at hname
    have h := showsFields_decoded hc ctx pid ret hvs
    rw [hname] at h
    exact h
  | file =>
    rintro ⟨fd, ino, major, minor⟩ n
    rfl
  | connectV4 kind =>
    obtain rfl := route_eq_connectV4 hr
    rintro ⟨saddr, daddr, sport, dport, netns⟩
    exact ConnectV4.showsFields ⟨kind, saddr, daddr, sport, dport, netns⟩ ret
  | connectV6 kind =>
    obtain rfl := route_eq_connectV6 hr
    rintro ⟨⟨saddr, hs⟩, ⟨daddr, hd⟩, sport, dport, netns⟩
    exact ConnectV6.showsFields ⟨kind, saddr, daddr, sport, dport, netns⟩ ret
  | other =>
    rintro ⟨⟩
    exact ⟨fun _ => rfl, rfl, rfl⟩

/-- **The three text views of a decoded event agree.** For every buffer that decodes and every
return value: the payload starts with the written form of some values, and the event shows,
in `arg`, `args` and `render` alike, the fields `Route.TextViews` gives for them. A syscall
shows its record's fields in order under their kernel names, a buffer quoted with the text of
its bytes before the first NUL or, for `read` and `write`, of its first `min (max ret 0) 256`
bytes, a descriptor with the path the table held; a connection its addresses as text, its
ports and namespace in decimal; past the last field an argument is out of range for the
event's name. A descriptor install answers every argument as unsupported, and an event with no
decoder answers every argument as unsupported and has no arguments and an empty line. -/
theorem decoded_text_views {ctx : Context} {buf : List UInt8} {hdr : Header} {e : Body}
    (h : (decodeBuffer ctx buf).1 = .ok ⟨hdr, e⟩) :
    ∃ v : (route bundledLayouts hdr.name).Values,
      (route bundledLayouts hdr.name).encode v =
          (buf.drop headerSize).take (route bundledLayouts hdr.name).payloadSize ∧
        ∀ ret, (route bundledLayouts hdr.name).TextViews ctx hdr.pid32 hdr.name ret e v := by
  obtain ⟨-, v, henc, hev, -⟩ := decodeBuffer_fst_eq_ok h
  refine ⟨v, henc, fun ret => ?_⟩
  rw [show e = _ from hev]
  exact Route.textViews_decoded (fun _ => compiled_of_mem_bundledLayouts) ctx _ ret v

/-- The text views of `webConnect`, decoded from the buffer the probe writes for it. -/
theorem decoded_text_views_web_connect :
    (decodeBuffer (Context.withProc .empty) webConnectBuffer).1 =
        .ok ⟨⟨1000, 42, 0, "connect_v4"⟩, .connectV4 webConnect⟩ ∧
      ∃ v : (route bundledLayouts "connect_v4").Values,
        (route bundledLayouts "connect_v4").encode v =
            (webConnectBuffer.drop headerSize).take (route bundledLayouts "connect_v4").payloadSize ∧
          ∀ ret, (route bundledLayouts "connect_v4").TextViews (Context.withProc .empty)
            (Header.pid32 ⟨1000, 42, 0, "connect_v4"⟩) "connect_v4" ret (.connectV4 webConnect) v :=
  ⟨decodeBuffer_webConnect _, decoded_text_views (decodeBuffer_webConnect _)⟩

example : (Body.connectV4 webConnect).render 0 =
    "Saddr 10.0.0.2 Daddr 93.184.216.34 Sport 40000 Dport 80 Netns 4026531840 " := by
  decide +kernel

end SyscallTrace.Event
