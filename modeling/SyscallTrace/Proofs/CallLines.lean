import Mathlib
import SyscallTrace.Event.Decoded
import SyscallTrace.Proofs.EventEncoding

/-!
# Traced calls as lines of bytes

A call is written in three steps: its process id and name, then each argument, then the closing
parenthesis with the return value and a suffix. The argument step keeps a flag that says
whether an argument was written yet, and writes the comma of every argument but the first, a
space after it on one line, and a new line and indent before every argument on several lines.

This module shows that the flag does what a join does: on one line the arguments are joined by
a comma and a space, and on several lines each argument gets its own indented line and the
lines are joined by commas. No flag survives a call, so calls written one after another are
their bytes one after another. Arguments and suffix may be any bytes: they are written as they
are. A decoded event is written as the call of its header: the process id taken modulo
`2 ^ 32`, its name, each argument as the bytes of `name: value`, its return value and no
suffix.

## Results

* `List.intercalate_cons_eq_flatMap`: a join is the first part, then the separator before each
  further part.
* `Utf8.encode_append`: text written in pieces is the bytes of each piece in turn.
* `argsText_false`, `argsText_cons_true`: after the first argument, each is written alone.
* `argsText_oneLine`, `argsText_multiLine`: the arguments of each style as a join.
* `written_calls`: the bytes of any sequence of calls in both styles, and the call a decoded
  event is written as.
-/

set_option autoImplicit false

/-- A join is the first part, then the separator before each further part. -/
theorem List.intercalate_cons_eq_flatMap {α : Type} (sep a : List α) (rest : List (List α)) :
    sep.intercalate (a :: rest) = a ++ rest.flatMap (sep ++ ·) := by
  induction rest generalizing a with
  | nil => rw [List.intercalate_singleton, List.flatMap_nil, List.append_nil]
  | cons u rest ih =>
    rw [List.intercalate_cons_cons, ih u, List.flatMap_cons, List.append_assoc, List.append_assoc]

namespace SyscallTrace.Text.Utf8

/-- Text written in two pieces is written as the bytes of each piece in turn. -/
theorem encode_append (s t : String) : encode (s ++ t) = encode s ++ encode t := by
  rw [encode, encode, encode, String.toUTF8_eq_toByteArray, String.toUTF8_eq_toByteArray,
    String.toUTF8_eq_toByteArray, String.toByteArray_append, byteArray_toList, byteArray_toList,
    byteArray_toList, ByteArray.toList_data_append]

theorem encode_empty : encode "" = [] := by decide +kernel

end SyscallTrace.Text.Utf8

namespace SyscallTrace.Report

open SyscallTrace.Text.Utf8

/-- Once an argument is written, each further one is written as if it were alone. -/
theorem argsText_false (style : Style) (args : List (List UInt8)) :
    argsText style false args = args.flatMap fun a => argsText style false [a] := by
  induction args with
  | nil => rfl
  | cons a rest ih =>
    have hsplit : argsText style false (a :: rest) =
        argsText style false [a] ++ argsText style false rest := by
      simp only [argsText, List.append_nil, List.append_assoc]
    rw [hsplit, ih, List.flatMap_cons]

theorem argsText_cons_true (style : Style) (a : List UInt8) (rest : List (List UInt8)) :
    argsText style true (a :: rest) = argsText style true [a] ++ argsText style false rest := by
  simp only [argsText, List.append_nil, List.append_assoc]

/-- On one line the arguments are joined by a comma and a space. -/
theorem argsText_oneLine (args : List (List UInt8)) :
    argsText .oneLine true args = (encode ", ").intercalate args := by
  cases args with
  | nil => rfl
  | cons a rest =>
    rw [argsText_cons_true, argsText_false, List.intercalate_cons_eq_flatMap]
    have hfirst : argsText .oneLine true [a] = a := by
      simp only [argsText, if_true, encode_empty, List.nil_append, List.append_nil]
    have hnext : ∀ b, argsText .oneLine false [b] = encode ", " ++ b := fun b => by
      simp only [argsText, Bool.false_eq_true, if_false, List.append_nil, ← encode_append]
      rfl
    simp only [hfirst, hnext]

/-- On several lines each argument is on a line of its own, indented, and the lines are joined
by commas. -/
theorem argsText_multiLine (args : List (List UInt8)) :
    argsText .multiLine true args = (encode ",").intercalate (args.map (encode "\n\t    " ++ ·)) := by
  cases args with
  | nil => rfl
  | cons a rest =>
    rw [argsText_cons_true, argsText_false, List.map_cons, List.intercalate_cons_eq_flatMap,
      List.flatMap_map]
    have hfirst : argsText .multiLine true [a] = encode "\n\t    " ++ a := by
      simp only [argsText, if_true, encode_empty, List.nil_append, List.append_nil]
    have hnext : ∀ b, argsText .multiLine false [b] = encode "," ++ (encode "\n\t    " ++ b) :=
      fun b => by simp only [argsText, Bool.false_eq_true, if_false, List.append_nil, List.append_assoc]
    simp only [hfirst, hnext]

/-- A call on one line. -/
theorem callText_oneLine (c : Call) :
    callText .oneLine c =
      encode (toString c.pid.toNat ++ " " ++ c.name ++ "(") ++ (encode ", ").intercalate c.args ++
        encode (") = " ++ returnValueText c.name c.ret) ++ c.suffix ++ encode "\n" := by
  simp only [callText, argsText_oneLine, String.empty_append]

/-- A call on several lines. -/
theorem callText_multiLine (c : Call) :
    callText .multiLine c =
      encode (toString c.pid.toNat ++ "\n\t" ++ c.name ++ "(") ++
        (encode ",").intercalate (c.args.map (encode "\n\t    " ++ ·)) ++
          encode ("\n\t) = " ++ returnValueText c.name c.ret) ++ c.suffix ++ encode "\n" := by
  have hclose : ∀ x : String, "\n\t" ++ ") = " ++ x = "\n\t) = " ++ x := fun x => by
    rw [String.append_assoc]
    rfl
  simp only [callText, argsText_multiLine, hclose]

end SyscallTrace.Report

namespace SyscallTrace.Event

open SyscallTrace.Report SyscallTrace.Text.Utf8

/-- The call a decoded event is written as: its header's process id modulo `2 ^ 32` and name,
each argument as the bytes of `name: value`, its return value and no suffix. -/
theorem DecodedEvent.call_eq (d : DecodedEvent) :
    d.call = ⟨UInt32.ofNat (d.header.pid.toInt % 4294967296).toNat, d.header.name,
      (d.event.args d.header.ret).map (fun a => encode (a.1 ++ ": " ++ a.2)), d.header.ret, []⟩ := by
  rw [DecodedEvent.call, Descriptor.pid32_eq]
  rfl

/-- **Calls are written one after another, each as a join of its arguments.** In both styles,
for every sequence of calls with arguments and suffix of any bytes, the bytes written are those
of each call in turn, with nothing carried from one to the next: on one line the process id, a
space, the name, the arguments joined by a comma and a space in parentheses, ` = `, the return
value's text, the suffix and a line feed; on several lines the process id, the name on a new
indented line, each argument on an indented line of its own with the lines joined by commas,
the closing parenthesis on a new indented line, then as on one line. A decoded event is
written, in both styles, as the call of its header's process id modulo `2 ^ 32` and name, its
arguments as the bytes of `name: value`, its return value and no suffix. -/
theorem written_calls (calls : List Call) (d : DecodedEvent) (extra : List Nat) :
    callsText .oneLine calls = (calls.map fun c =>
        encode (toString c.pid.toNat ++ " " ++ c.name ++ "(") ++ (encode ", ").intercalate c.args ++
          encode (") = " ++ returnValueText c.name c.ret) ++ c.suffix ++ encode "\n").flatten ∧
      callsText .multiLine calls = (calls.map fun c =>
        encode (toString c.pid.toNat ++ "\n\t" ++ c.name ++ "(") ++
          (encode ",").intercalate (c.args.map (encode "\n\t    " ++ ·)) ++
            encode ("\n\t) = " ++ returnValueText c.name c.ret) ++ c.suffix ++
              encode "\n").flatten ∧
      (DecodeReport.of d extra).lineOne =
        callsText .oneLine [⟨UInt32.ofNat (d.header.pid.toInt % 4294967296).toNat, d.header.name,
          (d.event.args d.header.ret).map (fun a => encode (a.1 ++ ": " ++ a.2)), d.header.ret, []⟩] ∧
      (DecodeReport.of d extra).lineMulti =
        callsText .multiLine [⟨UInt32.ofNat (d.header.pid.toInt % 4294967296).toNat, d.header.name,
          (d.event.args d.header.ret).map (fun a => encode (a.1 ++ ": " ++ a.2)), d.header.ret, []⟩] := by
  have hone : ∀ style (c : Call), callsText style [c] = callText style c := fun style c => by
    rw [callsText, List.map_singleton, List.flatten_singleton]
  refine ⟨congrArg List.flatten (List.map_congr_left fun c _ => callText_oneLine c),
    congrArg List.flatten (List.map_congr_left fun c _ => callText_multiLine c), ?_, ?_⟩
  · rw [hone, ← DecodedEvent.call_eq]
    rfl
  · rw [hone, ← DecodedEvent.call_eq]
    rfl

example : callsText .multiLine [⟨1, "close", [encode "fd: 1"], 0, encode " <STUB>"⟩] =
    encode "1\n\tclose(\n\t    fd: 1\n\t) = 0 (success) <STUB>\n" := by
  decide +kernel

end SyscallTrace.Event
