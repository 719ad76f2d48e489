import SyscallTrace.Text.Utf8

/-!
# Syscall lines

A traced call is written as its process id, the syscall name, its arguments and its return
value. On one line: `pid name(a, b) = ret`. On several lines the name, each argument and the
closing parenthesis start lines of their own, indented by a tab, and arguments by four more
spaces. A suffix may follow the return value; a line feed ends the call. Arguments and suffix
are bytes, written as they are; the rest is text, written as its UTF-8 bytes.

A return value is written in decimal with a word on what it means: `(fd)` for what `open`
returns, `(bytes)` for what `read` and `write` return, `(success)` for a zero from a syscall
that returns zero on success, and `(error)` for a negative value or for a non-zero value of
such a syscall. Other syscalls show non-negative values bare.
-/

set_option autoImplicit false

namespace SyscallTrace.Report

open SyscallTrace.Text.Utf8

/-! ## Return values -/

/-- Syscalls that return zero on success. -/
def zeroOnSuccess : List String :=
  ["close", "mkdir", "mkdirat", "chmod", "fchmod", "fchmodat", "chown", "fchown", "fchownat"]

/-- The text of the value a syscall returned. -/
def returnValueText (syscall : String) (ret : Int64) : String :=
  let n := toString ret.toInt
  if ret = -1 then "-1 (error)"
  else if syscall = "open" then (if ret ≥ 0 then n ++ " (fd)" else n ++ " (error)")
  else if syscall = "read" ∨ syscall = "write" then
    (if ret ≥ 0 then n ++ " (bytes)" else n ++ " (error)")
  else if syscall ∈ zeroOnSuccess then (if ret = 0 then "0 (success)" else n ++ " (error)")
  else if ret < 0 then n ++ " (error)"
  else n

example : returnValueText "open" 3 = "3 (fd)" := by decide

/-! ## Calls -/

/-- How calls are laid out. -/
inductive Style where
  | oneLine
  | multiLine
  deriving DecidableEq, Repr

/-- The style of a name given as `OneLine` or `MultiLine`. -/
def Style.ofName? : String → Option Style
  | "OneLine" => some .oneLine
  | "MultiLine" => some .multiLine
  | _ => none

/-- One traced call. -/
structure Call where
  pid : UInt32
  name : String
  args : List (List UInt8)
  ret : Int64
  suffix : List UInt8
  deriving DecidableEq, Repr

/-- The bytes of the arguments after the opening parenthesis; `first` says whether none has
been written yet. -/
def argsText (style : Style) (first : Bool) : List (List UInt8) → List UInt8
  | [] => []
  | a :: rest =>
    let sep := if first then "" else ","
    let lead := match style with
      | .oneLine => if first then "" else " "
      | .multiLine => "\n\t    "
    encode sep ++ encode lead ++ a ++ argsText style false rest

/-- The bytes of one call. -/
def callText (style : Style) (c : Call) : List UInt8 :=
  let afterPid := match style with
    | .oneLine => " "
    | .multiLine => "\n\t"
  let close := match style with
    | .oneLine => ""
    | .multiLine => "\n\t"
  encode (toString c.pid.toNat ++ afterPid ++ c.name ++ "(") ++ argsText style true c.args ++
    encode (close ++ ") = " ++ returnValueText c.name c.ret) ++ c.suffix ++ encode "\n"

/-- The bytes of calls written one after another. -/
def callsText (style : Style) (calls : List Call) : List UInt8 :=
  (calls.map (callText style)).flatten

example : callText .oneLine ⟨42, "read", [encode "fd: 3", encode "count: 128"], 12, []⟩ =
    encode "42 read(fd: 3, count: 128) = 12 (bytes)\n" := by decide +kernel

end SyscallTrace.Report
