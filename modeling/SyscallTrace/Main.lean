import SyscallTrace.Codegen.Artifacts
import SyscallTrace.Schema.Snapshot

/-!
# Command line

The generator as a command: it builds the four texts from the bundled format snapshot and
prints them on standard output. With no argument it prints every target, in the order
decoder, records, wire, proto; otherwise it prints the targets named by the arguments, in
the order given. A name that is not a target is reported on standard error, and nothing is
printed.
-/

set_option autoImplicit false

namespace SyscallTrace.Command

open SyscallTrace.Codegen SyscallTrace.Schema

/-- The targets the arguments ask for, or the first argument that names none. -/
def selectTargets : List String → Except String (List Target)
  | [] => .ok Target.all
  | args => args.mapM fun a =>
    match Target.ofName? a with
    | some t => .ok t
    | none => .error a

/-- What the command prints for its arguments: the requested texts one after the other, or
the message of the first thing that went wrong. -/
def render (args : List String) : Except String String := do
  let targets ← (selectTargets args).mapError fun a =>
    "unknown target " ++ a ++ " (expected decoder, records, wire or proto)"
  let artifacts ← (buildArtifacts snapshotDir).mapError BuildError.message
  return String.join (targets.map artifacts.get)

example : selectTargets ["wire", "proto"] = .ok [.wire, .proto] := rfl

example : selectTargets ["wire", "nope"] = .error "nope" := rfl

end SyscallTrace.Command

/-- Prints the requested texts, or reports the error with exit code 1. -/
def main (args : List String) : IO UInt32 := do
  match SyscallTrace.Command.render args with
  | .ok text =>
    IO.print text
    return 0
  | .error msg =>
    IO.eprintln msg
    return 1
