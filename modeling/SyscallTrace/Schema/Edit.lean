import SyscallTrace.Schema.Basic

/-!
# Edits of a schema set

A schema set can be changed in one of its three views at a time: two syscalls swapped or one
removed, a syscall's names or buffer policy replaced, two parameters swapped or one removed,
or any part of a parameter replaced. An edit that names an index the view does not have, or a
type the view does not know, does not apply.

Nothing in the tracer or the generator edits a schema set. These edits are test scaffolding:
they build, from a compiled set, the misaligned sets on which the generators' refusals are
exercised, and no theorem of this library is about them.
-/

set_option autoImplicit false

namespace SyscallTrace.Schema

/-- One of the three views of a schema set. -/
inductive View where
  | decoder
  | kernel
  | wire
  deriving DecidableEq, Repr

/-- New values for some parts of a syscall. -/
structure SyscallChange where
  name : Option String
  rawName : Option String
  bufferPolicy : Option BufferPolicy
  deriving DecidableEq, Repr

/-- New values for some parts of a parameter; the type is given by its name. -/
structure ParamChange where
  position : Option Nat
  name : Option String
  rawName : Option String
  kernelType : Option String
  ty : Option String
  needsPath : Option Bool
  deriving DecidableEq, Repr

/-- What an edit does to the syscalls of a view. -/
inductive EditOp where
  | swapSyscalls (i j : Nat)
  | removeSyscall (i : Nat)
  | setSyscall (i : Nat) (change : SyscallChange)
  | swapParams (i a b : Nat)
  | removeParam (i a : Nat)
  | setParam (i a : Nat) (change : ParamChange)
  deriving DecidableEq, Repr

/-- An edit of one view. -/
structure Edit where
  view : View
  op : EditOp
  deriving DecidableEq, Repr

/-- `xs` with the items at `i` and `j` exchanged, if both exist. -/
def swapAt? {α : Type} (xs : List α) (i j : Nat) : Option (List α) :=
  match xs[i]?, xs[j]? with
  | some a, some b => some ((xs.set i b).set j a)
  | _, _ => none

/-- `xs` without the item at `i`, if it exists. -/
def removeAt? {α : Type} (xs : List α) (i : Nat) : Option (List α) :=
  if i < xs.length then some (xs.eraseIdx i) else none

/-- `xs` with the item at `i` replaced by its image under `f`, if it exists and `f` gives one. -/
def updateAt? {α : Type} (xs : List α) (i : Nat) (f : α → Option α) : Option (List α) :=
  match xs[i]? with
  | some a => (f a).map (xs.set i ·)
  | none => none

/-- A parameter with the given parts replaced; `none` if the new type name is unknown. -/
def ParamChange.apply {τ : Type} (c : ParamChange) (tyOfName? : String → Option τ)
    (p : Param τ) : Option (Param τ) := do
  let ty ← match c.ty with
    | some n => tyOfName? n
    | none => some p.ty
  return { position := c.position.getD p.position, name := c.name.getD p.name,
           rawName := c.rawName.getD p.rawName, kernelType := c.kernelType.getD p.kernelType,
           ty, needsPath := c.needsPath.getD p.needsPath }

/-- A syscall with the given parts replaced. -/
def SyscallChange.apply {τ : Type} (c : SyscallChange) (s : Syscall τ) : Syscall τ :=
  { s with name := c.name.getD s.name, rawName := c.rawName.getD s.rawName,
           bufferPolicy := c.bufferPolicy.getD s.bufferPolicy }

/-- The syscalls of one view after an edit. -/
def EditOp.apply {τ : Type} (op : EditOp) (tyOfName? : String → Option τ)
    (syscalls : List (Syscall τ)) : Option (List (Syscall τ)) :=
  match op with
  | .swapSyscalls i j => swapAt? syscalls i j
  | .removeSyscall i => removeAt? syscalls i
  | .setSyscall i c => updateAt? syscalls i fun s => some (c.apply s)
  | .swapParams i a b =>
    updateAt? syscalls i fun s => (swapAt? s.params a b).map ({ s with params := · })
  | .removeParam i a =>
    updateAt? syscalls i fun s => (removeAt? s.params a).map ({ s with params := · })
  | .setParam i a c =>
    updateAt? syscalls i fun s =>
      (updateAt? s.params a (c.apply tyOfName?)).map ({ s with params := · })

/-- A schema set after an edit, if the edit applies. -/
def SchemaSet.edit (s : SchemaSet) (e : Edit) : Option SchemaSet :=
  match e.view with
  | .decoder => (e.op.apply DecoderType.ofName? s.decoder).map ({ s with decoder := · })
  | .kernel => (e.op.apply RecordType.ofName? s.kernel).map ({ s with kernel := · })
  | .wire => (e.op.apply WireType.ofName? s.wire).map ({ s with wire := · })

/-- A schema set after edits in order, if each applies. -/
def SchemaSet.editAll (s : SchemaSet) : List Edit → Option SchemaSet
  | [] => some s
  | e :: es => (s.edit e).bind (·.editAll es)

end SyscallTrace.Schema
