/-!
# Path components

Two spellings of a path name the same path when they have the same components. A path that
starts with a slash starts at the root; the rest is cut at slashes, and empty pieces and `.`
pieces are dropped, so repeated slashes, a trailing slash and `/./` change nothing. A `..`
piece stays, since it cannot be resolved without looking at the filesystem. A relative path
that starts with a lone `.` (`.` itself, or `./` and more) keeps that `.` as its first
component.

Paths are bytes here: only the slash and the dot are looked at, whatever encoding the names
between them use.

## Results

* `components_append_slash`: a trailing slash does not change the components of a path that
  is not empty.
-/

set_option autoImplicit false

namespace SyscallTrace.Proc

/-- One component of a path. -/
inductive PathPart where
  /-- The root, for a path that starts with a slash. -/
  | root
  /-- A leading `.` of a relative path. -/
  | current
  /-- A `..` piece. -/
  | parent
  /-- Any other piece. -/
  | name (bytes : List UInt8)
  deriving DecidableEq, Repr

/-- The byte of `/`. -/
def slashByte : UInt8 := 47

/-- The byte of `.`. -/
def dotByte : UInt8 := 46

/-- The pieces of `bs` between slashes, empty pieces included. -/
def splitSlash : List UInt8 → List (List UInt8)
  | [] => [[]]
  | b :: bs =>
    if b = slashByte then [] :: splitSlash bs
    else
      match splitSlash bs with
      | [] => [[b]]
      | p :: ps => (b :: p) :: ps

/-- The component a piece between slashes gives: none for an empty piece or `.`. -/
def piecePart (p : List UInt8) : Option PathPart :=
  if p = [] ∨ p = [dotByte] then none
  else if p = [dotByte, dotByte] then some .parent
  else some (.name p)

/-- The components after the start of a path. -/
def bodyParts (bs : List UInt8) : List PathPart :=
  (splitSlash bs).filterMap piecePart

/-- The components of a path. -/
def components : List UInt8 → List PathPart
  | [] => []
  | b :: rest =>
    if b = slashByte then .root :: bodyParts rest
    else if b = dotByte ∧ (rest = [] ∨ rest.head? = some slashByte) then
      .current :: bodyParts rest
    else bodyParts (b :: rest)

/-- Two spellings name the same path. -/
def SamePath (a b : List UInt8) : Prop := components a = components b

instance (a b : List UInt8) : Decidable (SamePath a b) :=
  inferInstanceAs (Decidable (components a = components b))

theorem splitSlash_append_slash (bs : List UInt8) :
    splitSlash (bs ++ [slashByte]) = splitSlash bs ++ [[]] := by
  induction bs with
  | nil => rfl
  | cons b bs ih =>
    rw [List.cons_append, splitSlash, splitSlash, ih]
    by_cases h : b = slashByte
    · rw [if_pos h, if_pos h, List.cons_append]
    · rw [if_neg h, if_neg h]
      cases hs : splitSlash bs with
      | nil =>
        have hne : splitSlash bs ≠ [] := by
          cases bs with
          | nil => exact List.cons_ne_nil _ _
          | cons c cs =>
            rw [splitSlash]
            split
            · exact List.cons_ne_nil _ _
            · split <;> exact List.cons_ne_nil _ _
        exact absurd hs hne
      | cons p ps => rfl

theorem bodyParts_append_slash (bs : List UInt8) :
    bodyParts (bs ++ [slashByte]) = bodyParts bs := by
  rw [bodyParts, bodyParts, splitSlash_append_slash, List.filterMap_append]
  rw [List.filterMap_cons_none (by rfl), List.filterMap_nil, List.append_nil]

theorem components_append_slash (path : List UInt8) (h : path ≠ []) :
    components (path ++ [slashByte]) = components path := by
  cases path with
  | nil => exact absurd rfl h
  | cons b rest =>
    rw [List.cons_append, components, components]
    by_cases hr : b = slashByte
    · rw [if_pos hr, if_pos hr, bodyParts_append_slash]
    · rw [if_neg hr, if_neg hr]
      by_cases hd : b = dotByte
      · by_cases hs : rest = [] ∨ rest.head? = some slashByte
        · have hs' : rest ++ [slashByte] = [] ∨ (rest ++ [slashByte]).head? = some slashByte := by
            cases rest with
            | nil => exact Or.inr rfl
            | cons c cs =>
              rcases hs with h | h
              · exact absurd h (List.cons_ne_nil _ _)
              · exact Or.inr h
          rw [if_pos ⟨hd, hs'⟩, if_pos ⟨hd, hs⟩, bodyParts_append_slash]
        · have hs' : ¬ (rest ++ [slashByte] = [] ∨ (rest ++ [slashByte]).head? = some slashByte) := by
            cases rest with
            | nil => exact absurd (Or.inl rfl) hs
            | cons c cs =>
              intro h
              rcases h with h | h
              · exact absurd h (List.cons_ne_nil _ _)
              · exact hs (Or.inr h)
          rw [if_neg (fun h => hs' h.2), if_neg (fun h => hs h.2), ← List.cons_append,
            bodyParts_append_slash]
      · rw [if_neg (fun h => hd h.1), if_neg (fun h => hd h.1), ← List.cons_append,
          bodyParts_append_slash]

example : SamePath [47, 97, 47, 47, 98, 47] [47, 97, 47, 98] := by decide

example : components [46, 47, 97] = [.current, .name [97]] := by decide

end SyscallTrace.Proc
