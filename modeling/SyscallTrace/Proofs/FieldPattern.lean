import Mathlib
import SyscallTrace.Schema.FieldLine

/-!
# The field pattern

A field line is read with the pattern `\s+field:(?P<type>.*?) (?P<name>[a-z_0-9]+);.*`, unanchored,
taking the match a leftmost-first engine reports: the earliest start, and from it the shortest
type, since the type's group is lazy. The scan `fieldParts?` stands in for the pattern: it walks
the line, tries each `field:` that follows a blank, and there takes the shortest type that a
space, a name and a semicolon follow. This module states the pattern as a relation on the line
and shows that the scan finds exactly the match it reports.

The argument goes through marks. A match starts on a run of blanks that ends at `field:`. Since
`f` is not blank, no run of blanks reaches past a mark: the earliest match ends its blanks at the
first mark with a well-formed tail, and from one start only one mark is in reach.

## Results

* `typedName?_eq_some_iff`: the type is the shortest that a space, a name and a semicolon follow.
* `fieldParts?_eq_some_iff`: the scan takes the first mark after a blank with such a tail.
* `fieldPatternMatch_iff`: the leftmost-first match of the pattern is that mark's.
* `fieldDeclaration?_eq_some_iff`, `fieldDeclaration?_eq_none_iff`: a line without line feeds
  declares the type and name the pattern matches, and nothing where it matches nowhere.
-/

set_option autoImplicit false

namespace SyscallTrace.Schema

open SyscallTrace.Text

/-! ## The name and the type after a mark -/

/-- After a mark, `cs` reads the type `ty`, a space, the name `name` of one or more name
characters and a semicolon. -/
def TypedTail (cs ty name : List Char) : Prop :=
  ∃ rest, cs = ty ++ ' ' :: (name ++ ';' :: rest) ∧ name ≠ [] ∧ ∀ c ∈ name, isNameChar c = true

theorem nameBeforeSemicolon?_eq_some_iff {cs name : List Char} :
    nameBeforeSemicolon? cs = some name ↔
      ∃ rest, cs = name ++ ';' :: rest ∧ name ≠ [] ∧ ∀ c ∈ name, isNameChar c = true := by
  constructor
  · intro h
    unfold nameBeforeSemicolon? at h
    split at h
    · rename_i rest hdrop
      dsimp only at h
      split_ifs at h with hempty
      cases h
      refine ⟨rest, ?_, by simpa using hempty, fun c hc => List.mem_takeWhile_imp hc⟩
      rw [← hdrop, List.takeWhile_append_dropWhile]
    · cases h
  · rintro ⟨rest, rfl, hne, hname⟩
    have hdrop : (name ++ ';' :: rest).dropWhile isNameChar = ';' :: rest := by
      rw [List.dropWhile_append_of_pos hname, List.dropWhile_cons_of_neg (by decide)]
    have htake : (name ++ ';' :: rest).takeWhile isNameChar = name := by
      rw [List.takeWhile_append_of_pos hname, List.takeWhile_cons_of_neg (by decide),
        List.append_nil]
    unfold nameBeforeSemicolon?
    rw [hdrop]
    dsimp only
    rw [htake, if_neg (by simpa using hne)]
    rfl

theorem not_typedTail_nil (ty name : List Char) : ¬TypedTail [] ty name := by
  rintro ⟨rest, h, -⟩
  cases ty <;> simp at h

theorem typedTail_cons_nil_iff {c : Char} {cs name : List Char} :
    TypedTail (c :: cs) [] name ↔ c = ' ' ∧ nameBeforeSemicolon? cs = some name := by
  rw [nameBeforeSemicolon?_eq_some_iff]
  simp only [TypedTail, List.nil_append, List.cons.injEq]
  constructor
  · rintro ⟨rest, ⟨rfl, rfl⟩, hne, hname⟩
    exact ⟨rfl, rest, rfl, hne, hname⟩
  · rintro ⟨rfl, rest, rfl, hne, hname⟩
    exact ⟨rest, ⟨rfl, rfl⟩, hne, hname⟩

theorem typedTail_cons_cons_iff {c d : Char} {cs ty name : List Char} :
    TypedTail (c :: cs) (d :: ty) name ↔ c = d ∧ TypedTail cs ty name := by
  simp only [TypedTail, List.cons_append, List.cons.injEq]
  constructor
  · rintro ⟨rest, ⟨rfl, rfl⟩, hne, hname⟩
    exact ⟨rfl, rest, rfl, hne, hname⟩
  · rintro ⟨rfl, rest, rfl, hne, hname⟩
    exact ⟨rest, ⟨rfl, rfl⟩, hne, hname⟩

/-- The type ends at the first space that a name and a semicolon follow: it is the shortest. -/
theorem typedName?_eq_some_iff {cs ty name : List Char} :
    typedName? cs = some (ty, name) ↔
      TypedTail cs ty name ∧ ∀ t n, TypedTail cs t n → ty.length ≤ t.length := by
  induction cs generalizing ty name with
  | nil =>
    simp only [typedName?, reduceCtorEq, false_iff, not_and]
    exact fun h => absurd h (not_typedTail_nil _ _)
  | cons c cs ih =>
    cases hhere : (if c = ' ' then nameBeforeSemicolon? cs else none) with
    | some n₀ =>
      have h₀ : TypedTail (c :: cs) [] n₀ := by
        split_ifs at hhere with hc
        exact typedTail_cons_nil_iff.2 ⟨hc, hhere⟩
      have hres : typedName? (c :: cs) = some ([], n₀) := by
        rw [typedName?, hhere]
      rw [hres]
      constructor
      · intro h
        cases h
        exact ⟨h₀, fun _ _ _ => Nat.zero_le _⟩
      · rintro ⟨hty, hmin⟩
        obtain rfl : ty = [] := List.eq_nil_of_length_eq_zero (Nat.le_zero.1 (hmin _ _ h₀))
        have h₁ := (typedTail_cons_nil_iff.1 hty).2
        have h₂ := (typedTail_cons_nil_iff.1 h₀).2
        rw [h₁] at h₂
        cases h₂
        rfl
    | none =>
      have hnil : ∀ n, ¬TypedTail (c :: cs) [] n := fun n h => by
        obtain ⟨hc, hn⟩ := typedTail_cons_nil_iff.1 h
        rw [if_pos hc, hn] at hhere
        cases hhere
      have hcons : ∀ t n, TypedTail (c :: cs) t n → ∃ t', t = c :: t' ∧ TypedTail cs t' n := by
        intro t n h
        cases t with
        | nil => exact absurd h (hnil n)
        | cons d t' =>
          obtain ⟨rfl, h'⟩ := typedTail_cons_cons_iff.1 h
          exact ⟨t', rfl, h'⟩
      have hres : typedName? (c :: cs) = (typedName? cs).map fun p => (c :: p.1, p.2) := by
        rw [typedName?, hhere]
      rw [hres]
      constructor
      · intro h
        obtain ⟨⟨t', n'⟩, hp, hq⟩ := Option.map_eq_some_iff.1 h
        cases hq
        obtain ⟨ht', hmin⟩ := ih.1 hp
        refine ⟨typedTail_cons_cons_iff.2 ⟨rfl, ht'⟩, fun t n htn => ?_⟩
        obtain ⟨t'', rfl, h''⟩ := hcons t n htn
        exact Nat.succ_le_succ (hmin _ _ h'')
      · rintro ⟨hty, hmin⟩
        obtain ⟨t', rfl, ht'⟩ := hcons ty name hty
        have hmin' : ∀ t n, TypedTail cs t n → t'.length ≤ t.length := fun t n h =>
          Nat.le_of_succ_le_succ (hmin (c :: t) n (typedTail_cons_cons_iff.2 ⟨rfl, h⟩))
        rw [ih.2 ⟨ht', hmin'⟩]
        rfl

/-- Some shortest type exists whenever some type does. -/
theorem exists_shortest {α : Type} (P : List Char → α → Prop) (h : ∃ t n, P t n) :
    ∃ t n, P t n ∧ ∀ t' n', P t' n' → t.length ≤ t'.length := by
  classical
  have hex : ∃ k, ∃ t n, P t n ∧ t.length = k := by
    obtain ⟨t, n, h⟩ := h
    exact ⟨t.length, t, n, h, rfl⟩
  obtain ⟨t, n, hP, hk⟩ := Nat.find_spec hex
  refine ⟨t, n, hP, fun t' n' h' => ?_⟩
  rw [hk]
  exact Nat.find_min' hex ⟨t', n', h', rfl⟩

theorem typedName?_eq_none_iff {cs : List Char} :
    typedName? cs = none ↔ ∀ t n, ¬TypedTail cs t n := by
  constructor
  · intro h t n htn
    obtain ⟨t₀, n₀, h₀, hmin⟩ := exists_shortest (TypedTail cs) ⟨t, n, htn⟩
    rw [typedName?_eq_some_iff.2 ⟨h₀, hmin⟩] at h
    cases h
  · intro h
    cases hres : typedName? cs with
    | none => rfl
    | some p => exact absurd (typedName?_eq_some_iff.1 hres).1 (h p.1 p.2)

/-! ## The first mark after a blank -/

theorem fieldMark_eq : fieldMark = ['f', 'i', 'e', 'l', 'd', ':'] := rfl

/-- From index `j`, `cs` reads `field:`, then a type and a name. -/
def MarkTail (cs : List Char) (j : Nat) (ty name : List Char) : Prop :=
  ∃ tail, cs.drop j = fieldMark ++ tail ∧ TypedTail tail ty name

/-- A mark at index `j` of `cs` after a blank: the character before it is blank, or, at index
`0`, the character before `cs` is, as `b` says. -/
def MarkAt (b : Bool) (cs : List Char) (j : Nat) (ty name : List Char) : Prop :=
  (match j with
    | 0 => b = true
    | k + 1 => ∃ c, cs[k]? = some c ∧ isBlank c = true) ∧
  MarkTail cs j ty name

theorem markTail_zero_iff {cs ty name : List Char} :
    MarkTail cs 0 ty name ↔
      fieldMark.isPrefixOf cs = true ∧ TypedTail (cs.drop fieldMark.length) ty name := by
  rw [List.isPrefixOf_iff_prefix]
  constructor
  · rintro ⟨tail, h, htail⟩
    rw [List.drop_zero] at h
    subst h
    exact ⟨List.prefix_append _ _, by rwa [List.drop_left]⟩
  · rintro ⟨⟨tail, rfl⟩, htail⟩
    exact ⟨tail, List.drop_zero, by rwa [List.drop_left] at htail⟩

theorem markAt_succ_iff {b : Bool} {c : Char} {cs : List Char} {j : Nat} {ty name : List Char} :
    MarkAt b (c :: cs) (j + 1) ty name ↔ MarkAt (isBlank c) cs j ty name := by
  unfold MarkAt MarkTail
  rw [List.drop_succ_cons]
  cases j with
  | zero => simp
  | succ k => simp

/-- The mark `fieldParts?` tries at the head of `cs`. -/
theorem markHere_eq_some_iff {b : Bool} {cs ty name : List Char} :
    (if b && fieldMark.isPrefixOf cs then typedName? (cs.drop fieldMark.length) else none) =
        some (ty, name) ↔
      MarkAt b cs 0 ty name ∧ ∀ t n, MarkAt b cs 0 t n → ty.length ≤ t.length := by
  simp only [MarkAt, markTail_zero_iff]
  by_cases hb : b = true ∧ fieldMark.isPrefixOf cs = true
  · rw [if_pos (by simpa using hb), typedName?_eq_some_iff]
    constructor
    · rintro ⟨h, hmin⟩
      exact ⟨⟨hb.1, hb.2, h⟩, fun t n h' => hmin t n h'.2.2⟩
    · rintro ⟨⟨-, -, h⟩, hmin⟩
      exact ⟨h, fun t n h' => hmin t n ⟨hb.1, hb.2, h'⟩⟩
  · rw [if_neg (by simpa using hb)]
    simp only [reduceCtorEq, false_iff, not_and]
    exact fun h _ => hb ⟨h.1, h.2.1⟩

theorem markHere_eq_none_iff {b : Bool} {cs : List Char} :
    (if b && fieldMark.isPrefixOf cs then typedName? (cs.drop fieldMark.length) else none) =
        none ↔
      ∀ t n, ¬MarkAt b cs 0 t n := by
  simp only [MarkAt, markTail_zero_iff]
  by_cases hb : b = true ∧ fieldMark.isPrefixOf cs = true
  · rw [if_pos (by simpa using hb), typedName?_eq_none_iff]
    exact ⟨fun h t n h' => h t n h'.2.2, fun h t n h' => h t n ⟨hb.1, hb.2, h'⟩⟩
  · rw [if_neg (by simpa using hb)]
    exact iff_of_true rfl fun t n h => hb ⟨h.1, h.2.1⟩

/-- `fieldParts?` finds the first mark after a blank that a type and a name follow, and there the
shortest type. -/
theorem fieldParts?_eq_some_iff {b : Bool} {cs ty name : List Char} :
    fieldParts? b cs = some (ty, name) ↔
      ∃ j, MarkAt b cs j ty name ∧ (∀ j' t n, MarkAt b cs j' t n → j ≤ j') ∧
        ∀ t n, MarkAt b cs j t n → ty.length ≤ t.length := by
  induction cs generalizing b ty name with
  | nil =>
    simp only [fieldParts?, reduceCtorEq, false_iff, not_exists, not_and]
    intro j h
    obtain ⟨tail, htail, -⟩ := h.2
    rw [List.drop_nil, fieldMark_eq] at htail
    cases htail
  | cons c cs ih =>
    cases hhere : (if b && fieldMark.isPrefixOf (c :: cs) then
        typedName? ((c :: cs).drop fieldMark.length) else none) with
    | some p =>
      obtain ⟨t₀, n₀⟩ := p
      obtain ⟨h₀, hmin₀⟩ := markHere_eq_some_iff.1 hhere
      have hres : fieldParts? b (c :: cs) = some (t₀, n₀) := by
        rw [fieldParts?, hhere]
      rw [hres]
      constructor
      · intro h
        cases h
        exact ⟨0, h₀, fun _ _ _ _ => Nat.zero_le _, hmin₀⟩
      · rintro ⟨j, hj, hjmin, hmin⟩
        obtain rfl : j = 0 := Nat.le_zero.1 (hjmin 0 t₀ n₀ h₀)
        rw [markHere_eq_some_iff.2 ⟨hj, hmin⟩] at hhere
        cases hhere
        rfl
    | none =>
      have hnone := markHere_eq_none_iff.1 hhere
      have hres : fieldParts? b (c :: cs) = fieldParts? (isBlank c) cs := by
        rw [fieldParts?, hhere]
      rw [hres, ih]
      constructor
      · rintro ⟨j, hj, hjmin, hmin⟩
        refine ⟨j + 1, markAt_succ_iff.2 hj, fun j' t n h' => ?_,
          fun t n h' => hmin t n (markAt_succ_iff.1 h')⟩
        cases j' with
        | zero => exact absurd h' (hnone t n)
        | succ j' => exact Nat.succ_le_succ (hjmin j' t n (markAt_succ_iff.1 h'))
      · rintro ⟨j, hj, hjmin, hmin⟩
        cases j with
        | zero => exact absurd hj (hnone ty name)
        | succ j =>
          refine ⟨j, markAt_succ_iff.1 hj, fun j' t n h' => ?_,
            fun t n h' => hmin t n (markAt_succ_iff.2 h')⟩
          exact Nat.le_of_succ_le_succ (hjmin (j' + 1) t n (markAt_succ_iff.2 h'))

theorem fieldParts?_eq_none_iff {b : Bool} {cs : List Char} :
    fieldParts? b cs = none ↔ ∀ j t n, ¬MarkAt b cs j t n := by
  classical
  constructor
  · intro h j t n hj
    have hex : ∃ j, ∃ t n, MarkAt b cs j t n := ⟨j, t, n, hj⟩
    obtain ⟨t₀, n₀, h₀, hmin⟩ := exists_shortest (MarkAt b cs (Nat.find hex)) (Nat.find_spec hex)
    have hjmin : ∀ j' t n, MarkAt b cs j' t n → Nat.find hex ≤ j' :=
      fun j' t n h' => Nat.find_min' hex ⟨t, n, h'⟩
    rw [fieldParts?_eq_some_iff.2 ⟨_, h₀, hjmin, hmin⟩] at h
    cases h
  · intro h
    cases hres : fieldParts? b cs with
    | none => rfl
    | some p =>
      obtain ⟨j, hj, -⟩ := fieldParts?_eq_some_iff.1 hres
      exact absurd hj (h j p.1 p.2)

/-! ## The field pattern -/

/-- From index `start`, `line` reads the field pattern `\s+field:(.*?) ([a-z_0-9]+);.*`: one or
more blanks, `field:`, the type `ty` (without a line feed, which `.` does not match), a space,
the name `name` of one or more of `a-z`, `0-9` and `_`, and a semicolon; anything may follow. -/
def FieldPatternAt (line : List Char) (start : Nat) (ty name : List Char) : Prop :=
  ∃ blanks rest, line.drop start = blanks ++ fieldMark ++ ty ++ ' ' :: (name ++ ';' :: rest) ∧
    blanks ≠ [] ∧ (∀ c ∈ blanks, isBlank c = true) ∧ '\n' ∉ ty ∧
    name ≠ [] ∧ ∀ c ∈ name, isNameChar c = true

/-- The match a leftmost-first engine reports for the field pattern: no match starts earlier,
and from its start the type is the shortest, the type's group being lazy. -/
def FieldPatternMatch (line ty name : List Char) : Prop :=
  ∃ start, FieldPatternAt line start ty name ∧ (∀ s t n, FieldPatternAt line s t n → start ≤ s) ∧
    ∀ t n, FieldPatternAt line start t n → ty.length ≤ t.length

/-- Every character of `cs` from index `s` to before `j` is blank. -/
def BlankRun (cs : List Char) (s j : Nat) : Prop :=
  ∀ k, s ≤ k → k < j → ∃ c, cs[k]? = some c ∧ isBlank c = true

theorem fieldPatternAt_iff {l : List Char} {s : Nat} {ty name : List Char} :
    FieldPatternAt l s ty name ↔
      ∃ j, s < j ∧ BlankRun l s j ∧ '\n' ∉ ty ∧ MarkTail l j ty name := by
  constructor
  · rintro ⟨blanks, rest, h, hne, hblank, hty, hname, hchars⟩
    refine ⟨s + blanks.length, by simpa using List.length_pos_iff.2 hne, ?_, hty,
      ty ++ ' ' :: (name ++ ';' :: rest), ?_, rest, by simp, hname, hchars⟩
    · intro k hs hk
      have hk' : k - s < blanks.length := by omega
      refine ⟨blanks[k - s], ?_, hblank _ (List.getElem_mem hk')⟩
      have hk_drop : l[k]? = (l.drop s)[k - s]? := by
        rw [List.getElem?_drop, Nat.add_sub_cancel' hs]
      rw [hk_drop, h, List.append_assoc, List.append_assoc, List.getElem?_append_left hk',
        List.getElem?_eq_getElem hk']
    · rw [← List.drop_drop, h, List.append_assoc, List.append_assoc, List.drop_left]
  · rintro ⟨j, hsj, hrun, hty, tail, hdrop, rest, rfl, hname, hchars⟩
    have hj : l.drop j = (l.drop s).drop (j - s) := by
      rw [List.drop_drop, Nat.add_sub_cancel' hsj.le]
    have hsplit : l.drop s = (l.drop s).take (j - s) ++ l.drop j := by
      rw [hj, List.take_append_drop]
    have hlen : j < l.length := by
      have : 0 < (l.drop j).length := by simp [hdrop, fieldMark_eq]
      simp at this
      omega
    refine ⟨(l.drop s).take (j - s), rest, ?_, ?_, ?_, hty, hname, hchars⟩
    · conv_lhs => rw [hsplit]
      rw [hdrop]
      simp only [List.append_assoc]
    · simp only [ne_eq, List.take_eq_nil_iff, List.drop_eq_nil_iff]
      omega
    · intro c hc
      obtain ⟨i, hi, hci⟩ := List.getElem_of_mem hc
      simp only [List.length_take, List.length_drop] at hi
      obtain ⟨c', hc', hb⟩ := hrun (s + i) (by omega) (by omega)
      rw [List.getElem_take, List.getElem_drop] at hci
      rw [List.getElem?_eq_getElem (by omega), Option.some.injEq] at hc'
      rw [← hci, hc']
      exact hb

theorem getElem?_of_markTail {l : List Char} {j : Nat} {ty name : List Char}
    (h : MarkTail l j ty name) : l[j]? = some 'f' := by
  obtain ⟨tail, hdrop, -⟩ := h
  rw [← Nat.add_zero j, ← List.getElem?_drop, hdrop]
  rfl

/-- No mark starts inside a run of blanks: a mark starts with `f`. -/
theorem not_markTail_of_blankRun {l : List Char} {s j k : Nat} (hrun : BlankRun l s j)
    (hs : s ≤ k) (hk : k < j) (ty name : List Char) : ¬MarkTail l k ty name := by
  intro h
  obtain ⟨c, hc, hb⟩ := hrun k hs hk
  rw [getElem?_of_markTail h, Option.some.injEq] at hc
  rw [← hc] at hb
  exact absurd hb (by decide)

/-- From one start, runs of blanks reach at most one mark. -/
theorem eq_of_blankRun_markTail {l : List Char} {s j j' : Nat} {t n t' n' : List Char}
    (hrun : BlankRun l s j) (hrun' : BlankRun l s j') (hj : s < j) (hj' : s < j')
    (h : MarkTail l j t n) (h' : MarkTail l j' t' n') : j = j' := by
  rcases Nat.lt_trichotomy j j' with hlt | heq | hgt
  · exact absurd h (not_markTail_of_blankRun hrun' hj.le hlt t n)
  · exact heq
  · exact absurd h' (not_markTail_of_blankRun hrun hj'.le hgt t' n')

theorem markAt_false_iff {l : List Char} {j : Nat} {ty name : List Char} :
    MarkAt false l j ty name ↔ 0 < j ∧ BlankRun l (j - 1) j ∧ MarkTail l j ty name := by
  cases j with
  | zero => simp [MarkAt]
  | succ k =>
    simp only [MarkAt, Nat.add_sub_cancel, Nat.succ_pos, true_and, and_congr_left_iff]
    intro _
    constructor
    · rintro hc m hm hmk
      obtain rfl : m = k := by omega
      exact hc
    · intro hrun
      exact hrun k le_rfl (Nat.lt_succ_self k)

theorem not_mem_of_markTail {l : List Char} {j : Nat} {ty name : List Char} (hl : '\n' ∉ l)
    (h : MarkTail l j ty name) : '\n' ∉ ty := by
  obtain ⟨tail, hdrop, rest, rfl, -⟩ := h
  intro hty
  have hmem : '\n' ∈ l.drop j := by
    rw [hdrop]
    simp [hty]
  exact hl (List.mem_of_mem_drop hmem)

theorem markAt_of_blankRun {l : List Char} {s j : Nat} {ty name : List Char} (hsj : s < j)
    (hrun : BlankRun l s j) (h : MarkTail l j ty name) : MarkAt false l j ty name :=
  markAt_false_iff.2 ⟨by omega, fun k hk hkj => hrun k (by omega) hkj, h⟩

theorem fieldPatternAt_of_markAt {l : List Char} {j : Nat} {ty name : List Char}
    (hl : '\n' ∉ l) (h : MarkAt false l j ty name) : FieldPatternAt l (j - 1) ty name := by
  obtain ⟨hj, hrun, hmark⟩ := markAt_false_iff.1 h
  exact fieldPatternAt_iff.2 ⟨j, by omega, hrun, not_mem_of_markTail hl hmark, hmark⟩

/-- For a line without line feeds, the match a leftmost-first engine reports is the first mark
after a blank that a type and a name follow, with there the shortest type. -/
theorem fieldPatternMatch_iff {l ty name : List Char} (hl : '\n' ∉ l) :
    FieldPatternMatch l ty name ↔
      ∃ j, MarkAt false l j ty name ∧ (∀ j' t n, MarkAt false l j' t n → j ≤ j') ∧
        ∀ t n, MarkAt false l j t n → ty.length ≤ t.length := by
  classical
  constructor
  · rintro ⟨s, hs, hsmin, htmin⟩
    obtain ⟨j, hsj, hrun, -, hmark⟩ := fieldPatternAt_iff.1 hs
    have hj : MarkAt false l j ty name := markAt_of_blankRun hsj hrun hmark
    refine ⟨j, hj, fun j' t n h' => ?_, fun t n h' => ?_⟩
    · -- an earlier mark would start a match no later than this one, inside its blanks
      have hs' := hsmin _ _ _ (fieldPatternAt_of_markAt hl h')
      by_contra hlt
      exact not_markTail_of_blankRun hrun (by have := (markAt_false_iff.1 h').1; omega)
        (Nat.lt_of_not_le hlt) t n (markAt_false_iff.1 h').2.2
    · obtain ⟨-, -, hmark'⟩ := markAt_false_iff.1 h'
      exact htmin t n (fieldPatternAt_iff.2 ⟨j, hsj, hrun, not_mem_of_markTail hl hmark', hmark'⟩)
  · rintro ⟨j, hj, hjmin, htmin⟩
    have hex : ∃ s, ∃ t n, FieldPatternAt l s t n := ⟨_, ty, name, fieldPatternAt_of_markAt hl hj⟩
    obtain ⟨t₀, n₀, h₀⟩ := Nat.find_spec hex
    obtain ⟨j₀, hs₀, hrun₀, -, hmark₀⟩ := fieldPatternAt_iff.1 h₀
    have hle : Nat.find hex ≤ j - 1 := Nat.find_min' hex ⟨ty, name, fieldPatternAt_of_markAt hl hj⟩
    obtain ⟨hjpos, -, hmark⟩ := markAt_false_iff.1 hj
    have hjj₀ : j ≤ j₀ := hjmin j₀ t₀ n₀ (markAt_of_blankRun hs₀ hrun₀ hmark₀)
    obtain rfl : j₀ = j := by
      by_contra hne
      exact not_markTail_of_blankRun hrun₀ (by omega) (by omega) ty name hmark
    refine ⟨Nat.find hex, fieldPatternAt_iff.2 ⟨j₀, hs₀, hrun₀, not_mem_of_markTail hl hmark, hmark⟩,
      fun s t n h => Nat.find_min' hex ⟨t, n, h⟩, fun t n h => ?_⟩
    obtain ⟨j', hs', hrun', -, hmark'⟩ := fieldPatternAt_iff.1 h
    obtain rfl := eq_of_blankRun_markTail hrun₀ hrun' hs₀ hs' hmark₀ hmark'
    exact htmin t n (markAt_of_blankRun hs₀ hrun₀ hmark')

/-- On a line without line feeds, `fieldParts?` gives exactly the match a leftmost-first engine
reports for the field pattern. -/
theorem fieldParts?_eq_some_iff_match {l ty name : List Char} (hl : '\n' ∉ l) :
    fieldParts? false l = some (ty, name) ↔ FieldPatternMatch l ty name :=
  fieldParts?_eq_some_iff.trans (fieldPatternMatch_iff hl).symm

/-- On a line without line feeds, `fieldParts?` finds nothing exactly when the field pattern
matches nowhere. -/
theorem fieldParts?_eq_none_iff_match {l : List Char} (hl : '\n' ∉ l) :
    fieldParts? false l = none ↔ ∀ s t n, ¬FieldPatternAt l s t n := by
  rw [fieldParts?_eq_none_iff]
  constructor
  · intro h s t n hs
    obtain ⟨j, hsj, hrun, -, hmark⟩ := fieldPatternAt_iff.1 hs
    exact h j t n (markAt_of_blankRun hsj hrun hmark)
  · intro h j t n hj
    exact h _ t n (fieldPatternAt_of_markAt hl hj)

theorem fieldDeclaration?_eq_some_iff {l : List Char} {ty name : String} (hl : '\n' ∉ l) :
    fieldDeclaration? l = some (ty, name) ↔
      FieldPatternMatch l ty.toList name.toList := by
  rw [fieldDeclaration?, Option.map_eq_some_iff]
  constructor
  · rintro ⟨⟨t, n⟩, h, heq⟩
    cases heq
    rw [String.toList_ofList, String.toList_ofList]
    exact (fieldParts?_eq_some_iff_match hl).1 h
  · intro h
    refine ⟨(ty.toList, name.toList), (fieldParts?_eq_some_iff_match hl).2 h, ?_⟩
    simp only [String.ofList_toList]

theorem fieldDeclaration?_eq_none_iff {l : List Char} (hl : '\n' ∉ l) :
    fieldDeclaration? l = none ↔ ∀ s t n, ¬FieldPatternAt l s t n := by
  rw [fieldDeclaration?, Option.map_eq_none_iff, fieldParts?_eq_none_iff_match hl]

end SyscallTrace.Schema
