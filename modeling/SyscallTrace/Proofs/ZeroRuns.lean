import Mathlib
import SyscallTrace.Net.Address

/-!
# The longest run of zero groups

An IPv6 address is written with its longest run of zero groups replaced by `::`, the first of
equal runs. `longestZeroRun` finds that run in one pass: it keeps the run of zeros that ends at
the current group and the best run so far, and replaces the best only by a strictly longer one.

This module states what a run is (`ZeroRun`), what the scan is to find (`FirstLongestRun`) and
what it knows after each group (`ScanState`). One group preserves the scan's knowledge
(`ScanState.step`), so the whole pass ends with the first longest run of its groups. Runs at
either end, runs of one group and ties between equal runs all go through the same step.

## Results

* `ScanState.step`: reading one group keeps the scan's knowledge.
* `longestZeroRun_firstLongest`: the scan finds the first longest run of zero groups.
* `FirstLongestRun.unique`: there is only one such run.
-/

set_option autoImplicit false

namespace SyscallTrace.Net

/-- The `len` groups of `gs` from index `start` on are zero. A run of no groups is anywhere. -/
def ZeroRun (gs : List Nat) (start len : Nat) : Prop :=
  ∀ k, start ≤ k → k < start + len → gs[k]? = some 0

/-- `run` is, as (start, length), the first of the longest runs of zero groups of `gs`: of no
groups when `gs` has no zero. -/
structure FirstLongestRun (gs : List Nat) (run : Nat × Nat) : Prop where
  zero : ZeroRun gs run.1 run.2
  longest : ∀ s l, ZeroRun gs s l → l ≤ run.2
  first : ∀ s, ZeroRun gs s run.2 → run.1 ≤ s

/-! ## Runs -/

section Runs

variable {pre : List Nat} {s l : Nat}

theorem zeroRun_empty (gs : List Nat) (s : Nat) : ZeroRun gs s 0 :=
  fun _ h₁ h₂ => absurd h₂ (by omega)

/-- A run of some groups lies inside the list. -/
theorem ZeroRun.end_le (h : ZeroRun pre s l) (hl : 0 < l) : s + l ≤ pre.length := by
  have hlast := h (s + l - 1) (by omega) (by omega)
  have := (List.getElem?_eq_some_iff.mp hlast).1
  omega

/-- A run that reaches past the end of the list has no groups. -/
theorem ZeroRun.eq_zero_of_lt (h : ZeroRun pre s l) (hlt : pre.length < s + l) : l = 0 := by
  rcases Nat.eq_zero_or_pos l with hl | hl
  · exact hl
  · have := h.end_le hl
    omega

theorem ZeroRun.le_length (h : ZeroRun pre s l) : l ≤ pre.length := by
  rcases Nat.eq_zero_or_pos l with hl | hl
  · omega
  · have := h.end_le hl
    omega

theorem ZeroRun.append (h : ZeroRun pre s l) (g : Nat) : ZeroRun (pre ++ [g]) s l := by
  intro k hk hk'
  have hin : k < pre.length := by
    have := (List.getElem?_eq_some_iff.mp (h k hk hk')).1
    omega
  rw [List.getElem?_append_left hin]
  exact h k hk hk'

/-- A run of a list with a group added either was a run before, or ends at the added group. -/
theorem ZeroRun.of_append {g : Nat} (h : ZeroRun (pre ++ [g]) s l) :
    ZeroRun pre s l ∨ (g = 0 ∧ s + l = pre.length + 1 ∧ 0 < l ∧ ZeroRun pre s (l - 1)) := by
  by_cases hend : s + l ≤ pre.length
  · refine .inl fun k hk hk' => ?_
    have hk := h k hk hk'
    rwa [List.getElem?_append_left (by omega : k < pre.length)] at hk
  · -- the run reaches the added group, which must be its last
    rcases Nat.eq_zero_or_pos l with hl | hl
    · exact .inl (hl ▸ zeroRun_empty pre s)
    have hfit := ZeroRun.end_le h hl
    rw [List.length_append, List.length_singleton] at hfit
    have hg : g = 0 := by
      have hlast := h pre.length (by omega) (by omega)
      rw [List.getElem?_append_right (Nat.le_refl _), Nat.sub_self] at hlast
      simpa using hlast
    refine .inr ⟨hg, by omega, hl, fun k hk hk' => ?_⟩
    have hk := h k hk (by omega)
    rwa [List.getElem?_append_left (by omega : k < pre.length)] at hk

/-- A run that ends the list grows by an added zero. -/
theorem ZeroRun.append_zero (h : ZeroRun pre s l) (hend : s + l = pre.length) :
    ZeroRun (pre ++ [0]) s (l + 1) := by
  intro k hk hk'
  by_cases hin : k < pre.length
  · rw [List.getElem?_append_left hin]
    exact h k hk (by omega)
  · have hk_eq : k = pre.length := by omega
    rw [hk_eq, List.getElem?_append_right (Nat.le_refl _), Nat.sub_self]
    rfl

end Runs

/-! ## One group of the scan -/

/-- What the scan knows after reading `pre`: `cur` is the run of zeros that ends `pre`, of no
groups if `pre` does not end in zero, and `best` is the first longest run of `pre`. -/
structure ScanState (pre : List Nat) (cur best : Nat × Nat) : Prop where
  cur_zero : ZeroRun pre cur.1 cur.2
  cur_end : 0 < cur.2 → cur.1 + cur.2 = pre.length
  cur_longest : ∀ s l, ZeroRun pre s l → s + l = pre.length → l ≤ cur.2
  best : FirstLongestRun pre best

theorem scanState_nil : ScanState [] (0, 0) (0, 0) where
  cur_zero := zeroRun_empty [] 0
  cur_end h := absurd h (by decide)
  cur_longest _ _ _ hend := by simp at hend; omega
  best := ⟨zeroRun_empty [] 0, fun _ _ h => h.le_length, fun _ _ => Nat.zero_le _⟩

/-- The run that ends `pre ++ [0]`: the one that ended `pre`, one group longer, or a new run at
the added group. -/
def extendRun (i : Nat) (cur : Nat × Nat) : Nat × Nat :=
  if cur.2 = 0 then (i, 1) else (cur.1, cur.2 + 1)

variable {pre : List Nat} {cur best : Nat × Nat}

theorem ScanState.extended (h : ScanState pre cur best) :
    (extendRun pre.length cur).2 = cur.2 + 1 ∧
      (extendRun pre.length cur).1 + (extendRun pre.length cur).2 = pre.length + 1 ∧
      ZeroRun (pre ++ [0]) (extendRun pre.length cur).1 (extendRun pre.length cur).2 := by
  unfold SyscallTrace.Net.extendRun
  split
  · rename_i h0
    refine ⟨by simp [h0], rfl, fun k hk hk' => ?_⟩
    have hk_eq : k = pre.length := by omega
    rw [hk_eq, List.getElem?_append_right (Nat.le_refl _), Nat.sub_self]
    rfl
  · rename_i h0
    have hend := h.cur_end (Nat.pos_of_ne_zero h0)
    exact ⟨rfl, by simp only; omega, h.cur_zero.append_zero hend⟩

/-- An added zero: the run that ends the list grows, and it becomes the best exactly when it is
strictly longer than the best so far. Every run of the longer list was a run of `pre`, or ends
at the added zero and is then no longer than the run ending there. -/
theorem ScanState.step_zero (h : ScanState pre cur best) :
    ScanState (pre ++ [0]) (extendRun pre.length cur)
      (if (extendRun pre.length cur).2 > best.2 then extendRun pre.length cur else best) := by
  obtain ⟨hlen, hendc, hzero⟩ := h.extended
  set c := extendRun pre.length cur
  have hlen' : (pre ++ [0]).length = pre.length + 1 := by simp
  have hruns : ∀ s l, ZeroRun (pre ++ [0]) s l →
      ZeroRun pre s l ∨ (s + l = pre.length + 1 ∧ 0 < l ∧ l ≤ c.2) := by
    intro s l hr
    rcases hr.of_append with hr | ⟨-, hend, hl, hr⟩
    · exact .inl hr
    · exact .inr ⟨hend, hl, by have := h.cur_longest s (l - 1) hr (by omega); omega⟩
  refine ⟨hzero, fun _ => hlen' ▸ hendc, fun s l hr hend => ?_, ?_⟩
  · rw [hlen'] at hend
    rcases hruns s l hr with hr | ⟨-, -, hl⟩
    · -- a run of `pre` does not reach the added zero
      have := hr.eq_zero_of_lt (by omega)
      omega
    · exact hl
  · split
    · -- the run at the end is strictly longer than every run of `pre`
      rename_i hgt
      refine ⟨hzero, fun s l hr => ?_, fun s hr => ?_⟩
      · rcases hruns s l hr with hr | ⟨-, -, hl⟩
        · have := h.best.longest s l hr
          omega
        · exact hl
      · rcases hruns s c.2 hr with hr | ⟨hend, -, -⟩
        · have := h.best.longest s c.2 hr
          omega
        · omega
    · -- the best of `pre` stays: a run at the end as long as it starts after it
      rename_i hle
      refine ⟨h.best.zero.append 0, fun s l hr => ?_, fun s hr => ?_⟩
      · rcases hruns s l hr with hr | ⟨-, -, hl⟩
        · exact h.best.longest s l hr
        · omega
      · rcases hruns s best.2 hr with hr | ⟨hend, hl, -⟩
        · exact h.best.first s hr
        · have := h.best.zero.end_le hl
          omega

/-- An added non-zero group ends every run: the runs are those of `pre`. -/
theorem ScanState.step_nonzero (h : ScanState pre cur best) {g : Nat} (hg : g ≠ 0) :
    ScanState (pre ++ [g]) (0, 0) best := by
  have hruns : ∀ s l, ZeroRun (pre ++ [g]) s l → ZeroRun pre s l := fun s l hr =>
    hr.of_append.resolve_right fun ⟨h0, _⟩ => hg h0
  refine ⟨zeroRun_empty _ 0, fun h0 => absurd h0 (by decide), fun s l hr hend => ?_, ?_⟩
  · simp only [List.length_append, List.length_singleton] at hend
    exact Nat.le_of_eq ((hruns s l hr).eq_zero_of_lt (by omega))
  · exact ⟨h.best.zero.append g, fun s l hr => h.best.longest s l (hruns s l hr),
      fun s hr => h.best.first s (hruns s _ hr)⟩

/-- Reading one group keeps what the scan knows, in both branches of `longestZeroRun`. -/
theorem ScanState.step (h : ScanState pre cur best) (g : Nat) :
    ScanState (pre ++ [g])
      (if g = 0 then extendRun pre.length cur else (0, 0))
      (if g = 0 then
        (if (extendRun pre.length cur).2 > best.2 then extendRun pre.length cur else best)
      else best) := by
  by_cases hg : g = 0
  · subst hg
    rw [if_pos rfl, if_pos rfl]
    exact h.step_zero
  · rw [if_neg hg, if_neg hg]
    exact h.step_nonzero hg

/-- One group of the scan, with the run that ends the list named. -/
theorem longestZeroRun_cons (g : Nat) (gs : List Nat) (i : Nat) (cur best : Nat × Nat) :
    longestZeroRun (g :: gs) i cur best =
      longestZeroRun gs (i + 1) (if g = 0 then extendRun i cur else (0, 0))
        (if g = 0 then (if (extendRun i cur).2 > best.2 then extendRun i cur else best)
        else best) := by
  rw [longestZeroRun]
  split <;> rfl

/-- The scan of `gs` after reading `pre` ends with the first longest run of `pre ++ gs`. -/
theorem longestZeroRun_of_scanState (gs : List Nat) :
    ∀ {pre : List Nat} {cur best : Nat × Nat}, ScanState pre cur best →
      FirstLongestRun (pre ++ gs) (longestZeroRun gs pre.length cur best) := by
  induction gs with
  | nil =>
    intro pre cur best h
    rw [List.append_nil]
    exact h.best
  | cons g gs ih =>
    intro pre cur best h
    have hstep := ih (h.step g)
    rw [List.append_assoc, List.singleton_append, List.length_append,
      List.length_singleton] at hstep
    rw [longestZeroRun_cons]
    exact hstep

/-- The scan finds the first of the longest runs of zero groups. -/
theorem longestZeroRun_firstLongest (gs : List Nat) :
    FirstLongestRun gs (longestZeroRun gs 0 (0, 0) (0, 0)) := by
  simpa using longestZeroRun_of_scanState gs scanState_nil

/-- The first longest run of zero groups is one run. -/
theorem FirstLongestRun.unique {gs : List Nat} {r r' : Nat × Nat} (h : FirstLongestRun gs r)
    (h' : FirstLongestRun gs r') : r = r' := by
  have hlen : r.2 = r'.2 :=
    Nat.le_antisymm (h'.longest r.1 r.2 h.zero) (h.longest r'.1 r'.2 h'.zero)
  have hstart : r.1 = r'.1 :=
    Nat.le_antisymm (h.first r'.1 (hlen ▸ h'.zero)) (h'.first r.1 (hlen ▸ h.zero))
  exact Prod.ext hstart hlen

end SyscallTrace.Net
