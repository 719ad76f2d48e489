import Mathlib
import SyscallTrace.Event.Header
import SyscallTrace.Report.Line

/-!
# Captured buffers and return values as text

A captured buffer is shown either as a C string, the bytes before its first NUL, or bounded by
the value the syscall that filled it returned: its first `min (max ret 0) n` bytes. Both cuts
are stable. Cutting twice is one cut, by the smaller return value for a bounded buffer, and a
shown buffer captured again, padded with zeros to a whole buffer, shows the same bytes.

A return value is shown in decimal followed by a word on what it means. The text is written
with a fast path for `-1` and one branch per kind of syscall, each with its own handling of
negative values. `returnSuffix` states the rule once, negative values first, and
`returnValueText_eq` shows that every branch follows it, at every value from `Int64.minValue`
to `Int64.maxValue`.

## Results

* `cString_longest_nul_free`: a C string is the longest NUL-free prefix of its buffer.
* `retBounded_eq_take`: a bounded buffer is its first `min (max ret 0) n` bytes.
* `retBounded_retBounded_min`: two bounds are one bound by the smaller return value.
* `cString_padTo`, `retBounded_padTo`: a shown buffer padded again shows the same bytes.
* `buffer_cuts_stable`: the laws of both cuts together.
* `returnValueText_eq`: every return value is shown as its decimal text followed by the word
  the rule gives.
-/

set_option autoImplicit false

namespace SyscallTrace.Event

/-! ## C strings -/

theorem nul_not_mem_cString (b : List UInt8) : (0 : UInt8) ∉ cString b := by
  intro h
  have hne := List.mem_takeWhile_imp h
  exact absurd rfl (bne_iff_ne.mp hne)

theorem length_cString_le (b : List UInt8) : (cString b).length ≤ b.length :=
  (List.takeWhile_prefix _).length_le

/-- Every NUL-free prefix of a buffer is a prefix of its C string. -/
theorem prefix_cString {p b : List UInt8} (hp : p <+: b) (h0 : (0 : UInt8) ∉ p) :
    p <+: cString b := by
  obtain ⟨t, rfl⟩ := hp
  have hpos : ∀ x ∈ p, (x != 0) = true := fun x hx => bne_iff_ne.mpr fun h => h0 (h ▸ hx)
  rw [cString, List.takeWhile_append_of_pos hpos]
  exact List.prefix_append _ _

/-- The C string of a buffer is its longest prefix without a NUL byte. -/
theorem cString_longest_nul_free (b : List UInt8) :
    cString b <+: b ∧ (0 : UInt8) ∉ cString b ∧
      ∀ p, p <+: b → (0 : UInt8) ∉ p → p <+: cString b :=
  ⟨List.takeWhile_prefix _, nul_not_mem_cString b, fun _ hp h0 => prefix_cString hp h0⟩

/-- A C string padded with zeros up to `n` bytes, `n` at least its length, reads back as
itself: either the padding starts with a NUL, or there is none. -/
theorem cString_padTo {b : List UInt8} {n : Nat} (hn : (cString b).length ≤ n) :
    cString (padTo n (cString b)) = cString b := by
  rw [padTo, List.take_of_length_le hn]
  cases hk : n - (cString b).length with
  | zero => rw [List.replicate_zero, List.append_nil, cString_idem]
  | succ k =>
    have hfree : ∀ x ∈ cString b, x ≠ 0 := fun x hx h => nul_not_mem_cString b (h ▸ hx)
    rw [List.replicate_succ, cString_append_nul _ _ hfree]

/-! ## Buffers bounded by a return value -/

/-- A buffer bounded by `ret` is its first `min (max ret 0) n` bytes. -/
theorem retBounded_eq_take (b : List UInt8) (ret : Int64) :
    retBounded b ret = b.take (min (max ret.toInt 0) b.length).toNat := by
  rw [retBounded, retLength, List.take_eq_take_iff]
  omega

theorem toInt_min (r s : Int64) : (min r s).toInt = min r.toInt s.toInt := by
  show (if r ≤ s then r else s).toInt = _
  split <;> rename_i h <;> rw [Int64.le_iff_toInt_le] at h <;> omega

/-- Bounding by `r` and then by `s` is bounding by the smaller of the two. -/
theorem retBounded_retBounded_min (b : List UInt8) (r s : Int64) :
    retBounded (retBounded b r) s = retBounded b (min r s) := by
  rw [retBounded_retBounded, retBounded, retLength, retLength, retLength, toInt_min]
  congr 1
  omega

/-- A bounded whole buffer, padded with zeros to a whole buffer again, is bounded by the same
return value to the same bytes: the bound cuts at most what the padding added. -/
theorem retBounded_padTo {b : List UInt8} {n : Nat} (hb : b.length = n) (ret : Int64) :
    retBounded (padTo n (retBounded b ret)) ret = retBounded b ret := by
  have hshown : (retBounded b ret).length = min (retLength ret) n := by
    rw [retBounded, List.length_take, hb]
  have hnone : min (retLength ret - min (retLength ret) n) (n - min (retLength ret) n) = 0 := by
    omega
  rw [padTo, List.take_of_length_le (by omega)]
  show (retBounded b ret ++ _).take (retLength ret) = _
  rw [List.take_append, List.take_of_length_le (by omega), List.take_replicate, hshown, hnone,
    List.replicate_zero, List.append_nil]

/-- The laws of showing a captured buffer: its C string is its longest NUL-free prefix and is
stable; its return-bounded view keeps `min (max r 0) n` bytes and two bounds compose by the
smaller one; and for a whole buffer, either view padded with zeros and shown again is itself. -/
theorem buffer_cuts_stable (b : List UInt8) (r r₂ : Int64) :
    (cString b <+: b ∧ (0 : UInt8) ∉ cString b ∧
      ∀ p, p <+: b → (0 : UInt8) ∉ p → p <+: cString b) ∧
    cString (cString b) = cString b ∧
    retBounded b r = b.take (min (max r.toInt 0) b.length).toNat ∧
    retBounded (retBounded b r) r₂ = retBounded b (min r r₂) ∧
    (b.length = Schema.bufferSize →
      cString (padTo Schema.bufferSize (cString b)) = cString b ∧
      retBounded (padTo Schema.bufferSize (retBounded b r)) r = retBounded b r) := by
  refine ⟨cString_longest_nul_free b, cString_idem b, retBounded_eq_take b r,
    retBounded_retBounded_min b r r₂, fun hb => ⟨?_, retBounded_padTo hb r⟩⟩
  exact cString_padTo (hb ▸ length_cString_le b)

/-- A whole captured buffer holding `hello`, a NUL and `world`, then zeros. -/
def helloWorldBuffer : List UInt8 :=
  [104, 101, 108, 108, 111, 0, 119, 111, 114, 108, 100] ++ List.replicate 245 0

/-- The laws at `helloWorldBuffer`, shown up to its NUL and bounded by a return value of 7. -/
theorem buffer_cuts_stable_hello_world :
    helloWorldBuffer.length = Schema.bufferSize ∧
      cString (padTo Schema.bufferSize (cString helloWorldBuffer)) = cString helloWorldBuffer ∧
      retBounded (padTo Schema.bufferSize (retBounded helloWorldBuffer 7)) 7 =
        retBounded helloWorldBuffer 7 := by
  have hlen : helloWorldBuffer.length = Schema.bufferSize := by
    rw [helloWorldBuffer, List.length_append, List.length_replicate]
    rfl
  exact ⟨hlen, (buffer_cuts_stable helloWorldBuffer 7 7).2.2.2.2 hlen⟩

end SyscallTrace.Event

namespace SyscallTrace.Report

/-! ## Return values -/

/-- The word a return value carries, by the rule that holds for every syscall: a negative value
is an error; a syscall that returns zero on success succeeded exactly on zero and failed on any
other value; `open` returns a descriptor and `read` and `write` a byte count; any other
non-negative value carries no word. -/
def returnSuffix (syscall : String) (ret : Int) : String :=
  if ret < 0 then " (error)"
  else if syscall ∈ zeroOnSuccess then (if ret = 0 then " (success)" else " (error)")
  else if syscall = "open" then " (fd)"
  else if syscall = "read" ∨ syscall = "write" then " (bytes)"
  else ""

theorem returnSuffix_of_neg (syscall : String) {ret : Int} (h : ret < 0) :
    returnSuffix syscall ret = " (error)" :=
  if_pos h

theorem returnValueText_neg_one (syscall : String) :
    returnValueText syscall (-1) =
      toString (-1 : Int64).toInt ++ returnSuffix syscall (-1 : Int64).toInt := by
  have hm : (-1 : Int64).toInt = -1 := by decide
  rw [returnValueText, if_pos rfl, hm, returnSuffix_of_neg syscall (by omega)]
  rfl

/-- The signs the text tests a return value for are the signs of its integer value. -/
theorem sign_tests_toInt (ret : Int64) :
    (ret ≥ 0 ↔ 0 ≤ ret.toInt) ∧ (ret < 0 ↔ ret.toInt < 0) ∧ (ret = 0 ↔ ret.toInt = 0) := by
  refine ⟨?_, ?_, ?_⟩
  · rw [ge_iff_le, Int64.le_iff_toInt_le, Int64.toInt_zero]
  · rw [Int64.lt_iff_toInt_lt, Int64.toInt_zero]
  · rw [← Int64.toInt_inj, Int64.toInt_zero]

/-- Past the fast path, a negative value is an error in every branch. -/
theorem returnValueText_of_neg (syscall : String) {ret : Int64} (hm : ret ≠ -1)
    (h : ret.toInt < 0) :
    returnValueText syscall ret = toString ret.toInt ++ " (error)" := by
  obtain ⟨hge, hlt, hzero⟩ := sign_tests_toInt ret
  have hz : ¬ ret = 0 := fun hz => by rw [hzero] at hz; omega
  have hnn : ¬ 0 ≤ ret.toInt := by omega
  unfold returnValueText
  simp only [if_neg hm, hge, hlt, h, hnn, if_neg hz, if_true, if_false, ite_self]

/-- A non-negative value is shown by its kind of syscall. The text and the rule test the kinds in
different orders, over disjoint sets of names. -/
theorem returnValueText_of_nonneg (syscall : String) {ret : Int64} (h : 0 ≤ ret.toInt) :
    returnValueText syscall ret = toString ret.toInt ++ returnSuffix syscall ret.toInt := by
  obtain ⟨hge, hlt, hzero⟩ := sign_tests_toInt ret
  have hm : ret ≠ -1 := fun hm => by subst hm; exact absurd h (by decide)
  unfold returnValueText returnSuffix
  rw [if_neg hm, if_neg (Int.not_lt.mpr h)]
  simp only [hge, hlt, hzero, h, if_true, Int.not_lt.mpr h, if_false]
  by_cases hz : syscall ∈ zeroOnSuccess
  · have ho : syscall ≠ "open" := by rintro rfl; exact absurd hz (by decide)
    have hrw : ¬ (syscall = "read" ∨ syscall = "write") := by
      rintro (rfl | rfl) <;> exact absurd hz (by decide)
    simp only [if_neg ho, if_neg hrw, if_pos hz]
    split
    · rename_i h0
      rw [h0]
      rfl
    · rfl
  · simp only [if_neg hz]
    split <;> [rfl; split <;> [rfl; exact String.append_empty.symm]]

/-- Every return value of every syscall, `Int64.minValue` included, is shown as its decimal
text followed by the word `returnSuffix` gives: the fast path for `-1` and every branch agree
with the one rule. -/
theorem returnValueText_eq (syscall : String) (ret : Int64) :
    returnValueText syscall ret = toString ret.toInt ++ returnSuffix syscall ret.toInt := by
  by_cases hm : ret = -1
  · subst hm
    exact returnValueText_neg_one syscall
  · by_cases h : ret.toInt < 0
    · rw [returnValueText_of_neg syscall hm h, returnSuffix_of_neg syscall h]
    · exact returnValueText_of_nonneg syscall (Int.not_lt.mp h)

example : returnValueText "mkdir" (-13) = "-13 (error)" := by decide

end SyscallTrace.Report
