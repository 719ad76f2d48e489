import Mathlib
import SyscallTrace.Proofs.EventEncoding
import SyscallTrace.Proofs.Routing

/-!
# The name field of the common header

A header is written with its event name cut to 63 bytes and padded with NUL bytes to the
64-byte field, so that the field always ends with a NUL; it is read back as the bytes before the
field's first NUL, decoded lossily. The cut counts bytes, so it may fall inside a multi-byte
character. This module follows a name through both steps.

Reading lossily the bytes of a character gives that character back, and reading a proper prefix
of them gives one replacement character that takes the whole prefix. So the bytes of a text cut
after `n` of them read back as the characters that lie wholly within the cut, followed by one
replacement character when the cut splits a character (`cutChars`). Only the character NUL is
written with a zero byte, so the first NUL byte of a name's bytes is where its first NUL
character was.

## Results

* `Utf8.decodeLossyChars_flatMap`: the bytes of a text read back as the text.
* `Utf8.decodeLossyChars_take_flatMap`: the first `n` bytes read back as `cutChars n`.
* `CommonEvent.toBytes_new`: a new header is its three words, the name's first 63 bytes and at
  least one NUL.
* `header_round_trip`: written and read back, a header gives its timestamp, process id and
  return value, the bytes after it, and its name cut to 63 bytes at the first NUL.
-/

set_option autoImplicit false

namespace SyscallTrace.Text.Utf8

/-! ## Reading the bytes of one character -/

theorem toNat_ofNat_of_lt {n : Nat} (h : n < 256) : (UInt8.ofNat n).toNat = n := by
  rw [UInt8.toNat_ofNat', Nat.mod_eq_of_lt h]

theorem continuation_cons {k acc : Nat} {lo hi b : UInt8} {bs : List UInt8}
    (h : lo.toNat ≤ b.toNat ∧ b.toNat ≤ hi.toNat) :
    continuation (k + 1) acc lo hi (b :: bs) =
      continuation k (acc * 64 + b.toNat % 64) 0x80 0xBF bs := by
  rw [continuation, if_pos ⟨UInt8.le_iff_toNat_le.2 h.1, UInt8.le_iff_toNat_le.2 h.2⟩]

theorem next_of_leadShape {b : UInt8} {k : Nat} {lo hi : UInt8} {acc : Nat}
    (h : leadShape b = some (k, lo, hi, acc)) (bs : List UInt8) :
    next b bs =
      ((continuation k acc lo hi bs).1.map Char.ofNat, (continuation k acc lo hi bs).2) := by
  rw [next, h]
  dsimp only
  cases continuation k acc lo hi bs with
  | mk o rest => cases o <;> rfl

theorem leadShape_ascii {b : UInt8} (h : b.toNat < 0x80) :
    leadShape b = some (0, 0x80, 0xBF, b.toNat) := by
  rw [leadShape, if_pos (by omega)]

theorem leadShape_two {b : UInt8} (h₁ : 0xC2 ≤ b.toNat) (h₂ : b.toNat ≤ 0xDF) :
    leadShape b = some (1, 0x80, 0xBF, b.toNat % 32) := by
  rw [leadShape, if_neg (by omega), if_pos ⟨h₁, h₂⟩]

/-- A three-byte lead: `0xE0` asks more of its first continuation byte (no overlong form), and
`0xED` less (no surrogate). -/
theorem leadShape_three {b : UInt8} (h₁ : 0xE0 ≤ b.toNat) (h₂ : b.toNat ≤ 0xEF) :
    leadShape b = some (2, if b.toNat = 0xE0 then 0xA0 else 0x80,
      if b.toNat = 0xED then 0x9F else 0xBF, b.toNat % 16) := by
  -- checked byte by byte: a split over the table's branches is far slower
  have hall : ∀ n, 0xE0 ≤ n → n < 0xF0 → leadShape (UInt8.ofNat n) =
      some (2, if n = 0xE0 then 0xA0 else 0x80, if n = 0xED then 0x9F else 0xBF, n % 16) := by
    decide +kernel
  have h := hall b.toNat h₁ (Nat.lt_succ_of_le h₂)
  rwa [UInt8.ofNat_toNat] at h

/-- A four-byte lead: `0xF0` asks more of its first continuation byte (no overlong form), and
`0xF4` less (nothing past `0x10FFFF`). -/
theorem leadShape_four {b : UInt8} (h₁ : 0xF0 ≤ b.toNat) (h₂ : b.toNat ≤ 0xF4) :
    leadShape b = some (3, if b.toNat = 0xF0 then 0x90 else 0x80,
      if b.toNat = 0xF4 then 0x8F else 0xBF, b.toNat % 8) := by
  have hall : ∀ n, 0xF0 ≤ n → n < 0xF5 → leadShape (UInt8.ofNat n) =
      some (3, if n = 0xF0 then 0x90 else 0x80, if n = 0xF4 then 0x8F else 0xBF, n % 8) := by
    decide +kernel
  have h := hall b.toNat h₁ (Nat.lt_succ_of_le h₂)
  rwa [UInt8.ofNat_toNat] at h

/-- The bytes `b :: bs` read as the code point `cp`: the lead byte announces as many
continuation bytes as follow it, and they run through to `cp` whatever comes after them. -/
def ReadsAs (b : UInt8) (bs : List UInt8) (cp : Nat) : Prop :=
  ∃ lo hi acc, leadShape b = some (bs.length, lo, hi, acc) ∧
    ∀ rest, continuation bs.length acc lo hi (bs ++ rest) = (some cp, rest)

/-- The code point of a character, split as UTF-8 writes it. -/
theorem code_point_ranges (c : Char) :
    c.val.toNat < 0x80 ∨ (0x80 ≤ c.val.toNat ∧ c.val.toNat < 0x800) ∨
      (0x800 ≤ c.val.toNat ∧ c.val.toNat < 0x10000 ∧
        (c.val.toNat < 0xD800 ∨ 0xDFFF < c.val.toNat)) ∨
      (0x10000 ≤ c.val.toNat ∧ c.val.toNat < 0x110000) := by
  have hvalid : c.val.toNat < 0xD800 ∨ (0xDFFF < c.val.toNat ∧ c.val.toNat < 0x110000) := c.valid
  omega

/-- A continuation byte `0x80 + n` in range carries the six bits `n` onto the code point. -/
theorem continuation_ofNat {k acc n : Nat} {lo hi : UInt8} (hn : n < 64)
    (hrange : lo.toNat ≤ n + 0x80 ∧ n + 0x80 ≤ hi.toNat) (bs : List UInt8) :
    continuation (k + 1) acc lo hi (UInt8.ofNat (n + 0x80) :: bs) =
      continuation k (acc * 64 + n) 0x80 0xBF bs := by
  have hb := toNat_ofNat_of_lt (n := n + 0x80) (by omega)
  rw [continuation_cons (by rw [hb]; exact hrange), hb, show (n + 0x80) % 64 = n by omega]

/-- Six bits written as a continuation byte are in the range every byte after the first may
take. -/
theorem continuation_range {n : Nat} (hn : n < 64) :
    (0x80 : UInt8).toNat ≤ n + 0x80 ∧ n + 0x80 ≤ (0xBF : UInt8).toNat := by
  simp only [UInt8.reduceToNat]
  omega

theorem readsAs_one {v : Nat} (h : v < 0x80) : ReadsAs (UInt8.ofNat v) [] v := by
  have hb := toNat_ofNat_of_lt (n := v) (by omega)
  refine ⟨0x80, 0xBF, _, leadShape_ascii (by omega), fun rest => ?_⟩
  rw [hb]
  rfl

/-- Two bytes: a lead byte with the top five bits, then the low six. -/
theorem readsAs_two {v : Nat} (h₁ : 0x80 ≤ v) (h₂ : v < 0x800) :
    ReadsAs (UInt8.ofNat (v / 64 % 32 + 0xC0)) [UInt8.ofNat (v % 64 + 0x80)] v := by
  have hb₀ := toNat_ofNat_of_lt (n := v / 64 % 32 + 0xC0) (by omega)
  refine ⟨0x80, 0xBF, _, leadShape_two (by omega) (by omega), fun rest => ?_⟩
  rw [List.length_singleton, List.cons_append, List.nil_append,
    continuation_ofNat (by omega) (continuation_range (by omega)), continuation, hb₀]
  congr 2
  omega

/-- Three bytes: a lead byte with the top four bits, then twice six. The first continuation
byte is in the narrower range of its lead, since the code point is neither overlong nor a
surrogate. -/
theorem readsAs_three {v : Nat} (h₁ : 0x800 ≤ v) (h₂ : v < 0x10000) (h₃ : v < 0xD800 ∨ 0xDFFF < v) :
    ReadsAs (UInt8.ofNat (v / 4096 % 16 + 0xE0))
      [UInt8.ofNat (v / 64 % 64 + 0x80), UInt8.ofNat (v % 64 + 0x80)] v := by
  have hb₀ := toNat_ofNat_of_lt (n := v / 4096 % 16 + 0xE0) (by omega)
  refine ⟨_, _, _, leadShape_three (by omega) (by omega), fun rest => ?_⟩
  have hfirst : (if (UInt8.ofNat (v / 4096 % 16 + 0xE0)).toNat = 0xE0 then (0xA0 : UInt8)
      else 0x80).toNat ≤ v / 64 % 64 + 0x80 ∧ v / 64 % 64 + 0x80 ≤
      (if (UInt8.ofNat (v / 4096 % 16 + 0xE0)).toNat = 0xED then (0x9F : UInt8) else 0xBF).toNat := by
    rw [hb₀]
    split_ifs <;> simp only [UInt8.reduceToNat] <;> omega
  rw [List.length_cons, List.length_singleton, List.cons_append, List.cons_append,
    List.nil_append, continuation_ofNat (by omega) hfirst,
    continuation_ofNat (by omega) (continuation_range (by omega)), continuation, hb₀]
  congr 2
  omega

/-- Four bytes: a lead byte with the top three bits, then three times six. The first
continuation byte is in the narrower range of its lead, since the code point is neither
overlong nor past `0x10FFFF`. -/
theorem readsAs_four {v : Nat} (h₁ : 0x10000 ≤ v) (h₂ : v < 0x110000) :
    ReadsAs (UInt8.ofNat (v / 262144 % 8 + 0xF0))
      [UInt8.ofNat (v / 4096 % 64 + 0x80), UInt8.ofNat (v / 64 % 64 + 0x80),
        UInt8.ofNat (v % 64 + 0x80)] v := by
  have hb₀ := toNat_ofNat_of_lt (n := v / 262144 % 8 + 0xF0) (by omega)
  refine ⟨_, _, _, leadShape_four (by omega) (by omega), fun rest => ?_⟩
  have hfirst : (if (UInt8.ofNat (v / 262144 % 8 + 0xF0)).toNat = 0xF0 then (0x90 : UInt8)
      else 0x80).toNat ≤ v / 4096 % 64 + 0x80 ∧ v / 4096 % 64 + 0x80 ≤
      (if (UInt8.ofNat (v / 262144 % 8 + 0xF0)).toNat = 0xF4 then (0x8F : UInt8) else 0xBF).toNat := by
    rw [hb₀]
    split_ifs <;> simp only [UInt8.reduceToNat] <;> omega
  rw [List.length_cons, List.length_cons, List.length_singleton, List.cons_append,
    List.cons_append, List.cons_append, List.nil_append, continuation_ofNat (by omega) hfirst,
    continuation_ofNat (by omega) (continuation_range (by omega)),
    continuation_ofNat (by omega) (continuation_range (by omega)), continuation, hb₀]
  congr 2
  omega

/-- Every character is written as bytes that read back as its code point. -/
theorem utf8EncodeChar_readsAs (c : Char) :
    ∃ b bs, String.utf8EncodeChar c = b :: bs ∧ ReadsAs b bs c.toNat := by
  have hcp : c.toNat = c.val.toNat := rfl
  rw [hcp]
  rcases code_point_ranges c with h | ⟨h₁, h₂⟩ | ⟨h₁, h₂, h₃⟩ | ⟨h₁, h₂⟩
  · exact ⟨_, _, by simp only [String.utf8EncodeChar]; rw [if_pos (by omega)], readsAs_one h⟩
  · exact ⟨_, _, by simp only [String.utf8EncodeChar]; rw [if_neg (by omega), if_pos (by omega)],
      readsAs_two h₁ h₂⟩
  · exact ⟨_, _, by
      simp only [String.utf8EncodeChar]; rw [if_neg (by omega), if_neg (by omega), if_pos (by omega)],
      readsAs_three h₁ h₂ h₃⟩
  · exact ⟨_, _, by
      simp only [String.utf8EncodeChar]; rw [if_neg (by omega), if_neg (by omega), if_neg (by omega)],
      readsAs_four h₁ h₂⟩

/-- Continuation bytes that run through to a code point stop, cut short, with nothing left. -/
theorem continuation_take : ∀ {bs : List UInt8} {acc : Nat} {lo hi : UInt8} {cp j : Nat},
    (∀ rest, continuation bs.length acc lo hi (bs ++ rest) = (some cp, rest)) → j < bs.length →
      continuation bs.length acc lo hi (bs.take j) = (none, [])
  | [], _, _, _, _, _, _, hj => absurd hj (Nat.not_lt_zero _)
  | b :: bs, acc, lo, hi, cp, j, h, hj => by
    obtain ⟨b', bs', hb, hlo, hhi, -⟩ := continuation_succ (h [])
    obtain ⟨rfl, rfl⟩ := List.cons.inj hb
    have hrange : lo.toNat ≤ b.toNat ∧ b.toNat ≤ hi.toNat :=
      ⟨UInt8.le_iff_toNat_le.1 hlo, UInt8.le_iff_toNat_le.1 hhi⟩
    have hrest : ∀ rest, continuation bs.length (acc * 64 + b.toNat % 64) 0x80 0xBF (bs ++ rest) =
        (some cp, rest) := fun rest => by
      rw [← continuation_cons hrange, ← List.cons_append]
      exact h rest
    cases j with
    | zero => rfl
    | succ j =>
      rw [List.length_cons, List.take_succ_cons, continuation_cons hrange]
      exact continuation_take hrest (Nat.lt_of_succ_lt_succ hj)

theorem ReadsAs.next_append {b : UInt8} {bs : List UInt8} {cp : Nat} (h : ReadsAs b bs cp)
    (rest : List UInt8) : next b (bs ++ rest) = (some (Char.ofNat cp), rest) := by
  obtain ⟨lo, hi, acc, hshape, hrun⟩ := h
  rw [next_of_leadShape hshape, hrun]
  rfl

/-- A proper prefix of a character's bytes is one ill-formed sequence. -/
theorem ReadsAs.next_take {b : UInt8} {bs : List UInt8} {cp j : Nat} (h : ReadsAs b bs cp)
    (hj : j < bs.length) : next b (bs.take j) = (none, []) := by
  obtain ⟨lo, hi, acc, hshape, hrun⟩ := h
  rw [next_of_leadShape hshape, continuation_take hrun hj]
  rfl

/-! ## Reading the bytes of a text -/

theorem decodeLossyUpTo_nil (fuel : Nat) : decodeLossyUpTo fuel [] = [] := by
  cases fuel <;> rfl

/-- The bytes of a character read back as the character, and reading goes on after them. -/
theorem decodeLossyUpTo_utf8EncodeChar (c : Char) (fuel : Nat) (rest : List UInt8) :
    decodeLossyUpTo (fuel + 1) (String.utf8EncodeChar c ++ rest) =
      c :: decodeLossyUpTo fuel rest := by
  obtain ⟨b, bs, henc, hreads⟩ := utf8EncodeChar_readsAs c
  rw [henc, List.cons_append, decodeLossyUpTo]
  show (next b (bs ++ rest)).1.getD replacement :: decodeLossyUpTo fuel (next b (bs ++ rest)).2 = _
  rw [hreads.next_append, Option.getD_some, Char.ofNat_toNat]

/-- A nonempty proper prefix of a character's bytes reads as one replacement character. -/
theorem decodeLossyUpTo_take_utf8EncodeChar (c : Char) (fuel : Nat) {k : Nat} (hk₀ : 0 < k)
    (hk : k < c.utf8Size) :
    decodeLossyUpTo (fuel + 1) ((String.utf8EncodeChar c).take k) = [replacement] := by
  obtain ⟨b, bs, henc, hreads⟩ := utf8EncodeChar_readsAs c
  have hlen : c.utf8Size = bs.length + 1 := by
    rw [← String.length_utf8EncodeChar, henc, List.length_cons]
  obtain ⟨j, rfl⟩ : ∃ j, k = j + 1 := ⟨k - 1, by omega⟩
  rw [henc, List.take_succ_cons, decodeLossyUpTo]
  show (next b (bs.take j)).1.getD replacement :: decodeLossyUpTo fuel (next b (bs.take j)).2 = _
  rw [hreads.next_take (by omega), Option.getD_none, decodeLossyUpTo_nil]

/-- The characters of `cs` whose bytes lie wholly within the first `n` bytes of its text, then
one replacement character if the `n`-th byte falls inside a character. -/
def cutChars : Nat → List Char → List Char
  | _, [] => []
  | n, c :: cs =>
    if c.utf8Size ≤ n then c :: cutChars (n - c.utf8Size) cs
    else if n = 0 then [] else [replacement]

/-- A cut past the end of the text keeps all of it. -/
theorem cutChars_of_le : ∀ {n : Nat} {cs : List Char}, (cs.flatMap String.utf8EncodeChar).length ≤ n →
    cutChars n cs = cs
  | _, [], _ => rfl
  | n, c :: cs, h => by
    rw [List.flatMap_cons, List.length_append, String.length_utf8EncodeChar] at h
    rw [cutChars, if_pos (by omega), cutChars_of_le (by omega)]

/-- The first `n` bytes of a text read back as the characters they hold whole, and one
replacement character for a character they cut. -/
theorem decodeLossyUpTo_take_flatMap : ∀ (cs : List Char) (n fuel : Nat),
    ((cs.flatMap String.utf8EncodeChar).take n).length ≤ fuel →
      decodeLossyUpTo fuel ((cs.flatMap String.utf8EncodeChar).take n) = cutChars n cs
  | [], _, fuel, _ => by rw [List.flatMap_nil, List.take_nil, decodeLossyUpTo_nil]; rfl
  | c :: cs, n, fuel, hfuel => by
    have hsize := c.utf8Size_pos
    rw [List.flatMap_cons, List.take_append, String.length_utf8EncodeChar] at hfuel ⊢
    rw [cutChars]
    split_ifs with hfit hzero
    · -- the character fits: it is read whole, and the cut goes on in the rest
      rw [List.take_of_length_le (by rw [String.length_utf8EncodeChar]; exact hfit)] at hfuel ⊢
      rw [List.length_append, String.length_utf8EncodeChar] at hfuel
      obtain ⟨f, rfl⟩ : ∃ f, fuel = f + 1 := ⟨fuel - 1, by omega⟩
      rw [decodeLossyUpTo_utf8EncodeChar, decodeLossyUpTo_take_flatMap cs _ f (by omega)]
    · -- nothing is left of the cut
      subst hzero
      rw [List.take_zero, Nat.zero_sub, List.take_zero, List.nil_append, decodeLossyUpTo_nil]
    · -- the cut falls inside the character
      have hn : n - c.utf8Size = 0 := by omega
      rw [hn, List.take_zero, List.append_nil] at hfuel ⊢
      have hlen : ((String.utf8EncodeChar c).take n).length = n := by
        rw [List.length_take, String.length_utf8EncodeChar]
        omega
      obtain ⟨f, rfl⟩ : ∃ f, fuel = f + 1 := ⟨fuel - 1, by omega⟩
      exact decodeLossyUpTo_take_utf8EncodeChar c f (by omega) (by omega)

theorem decodeLossyChars_take_flatMap (cs : List Char) (n : Nat) :
    decodeLossyChars ((cs.flatMap String.utf8EncodeChar).take n) = cutChars n cs :=
  decodeLossyUpTo_take_flatMap cs n _ (Nat.le_refl _)

/-- The bytes of a text read back as the text. -/
theorem decodeLossyChars_flatMap (cs : List Char) :
    decodeLossyChars (cs.flatMap String.utf8EncodeChar) = cs := by
  rw [← List.take_length (l := cs.flatMap String.utf8EncodeChar), decodeLossyChars_take_flatMap,
    cutChars_of_le (Nat.le_refl _)]

/-! ## NUL bytes -/

theorem ofNat_ne_zero {n : Nat} (h : n < 256) (hn : 0 < n) : UInt8.ofNat n ≠ 0 := fun h0 => by
  have := congrArg UInt8.toNat h0
  rw [toNat_ofNat_of_lt h, UInt8.toNat_zero] at this
  omega

/-- Only the character NUL is written with a zero byte. -/
theorem utf8EncodeChar_ne_zero {c : Char} (hc : c ≠ '\x00') :
    ∀ b ∈ String.utf8EncodeChar c, b ≠ 0 := by
  have hpos : 0 < c.val.toNat := by
    refine Nat.pos_of_ne_zero fun h => hc ?_
    rw [← Char.ofNat_toNat c]
    exact congrArg Char.ofNat h
  have hlt : c.val.toNat < 0x110000 := by
    rcases code_point_ranges c with h | h | h | h <;> omega
  intro b hb
  simp only [String.utf8EncodeChar] at hb
  split_ifs at hb <;> simp only [List.mem_cons, List.not_mem_nil, or_false] at hb <;>
    rcases hb with rfl | rfl | rfl | rfl <;> exact ofNat_ne_zero (by omega) (by omega)

/-- The bytes of a text before its first zero byte are the bytes of its characters before its
first NUL. -/
theorem takeWhile_flatMap_utf8EncodeChar (cs : List Char) :
    (cs.flatMap String.utf8EncodeChar).takeWhile (· != 0) =
      (cs.takeWhile (· != '\x00')).flatMap String.utf8EncodeChar := by
  induction cs with
  | nil => rfl
  | cons c cs ih =>
    by_cases hc : c = '\x00'
    · subst hc
      rfl
    · have hbytes : ∀ b ∈ String.utf8EncodeChar c, (b != 0) = true := fun b hb =>
        bne_iff_ne.2 (utf8EncodeChar_ne_zero hc b hb)
      rw [List.flatMap_cons, List.takeWhile_append_of_pos hbytes, ih,
        List.takeWhile_cons_of_pos (p := (· != '\x00')) (bne_iff_ne.2 hc), List.flatMap_cons]

/-- The bytes of a text are those of its characters in turn. -/
theorem encode_eq_flatMap (s : String) : encode s = s.toList.flatMap String.utf8EncodeChar := by
  rw [encode, String.toUTF8_eq_toByteArray, ← String.utf8Encode_toList, byteArray_toList,
    List.utf8Encode, List.toList_data_toByteArray]

/-- A cut within a text's leading characters keeps them and cuts on in the rest. -/
theorem cutChars_append : ∀ {n : Nat} (pre : List Char) (rest : List Char),
    (pre.flatMap String.utf8EncodeChar).length ≤ n →
      cutChars n (pre ++ rest) = pre ++ cutChars (n - (pre.flatMap String.utf8EncodeChar).length) rest
  | _, [], _, _ => rfl
  | n, c :: pre, rest, h => by
    rw [List.flatMap_cons, List.length_append, String.length_utf8EncodeChar] at h ⊢
    rw [List.cons_append, cutChars, if_pos (by omega), cutChars_append pre rest (by omega),
      Nat.sub_add_eq]
    rfl

/-- A character the cut falls in is dropped, or replaced when part of it is kept. -/
theorem cutChars_cons_of_lt {n : Nat} {c : Char} (cs : List Char) (h : n < c.utf8Size) :
    cutChars n (c :: cs) = if n = 0 then [] else [replacement] := by
  rw [cutChars, if_neg (by omega)]

end SyscallTrace.Text.Utf8

namespace SyscallTrace.Event

open SyscallTrace.Bytes SyscallTrace.Text

/-- Cutting at the first NUL does not look past a NUL. -/
theorem cString_append_zero (xs ys : List UInt8) : cString (xs ++ 0 :: ys) = cString xs := by
  induction xs with
  | nil => rfl
  | cons x xs ih =>
    by_cases hx : x = 0
    · subst hx
      rfl
    · unfold cString at ih ⊢
      rw [List.cons_append, List.takeWhile_cons_of_pos (p := (· != 0)) (bne_iff_ne.2 hx), ih,
        List.takeWhile_cons_of_pos (p := (· != 0)) (bne_iff_ne.2 hx)]

namespace CommonEvent

/-- The name field of a new header: the name's first 63 bytes, then NUL bytes to 64. -/
theorem nameField_new (ts : UInt64) (pid ret : Int64) (name : String) :
    (new ts pid ret name).nameField =
      (Utf8.encode name).take 63 ++ List.replicate (64 - min (Utf8.encode name).length 63) 0 := by
  rw [new, padTo, List.take_of_length_le (by rw [List.length_take]; omega), List.length_take,
    Nat.min_comm]
  rfl

theorem length_nameField_new (ts : UInt64) (pid ret : Int64) (name : String) :
    (new ts pid ret name).nameField.length = nameFieldSize :=
  length_padTo _ _

/-- A new header is its three words, the name's first 63 bytes and NUL bytes to 88. -/
theorem toBytes_new (ts : UInt64) (pid ret : Int64) (name : String) :
    (new ts pid ret name).toBytes =
      u64 ts ++ i64 pid ++ i64 ret ++
        ((Utf8.encode name).take 63 ++ List.replicate (64 - min (Utf8.encode name).length 63) 0) := by
  rw [toBytes, padTo_of_length (length_nameField_new ts pid ret name), nameField_new]
  rfl

/-- The name bytes of a new header are its first 63 bytes up to the first NUL. -/
theorem nameBytes_new (ts : UInt64) (pid ret : Int64) (name : String) :
    (new ts pid ret name).nameBytes = cString ((Utf8.encode name).take 63) := by
  have hpad : 64 - min (Utf8.encode name).length 63 = (63 - min (Utf8.encode name).length 63) + 1 := by
    omega
  rw [nameBytes, nameField_new, hpad, List.replicate_succ, cString_append_zero]

/-- The name read back from a new header is the name up to its first NUL, cut after 63 bytes. -/
theorem decodeLossy_nameBytes_new (ts : UInt64) (pid ret : Int64) (name : String) :
    Utf8.decodeLossy (new ts pid ret name).nameBytes =
      String.ofList (Utf8.cutChars 63 (name.toList.takeWhile (· != '\x00'))) := by
  rw [nameBytes_new, cString, ← List.take_takeWhile, Utf8.encode_eq_flatMap,
    Utf8.takeWhile_flatMap_utf8EncodeChar, Utf8.decodeLossy, Utf8.decodeLossyChars_take_flatMap]

/-- A name without NUL that fits in 63 bytes comes back unchanged. -/
theorem decodeLossy_nameBytes_new_of_le (ts : UInt64) (pid ret : Int64) {name : String}
    (hnul : '\x00' ∉ name.toList) (hlen : (Utf8.encode name).length ≤ 63) :
    Utf8.decodeLossy (new ts pid ret name).nameBytes = name := by
  have hall : name.toList.takeWhile (· != '\x00') = name.toList :=
    List.takeWhile_eq_self_iff.2 fun c hc => bne_iff_ne.2 fun h => hnul (h ▸ hc)
  rw [Utf8.encode_eq_flatMap] at hlen
  rw [decodeLossy_nameBytes_new, hall, Utf8.cutChars_of_le hlen, String.ofList_toList]

/-- A name without NUL that the cut splits comes back as the characters before the cut, and one
replacement character when the cut falls inside a character. -/
theorem decodeLossy_nameBytes_new_of_split (ts : UInt64) (pid ret : Int64) {name : String}
    {pre post : List Char} {c : Char} (hsplit : name.toList = pre ++ c :: post)
    (hnul : '\x00' ∉ name.toList) (hpre : (pre.flatMap String.utf8EncodeChar).length ≤ 63)
    (hcut : 63 < (pre.flatMap String.utf8EncodeChar).length + c.utf8Size) :
    Utf8.decodeLossy (new ts pid ret name).nameBytes =
      String.ofList (pre ++
        if (pre.flatMap String.utf8EncodeChar).length = 63 then [] else [Utf8.replacement]) := by
  have hall : name.toList.takeWhile (· != '\x00') = name.toList :=
    List.takeWhile_eq_self_iff.2 fun c hc => bne_iff_ne.2 fun h => hnul (h ▸ hc)
  rw [decodeLossy_nameBytes_new, hall, hsplit, Utf8.cutChars_append pre _ hpre,
    Utf8.cutChars_cons_of_lt post (by omega)]
  by_cases hend : (pre.flatMap String.utf8EncodeChar).length = 63
  · rw [if_pos (by omega), if_pos hend]
  · rw [if_neg (by omega), if_neg hend]

end CommonEvent

/-- **A header is written and read back.** For every timestamp, process id, return value, name
and bytes that follow: the header takes 88 bytes, the three words then the name's first 63
bytes and NUL bytes to the end; its name bytes are those 63 bytes up to the first NUL; reading
the header back gives the three words and the name bytes decoded lossily, and leaves the bytes
that follow. The name so read is the name up to its first NUL, cut after 63 bytes: a name
without NUL that fits comes back unchanged, and one that the cut splits comes back as the
characters before the cut, with one replacement character for a character the cut falls in. -/
theorem header_round_trip (ts : UInt64) (pid ret : Int64) (name : String) (z : List UInt8) :
    (CommonEvent.new ts pid ret name).toBytes =
        u64 ts ++ i64 pid ++ i64 ret ++
          ((Utf8.encode name).take 63 ++ List.replicate (64 - min (Utf8.encode name).length 63) 0) ∧
      (CommonEvent.new ts pid ret name).toBytes.length = 88 ∧
      (CommonEvent.new ts pid ret name).nameBytes = cString ((Utf8.encode name).take 63) ∧
      Header.decode ((CommonEvent.new ts pid ret name).toBytes ++ z) =
        .ok (⟨ts, pid, ret, Utf8.decodeLossy (CommonEvent.new ts pid ret name).nameBytes⟩, z) ∧
      Utf8.decodeLossy (CommonEvent.new ts pid ret name).nameBytes =
        String.ofList (Utf8.cutChars 63 (name.toList.takeWhile (· != '\x00'))) ∧
      ('\x00' ∉ name.toList → (Utf8.encode name).length ≤ 63 →
        Utf8.decodeLossy (CommonEvent.new ts pid ret name).nameBytes = name) ∧
      (∀ pre c post, name.toList = pre ++ c :: post → '\x00' ∉ name.toList →
        (pre.flatMap String.utf8EncodeChar).length ≤ 63 →
        63 < (pre.flatMap String.utf8EncodeChar).length + c.utf8Size →
        Utf8.decodeLossy (CommonEvent.new ts pid ret name).nameBytes =
          String.ofList (pre ++
            if (pre.flatMap String.utf8EncodeChar).length = 63 then [] else [Utf8.replacement])) := by
  have hfield : padTo nameFieldSize (CommonEvent.new ts pid ret name).nameField =
      (CommonEvent.new ts pid ret name).nameField :=
    padTo_of_length (CommonEvent.length_nameField_new ts pid ret name)
  refine ⟨CommonEvent.toBytes_new ts pid ret name, CommonEvent.length_toBytes _,
    CommonEvent.nameBytes_new ts pid ret name, ?_, CommonEvent.decodeLossy_nameBytes_new ts pid ret name,
    CommonEvent.decodeLossy_nameBytes_new_of_le ts pid ret,
    fun _ _ _ hsplit hnul hpre hcut =>
      CommonEvent.decodeLossy_nameBytes_new_of_split ts pid ret hsplit hnul hpre hcut⟩
  rw [Header.decode_toBytes_append, hfield]
  rfl

example : Utf8.decodeLossy (CommonEvent.new 0 0 0
    (String.ofList (List.replicate 62 'x' ++ ['é']))).nameBytes =
      String.ofList (List.replicate 62 'x' ++ [Utf8.replacement]) := by
  decide +kernel

end SyscallTrace.Event
