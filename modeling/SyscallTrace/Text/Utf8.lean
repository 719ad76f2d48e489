/-!
# UTF-8 text from bytes

Bytes are read as UTF-8 one character at a time. A lead byte says how many continuation bytes
follow and which range the first of them must lie in (this excludes overlong forms, surrogates
and code points above `0x10FFFF`); every later continuation byte lies in `0x80..0xBF`.

Reading lossily, an ill-formed sequence becomes one replacement character `U+FFFD` per maximal
prefix of a well-formed sequence, and reading resumes at the first byte that does not fit; a
lead byte that starts no sequence is replaced alone. Reading strictly refuses the bytes.

Main statements:
* `next_length_le`: reading one character never gives back more bytes than it was given, so
  a list of `n` bytes holds at most `n` sequences.
* `decodeLossyUpTo_congr`: hence any bound of at least `n` sequences reads the same
  characters, and `decodeLossyChars` reads the whole list.
-/

namespace SyscallTrace.Text.Utf8

/-- The replacement character. -/
def replacement : Char := '�'

/-- How a byte starts a character: the number of continuation bytes, the bounds of the first
one and the bits the lead byte contributes; `none` for a byte that starts no character. -/
def leadShape (b : UInt8) : Option (Nat × UInt8 × UInt8 × Nat) :=
  let n := b.toNat
  if n ≤ 0x7F then some (0, 0x80, 0xBF, n)
  else if 0xC2 ≤ n ∧ n ≤ 0xDF then some (1, 0x80, 0xBF, n % 32)
  else if n = 0xE0 then some (2, 0xA0, 0xBF, 0)
  else if 0xE1 ≤ n ∧ n ≤ 0xEC then some (2, 0x80, 0xBF, n % 16)
  else if n = 0xED then some (2, 0x80, 0x9F, 13)
  else if 0xEE ≤ n ∧ n ≤ 0xEF then some (2, 0x80, 0xBF, n % 16)
  else if n = 0xF0 then some (3, 0x90, 0xBF, 0)
  else if 0xF1 ≤ n ∧ n ≤ 0xF3 then some (3, 0x80, 0xBF, n % 8)
  else if n = 0xF4 then some (3, 0x80, 0x8F, 4)
  else none

/-- Reads `k` continuation bytes, the first within `lo..hi`, onto the code point bits `acc`.
Gives the code point and the bytes after them, or `none` and the bytes from the first one
that does not fit (or none left). -/
def continuation : Nat → Nat → UInt8 → UInt8 → List UInt8 → Option Nat × List UInt8
  | 0, acc, _, _, bs => (some acc, bs)
  | _ + 1, _, _, _, [] => (none, [])
  | k + 1, acc, lo, hi, b :: bs =>
    if lo ≤ b ∧ b ≤ hi then continuation k (acc * 64 + b.toNat % 64) 0x80 0xBF bs
    else (none, b :: bs)

theorem continuation_length_le (k acc : Nat) (lo hi : UInt8) (bs : List UInt8) :
    (continuation k acc lo hi bs).2.length ≤ bs.length := by
  induction k generalizing acc lo hi bs with
  | zero => simp [continuation]
  | succ k ih =>
    cases bs with
    | nil => simp [continuation]
    | cons b bs =>
      simp only [continuation]
      split
      · exact Nat.le_trans (ih _ _ _ bs) (Nat.le_succ _)
      · exact Nat.le_refl _

/-- The character that `b :: bs` starts with, or `none` for an ill-formed start, and the bytes
after what was used. -/
def next (b : UInt8) (bs : List UInt8) : Option Char × List UInt8 :=
  match leadShape b with
  | none => (none, bs)
  | some (k, lo, hi, acc) =>
    match continuation k acc lo hi bs with
    | (some cp, rest) => (some (Char.ofNat cp), rest)
    | (none, rest) => (none, rest)

theorem next_length_le (b : UInt8) (bs : List UInt8) : (next b bs).2.length ≤ bs.length := by
  unfold next
  split
  · exact Nat.le_refl _
  · rename_i k lo hi acc _
    have h := continuation_length_le k acc lo hi bs
    split <;> simp_all

/-- The characters of at most `fuel` sequences at the front of `bs`, each ill-formed sequence
replaced by `replacement`. -/
def decodeLossyUpTo : Nat → List UInt8 → List Char
  | 0, _ => []
  | _ + 1, [] => []
  | fuel + 1, b :: rest =>
    let (c, more) := next b rest
    c.getD replacement :: decodeLossyUpTo fuel more

theorem decodeLossyUpTo_congr : ∀ (f g : Nat) (bs : List UInt8), bs.length ≤ f → bs.length ≤ g →
    decodeLossyUpTo f bs = decodeLossyUpTo g bs
  | 0, 0, _, _, _ => rfl
  | 0, _ + 1, [], _, _ => rfl
  | _ + 1, 0, [], _, _ => rfl
  | _ + 1, _ + 1, [], _, _ => rfl
  | 0, _, _ :: rest, h, _ => absurd h (Nat.not_succ_le_zero rest.length)
  | _, 0, _ :: rest, _, h => absurd h (Nat.not_succ_le_zero rest.length)
  | f + 1, g + 1, b :: rest, hf, hg => by
    have hl := next_length_le b rest
    rw [decodeLossyUpTo, decodeLossyUpTo]
    cases h : next b rest with
    | mk c more =>
      rw [h] at hl
      have hf' : more.length ≤ f := Nat.le_trans hl (Nat.le_of_succ_le_succ hf)
      have hg' : more.length ≤ g := Nat.le_trans hl (Nat.le_of_succ_le_succ hg)
      show c.getD replacement :: decodeLossyUpTo f more = c.getD replacement :: decodeLossyUpTo g more
      rw [decodeLossyUpTo_congr f g more hf' hg']

/-- The characters of `bs`, each ill-formed sequence replaced by `replacement`. Every sequence
takes at least one byte, so `bs.length` sequences reach the end. -/
def decodeLossyChars (bs : List UInt8) : List Char :=
  decodeLossyUpTo bs.length bs

/-- The text of `bs`, each ill-formed sequence replaced by `replacement`. -/
def decodeLossy (bs : List UInt8) : String :=
  String.ofList (decodeLossyChars bs)

/-- The characters of at most `fuel` sequences at the front of `bs`, or `none` if one of them
is ill-formed. -/
def decodeUpTo : Nat → List UInt8 → Option (List Char)
  | 0, _ => some []
  | _ + 1, [] => some []
  | fuel + 1, b :: rest =>
    match next b rest with
    | (none, _) => none
    | (some c, more) => (decodeUpTo fuel more).map (c :: ·)

/-- The characters of `bs`, or `none` if it holds an ill-formed sequence. -/
def decodeChars? (bs : List UInt8) : Option (List Char) :=
  decodeUpTo bs.length bs

/-- The text of `bs` if it is well-formed UTF-8. -/
def decode? (bs : List UInt8) : Option String :=
  (decodeChars? bs).map String.ofList

/-- The UTF-8 bytes of a string. -/
def encode (s : String) : List UInt8 :=
  s.toUTF8.toList

example : decodeLossyChars [0x61, 0xC3, 0xA9, 0xFF, 0xE2, 0x82] = ['a', 'é', replacement, replacement] := by
  decide +kernel

end SyscallTrace.Text.Utf8
