import Mathlib
import SyscallTrace.Proofs.ZeroRuns

/-!
# The canonical text of an IPv6 address

RFC 5952 fixes one text for each IPv6 address. Its groups are written in lowercase
hexadecimal with leading zeros suppressed (§4.1, §4.3). The first of the longest runs of zero
groups is replaced by `::` when it has at least two groups, and no other run is (§4.2). An
IPv4-mapped address, `::ffff:0:0/96`, is written `::ffff:` followed by its last four bytes in
dotted decimal (§5).

`Rfc5952Text` states these rules, with numerals taken from the digits of a number (`numeral`)
and not from the printing routine, and with the compressed run described by `FirstLongestRun`
rather than by a scan. The rules leave one text per address (`Rfc5952Text.unique`), and
`ipv6Text` writes it (`rfc5952Text_ipv6Text`).

## Results

* `toDigits_eq_numeral`: the printed digits of a number are its numeral.
* `groupBytes_groups`: the bytes of an address are recovered from its groups.
* `isIpv4Mapped_iff`: the test on the first six groups is the test on the first twelve bytes.
* `Rfc5952Text.unique`: an address has one RFC 5952 text.
* `rfc5952Text_ipv6Text`: `ipv6Text` writes it.
-/

set_option autoImplicit false

namespace SyscallTrace.Net

/-! ## Numerals -/

/-- The numeral of `n` in base `b`: its digits, most significant first, written `0`-`9` and
then in lowercase letters; zero is written `0`, and no other numeral starts with `0`. -/
def numeral (b n : Nat) : List Char :=
  if n = 0 then ['0'] else (Nat.digits b n).reverse.map Nat.digitChar

/-- The digits Lean prints for a number are its numeral. -/
theorem toDigits_eq_numeral {b : Nat} (hb : 1 < b) (n : Nat) : Nat.toDigits b n = numeral b n := by
  induction n using Nat.strong_induction_on with
  | _ n ih =>
    rcases Nat.eq_zero_or_pos n with rfl | hn
    · rw [Nat.toDigits_zero]
      rfl
    · have hn0 : n ≠ 0 := by omega
      rw [numeral, if_neg hn0, Nat.toDigits_eq_if hb]
      by_cases hlt : n < b
      · rw [if_pos hlt, Nat.digits_of_lt b n hn0 hlt]
        rfl
      · -- the last digit comes off the end, and the rest is the numeral of `n / b`
        have hq : n / b ≠ 0 := Nat.ne_of_gt (Nat.div_pos (by omega) (by omega))
        rw [if_neg hlt, ih (n / b) (Nat.div_lt_self hn hb), numeral, if_neg hq,
          Nat.digits_def' hb hn, List.reverse_cons, List.map_append]
        rfl

theorem mem_numeral {b n : Nat} (hb : 1 < b) {c : Char} (hc : c ∈ numeral b n) :
    ∃ d < b, c = Nat.digitChar d := by
  unfold numeral at hc
  split at hc
  · rw [List.mem_singleton] at hc
    exact ⟨0, by omega, hc⟩
  · obtain ⟨d, hd, rfl⟩ := List.mem_map.mp hc
    exact ⟨d, Nat.digits_lt_base hb (List.mem_reverse.mp hd), rfl⟩

/-- A numeral in a base up to sixteen has neither a colon nor a dot. -/
theorem numeral_separators {b n : Nat} (hb : 1 < b) (hb16 : b ≤ 16) {c : Char}
    (hc : c ∈ numeral b n) : c ≠ ':' ∧ c ≠ '.' := by
  obtain ⟨d, hd, rfl⟩ := mem_numeral hb hc
  have hdigits : ∀ d < 16, Nat.digitChar d ≠ ':' ∧ Nat.digitChar d ≠ '.' := by decide
  exact hdigits d (by omega)

theorem numeral_ne_nil (b n : Nat) (hb : 1 < b) : numeral b n ≠ [] := by
  rw [← toDigits_eq_numeral hb]
  exact Nat.toDigits_ne_nil

/-- A numeral has between one and `k` digits when the number is below `b ^ k`. -/
theorem length_numeral_mem {b n k : Nat} (hb : 1 < b) (hk : 0 < k) (h : n < b ^ k) :
    0 < (numeral b n).length ∧ (numeral b n).length ≤ k := by
  refine ⟨List.length_pos_iff.mpr (numeral_ne_nil b n hb), ?_⟩
  rw [← toDigits_eq_numeral hb]
  exact (Nat.length_toDigits_le_iff hb hk).mpr h

/-! ## Groups and bytes -/

/-- Groups written as numerals in hexadecimal, separated by colons. -/
def hexGroups (gs : List Nat) : List Char :=
  [':'].intercalate (gs.map (numeral 16))

theorem hexGroups_singleton (g : Nat) : hexGroups [g] = numeral 16 g := by
  rw [hexGroups, List.map_singleton, List.intercalate_singleton]

theorem hexGroups_cons_cons (g g' : Nat) (gs : List Nat) :
    hexGroups (g :: g' :: gs) = numeral 16 g ++ ':' :: hexGroups (g' :: gs) := by
  simp only [hexGroups, List.map_cons, List.intercalate_cons_cons, List.append_assoc,
    List.singleton_append]

/-- Bytes written as numerals in decimal, separated by dots. -/
def dottedQuad (bs : List UInt8) : List Char :=
  ['.'].intercalate (bs.map fun x => numeral 10 x.toNat)

/-- The bytes of groups, high byte first. -/
def groupBytes (gs : List Nat) : List UInt8 :=
  gs.flatMap fun g => [(g / 256).toUInt8, g.toUInt8]

theorem joinGroups_eq (gs : List Nat) : joinGroups gs = String.ofList (hexGroups gs) := by
  rw [← String.toList_inj, String.toList_ofList, joinGroups, String.toList_intercalate,
    List.map_map, hexGroups]
  congr 1
  refine List.map_congr_left fun g _ => ?_
  rw [Function.comp_apply, groupText, String.toList_ofList, toDigits_eq_numeral (by decide)]

theorem ipv4Text_eq (bs : List UInt8) : ipv4Text bs = String.ofList (dottedQuad bs) := by
  rw [← String.toList_inj, String.toList_ofList, ipv4Text, String.toList_intercalate,
    List.map_map, dottedQuad]
  congr 1
  refine List.map_congr_left fun x _ => ?_
  rw [Function.comp_apply, Nat.toString_eq_repr, Nat.toList_repr, toDigits_eq_numeral (by decide)]

theorem length_groups : ∀ bs : List UInt8, (groups bs).length = bs.length / 2
  | [] => rfl
  | [_] => by simp [groups]
  | a :: b :: rest => by
    rw [groups, List.length_cons, length_groups rest, List.length_cons, List.length_cons]
    omega

theorem groups_lt : ∀ (bs : List UInt8), ∀ g ∈ groups bs, g < 65536
  | [] => fun _ h => absurd h List.not_mem_nil
  | [_] => fun _ h => absurd h List.not_mem_nil
  | a :: b :: rest => by
    intro g hg
    rw [groups, List.mem_cons] at hg
    rcases hg with rfl | hg
    · have := a.toNat_lt
      have := b.toNat_lt
      omega
    · exact groups_lt rest g hg

theorem groups_append : ∀ (xs ys : List UInt8), xs.length % 2 = 0 →
    groups (xs ++ ys) = groups xs ++ groups ys
  | [], _, _ => rfl
  | [_], _, h => absurd h (by simp)
  | a :: b :: rest, ys, h => by
    have hrest : rest.length % 2 = 0 := by simp only [List.length_cons] at h; omega
    rw [List.cons_append, List.cons_append, groups, groups, groups_append rest ys hrest,
      List.cons_append]

/-- The bytes of an address are recovered from its groups. -/
theorem groupBytes_groups : ∀ bs : List UInt8, bs.length % 2 = 0 → groupBytes (groups bs) = bs
  | [], _ => rfl
  | [_], h => absurd h (by simp)
  | a :: b :: rest, h => by
    have ha := a.toNat_lt
    have hb := b.toNat_lt
    have hhigh : ((a.toNat * 256 + b.toNat) / 256).toUInt8 = a := by
      apply UInt8.toNat_inj.mp
      simp only [Nat.toUInt8_eq, UInt8.toNat_ofNat']
      omega
    have hlow : (a.toNat * 256 + b.toNat).toUInt8 = b := by
      apply UInt8.toNat_inj.mp
      simp only [Nat.toUInt8_eq, UInt8.toNat_ofNat']
      omega
    have hrest : rest.length % 2 = 0 := by simp only [List.length_cons] at h; omega
    rw [groups, groupBytes, List.flatMap_cons, ← groupBytes, groupBytes_groups rest hrest, hhigh,
      hlow]
    rfl

/-! ## The rules -/

/-- The address's first eighty bits are zero and the next sixteen are one: an IPv4 address
mapped into IPv6, `::ffff:0:0/96`. -/
def IsIpv4Mapped (a : List UInt8) : Prop :=
  a.take 12 = [0, 0, 0, 0, 0, 0, 0, 0, 0, 0, 0xff, 0xff]

/-- The groups of the first twelve bytes of an address, then of its last four. -/
theorem groups_eq_take_append_drop {a : List UInt8} (ha : a.length = 16) :
    groups a = groups (a.take 12) ++ groups (a.drop 12) := by
  rw [← groups_append _ _ (by simp [ha]), List.take_append_drop]

/-- The prefix test on groups is the prefix test on bytes. -/
theorem isIpv4Mapped_iff {a : List UInt8} (ha : a.length = 16) :
    IsIpv4Mapped a ↔ (groups a).take 6 = [0, 0, 0, 0, 0, 0xffff] := by
  have hsplit := groups_eq_take_append_drop ha
  have hlen : (groups (a.take 12)).length = 6 := by simp [length_groups, ha]
  rw [hsplit, List.take_left' hlen, IsIpv4Mapped]
  constructor
  · intro h
    rw [h]
    rfl
  · intro h
    have hbytes := groupBytes_groups (a.take 12) (by simp [ha])
    rw [h] at hbytes
    rw [← hbytes]
    rfl

/-- The texts RFC 5952 allows for the address `a`, of sixteen bytes: one, as
`Rfc5952Text.unique` shows. -/
inductive Rfc5952Text (a : List UInt8) : String → Prop
  /-- An IPv4-mapped address is written `::ffff:` and its last four bytes in dotted decimal
  (§5). -/
  | mapped : IsIpv4Mapped a → Rfc5952Text a ("::ffff:" ++ String.ofList (dottedQuad (a.drop 12)))
  /-- The first of the longest runs of zero groups, of at least two groups, is replaced by `::`
  (§4.2.1, §4.2.2, §4.2.3); the other groups are written in hexadecimal (§4.1, §4.3). -/
  | elided {start len : Nat} : ¬ IsIpv4Mapped a → FirstLongestRun (groups a) (start, len) →
      2 ≤ len → Rfc5952Text a (String.ofList (hexGroups ((groups a).take start) ++ ':' :: ':' ::
        hexGroups ((groups a).drop (start + len))))
  /-- With no run of two zero groups, every group is written (§4.2.2). -/
  | full : ¬ IsIpv4Mapped a → (∀ s l, ZeroRun (groups a) s l → l ≤ 1) →
      Rfc5952Text a (String.ofList (hexGroups (groups a)))

/-- An address has one RFC 5952 text. -/
theorem Rfc5952Text.unique {a : List UInt8} {t t' : String} (h : Rfc5952Text a t)
    (h' : Rfc5952Text a t') : t = t' := by
  cases h with
  | mapped hm =>
    cases h' with
    | mapped => rfl
    | elided hm' => exact absurd hm hm'
    | full hm' => exact absurd hm hm'
  | elided hm hrun h2 =>
    cases h' with
    | mapped hm' => exact absurd hm' hm
    | elided _ hrun' =>
      obtain ⟨rfl, rfl⟩ := Prod.ext_iff.mp (hrun.unique hrun')
      rfl
    | full _ hshort => exact absurd (hshort _ _ hrun.zero) (by omega)
  | full hm hshort =>
    cases h' with
    | mapped hm' => exact absurd hm' hm
    | elided _ hrun' h2' => exact absurd (hshort _ _ hrun'.zero) (by omega)
    | full => rfl

/-- `ipv6Text` with the compressed run read off the scan. -/
theorem ipv6Text_eq (a : List UInt8) :
    ipv6Text a =
      if (groups a).take 6 = [0, 0, 0, 0, 0, 0xffff] then "::ffff:" ++ ipv4Text (a.drop 12)
      else if (longestZeroRun (groups a) 0 (0, 0) (0, 0)).2 > 1 then
        joinGroups ((groups a).take (longestZeroRun (groups a) 0 (0, 0) (0, 0)).1) ++ "::" ++
          joinGroups ((groups a).drop ((longestZeroRun (groups a) 0 (0, 0) (0, 0)).1 +
            (longestZeroRun (groups a) 0 (0, 0) (0, 0)).2))
      else joinGroups (groups a) :=
  rfl

theorem ofList_elided (l r : List Char) :
    String.ofList l ++ "::" ++ String.ofList r = String.ofList (l ++ ':' :: ':' :: r) := by
  simp only [← String.toList_inj, String.toList_append, String.toList_ofList]
  rw [List.append_assoc]
  rfl

/-- `ipv6Text` writes the RFC 5952 text of every address of sixteen bytes. -/
theorem rfc5952Text_ipv6Text {a : List UInt8} (ha : a.length = 16) :
    Rfc5952Text a (ipv6Text a) := by
  rw [ipv6Text_eq]
  split
  · rename_i hm
    rw [ipv4Text_eq]
    exact .mapped ((isIpv4Mapped_iff ha).mpr hm)
  · rename_i hm
    have hm' : ¬ IsIpv4Mapped a := fun h => hm ((isIpv4Mapped_iff ha).mp h)
    have hrun := longestZeroRun_firstLongest (groups a)
    split
    · rename_i hlong
      rw [joinGroups_eq, joinGroups_eq, ofList_elided]
      exact .elided hm' hrun hlong
    · rename_i hshort
      rw [joinGroups_eq]
      exact .full hm' fun s l hr => by have := hrun.longest s l hr; omega

end SyscallTrace.Net
