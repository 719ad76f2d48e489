import Mathlib
import SyscallTrace.Proofs.Ipv6Text

/-!
# Reading IPv6 text back

RFC 4291 §2.2 gives the text forms of an IPv6 address: eight groups of one to four
hexadecimal digits, in either case, separated by colons; one run of one or more zero groups
may be written `::`, at most once; and the last two groups may be written as an IPv4 address
in dotted decimal. `readIpv6` reads these forms and is written from the grammar alone.

Every RFC 5952 text of an address reads back as the address (`Rfc5952Text.read`), so the
canonical text is one `ipv6Text` writes, reads back, and is never shared by two addresses
(`ipv6Text_canonical`).

## Results

* `digitsValue_toDigits`: the printed digits of a number read back as the number.
* `splitElision_hexGroups_append`: colon-separated groups hold no `::` of their own.
* `readGroups_elided`: a text with a run of zero groups written `::` reads back.
* `Rfc5952Text.read`: every RFC 5952 text reads back as its address.
* `ipv6Text_canonical`: `ipv6Text` writes the one RFC 5952 text of every address, which
  reads back as the address, so no two addresses share a text.
-/

set_option autoImplicit false

namespace SyscallTrace.Net

/-! ## The grammar -/

/-- The value of a hexadecimal digit, in either case. -/
def hexDigitValue (c : Char) : Option Nat :=
  if '0' ≤ c ∧ c ≤ '9' then some (c.toNat - '0'.toNat)
  else if 'a' ≤ c ∧ c ≤ 'f' then some (c.toNat - 'a'.toNat + 10)
  else if 'A' ≤ c ∧ c ≤ 'F' then some (c.toNat - 'A'.toNat + 10)
  else none

/-- The value of a decimal digit. -/
def decDigitValue (c : Char) : Option Nat :=
  if '0' ≤ c ∧ c ≤ '9' then some (c.toNat - '0'.toNat) else none

/-- The number the digits `cs` write in base `b`, most significant first, after the digits
read so far are worth `acc`. -/
def digitsValue (b : Nat) (digit : Char → Option Nat) : List Char → Nat → Option Nat
  | [], acc => some acc
  | c :: cs, acc => (digit c).bind fun d => digitsValue b digit cs (b * acc + d)

/-- A group: one to four hexadecimal digits. -/
def readHexGroup (cs : List Char) : Option Nat :=
  if 0 < cs.length ∧ cs.length ≤ 4 then digitsValue 16 hexDigitValue cs 0 else none

/-- A byte in decimal: one to three digits, worth at most 255. -/
def readOctet (cs : List Char) : Option Nat :=
  if 0 < cs.length ∧ cs.length ≤ 3 then (digitsValue 10 decDigitValue cs 0).filter (· < 256)
  else none

/-- An IPv4 address in dotted decimal, as the two groups it stands for. -/
def readDottedQuad (cs : List Char) : Option (List Nat) :=
  match (cs.splitOn '.').mapM readOctet with
  | some [a, b, c, d] => some [a * 256 + b, c * 256 + d]
  | _ => none

/-- Colon-separated pieces, each a group; when `last`, the final piece may instead be an IPv4
address, recognised by its dots. -/
def readPieces (last : Bool) : List (List Char) → Option (List Nat)
  | [] => some []
  | p :: ps =>
    if last ∧ ps = [] ∧ '.' ∈ p then readDottedQuad p
    else (readHexGroup p).bind fun g => (readPieces last ps).map (g :: ·)

/-- The groups a part of a text stands for; an empty part stands for none. -/
def readPart (last : Bool) (cs : List Char) : Option (List Nat) :=
  if cs = [] then some [] else readPieces last (cs.splitOn ':')

/-- The text before and after its first `::`. -/
def splitElision : List Char → Option (List Char × List Char)
  | ':' :: ':' :: rest => some ([], rest)
  | c :: rest => (splitElision rest).map fun p => (c :: p.1, p.2)
  | [] => none

/-- The groups an address text writes: eight of them without `::`; with it, the groups on
either side and the zero groups `::` stands for, one at least. -/
def readGroups (cs : List Char) : Option (List Nat) :=
  match splitElision cs with
  | none => (readPieces true (cs.splitOn ':')).filter (·.length == 8)
  | some (l, r) =>
    (readPart false l).bind fun ls => (readPart true r).bind fun rs =>
      if ls.length + rs.length < 8 then
        some (ls ++ List.replicate (8 - (ls.length + rs.length)) 0 ++ rs)
      else none

/-- The address an RFC 4291 text writes. -/
def readIpv6 (s : String) : Option (List UInt8) :=
  (readGroups s.toList).map groupBytes

/-! ## Numbers -/

theorem hexDigitValue_digitChar : ∀ d < 16, hexDigitValue (Nat.digitChar d) = some d := by
  decide

theorem decDigitValue_digitChar : ∀ d < 10, decDigitValue (Nat.digitChar d) = some d := by
  decide

theorem digitsValue_append (b : Nat) (digit : Char → Option Nat) (xs ys : List Char)
    (acc : Nat) :
    digitsValue b digit (xs ++ ys) acc =
      (digitsValue b digit xs acc).bind (digitsValue b digit ys) := by
  induction xs generalizing acc with
  | nil => rfl
  | cons c cs ih =>
    rw [List.cons_append, digitsValue, digitsValue]
    cases digit c with
    | none => rfl
    | some d => exact ih _

/-- The printed digits of a number read back as the number, in a base whose digits read back
as their values. -/
theorem digitsValue_toDigits {b : Nat} (hb : 1 < b) {digit : Char → Option Nat}
    (hdigit : ∀ d < b, digit (Nat.digitChar d) = some d) (n : Nat) :
    digitsValue b digit (Nat.toDigits b n) 0 = some n := by
  induction n using Nat.base_induction b hb with
  | single m hm =>
    rw [Nat.toDigits_of_lt_base hm, digitsValue, hdigit m hm, Option.bind_some, digitsValue,
      Nat.mul_zero, Nat.zero_add]
  | digit m k hk hm ih =>
    rw [← Nat.toDigits_append_toDigits hb hm hk, digitsValue_append, ih, Option.bind_some,
      Nat.toDigits_of_lt_base hk, digitsValue, hdigit k hk, Option.bind_some, digitsValue]

theorem readHexGroup_numeral {g : Nat} (hg : g < 65536) : readHexGroup (numeral 16 g) = some g := by
  rw [readHexGroup, if_pos (length_numeral_mem (by decide) (by decide) hg),
    ← toDigits_eq_numeral (by decide), digitsValue_toDigits (by decide) hexDigitValue_digitChar]

theorem readOctet_numeral (x : UInt8) : readOctet (numeral 10 x.toNat) = some x.toNat := by
  have hx := x.toNat_lt
  rw [readOctet, if_pos (length_numeral_mem (by decide) (by decide) (by omega)),
    ← toDigits_eq_numeral (by decide), digitsValue_toDigits (by decide) decDigitValue_digitChar,
    Option.filter_some, if_pos (by simpa using hx)]

/-! ## Pieces and parts -/

theorem colon_not_mem_numeral (g : Nat) : ':' ∉ numeral 16 g := fun hc =>
  (numeral_separators (by decide) (by decide) hc).1 rfl

theorem dot_not_mem_numeral (b n : Nat) (hb : 1 < b) (hb16 : b ≤ 16) : '.' ∉ numeral b n :=
  fun hc => (numeral_separators hb hb16 hc).2 rfl

/-- A character that is not the separator is in no piece is not in the joined pieces. -/
theorem not_mem_intercalate {sep x : Char} (hx : x ≠ sep) :
    ∀ {ls : List (List Char)}, (∀ l ∈ ls, x ∉ l) → x ∉ [sep].intercalate ls
  | [], _ => List.not_mem_nil
  | [l], h => by
    rw [List.intercalate_singleton]
    exact h l (List.mem_singleton_self l)
  | l :: l' :: ls, h => by
    rw [List.intercalate_cons_cons]
    simp only [List.mem_append, List.mem_singleton, not_or]
    exact ⟨⟨h l (List.mem_cons_self ..), hx⟩,
      not_mem_intercalate hx fun m hm => h m (List.mem_cons_of_mem l hm)⟩

theorem splitOn_dottedQuad {bs : List UInt8} (hbs : bs ≠ []) :
    (dottedQuad bs).splitOn '.' = bs.map fun x => numeral 10 x.toNat := by
  refine List.splitOn_intercalate '.' ?_ (by simpa using hbs)
  simp only [List.mem_map]
  rintro l ⟨x, -, rfl⟩
  exact dot_not_mem_numeral 10 x.toNat (by decide) (by decide)

theorem colon_not_mem_dottedQuad (bs : List UInt8) : ':' ∉ dottedQuad bs := by
  refine not_mem_intercalate (by decide) ?_
  simp only [List.mem_map]
  rintro l ⟨x, -, rfl⟩ hx
  exact (numeral_separators (by decide) (by decide) hx).1 rfl

/-- An IPv4 address in dotted decimal reads back as its two groups. -/
theorem readDottedQuad_dottedQuad (x₀ x₁ x₂ x₃ : UInt8) :
    readDottedQuad (dottedQuad [x₀, x₁, x₂, x₃]) = some (groups [x₀, x₁, x₂, x₃]) := by
  rw [readDottedQuad, splitOn_dottedQuad (List.cons_ne_nil _ _)]
  simp only [List.map_cons, List.map_nil, List.mapM_cons, List.mapM_nil, readOctet_numeral,
    Option.bind_eq_bind, Option.bind_some, Option.pure_def]
  rfl

/-- Groups written in hexadecimal read back as the groups. -/
theorem readPieces_numerals (last : Bool) :
    ∀ gs : List Nat, (∀ g ∈ gs, g < 65536) → readPieces last (gs.map (numeral 16)) = some gs
  | [], _ => rfl
  | g :: gs, h => by
    have hdot : ¬ (last = true ∧ gs.map (numeral 16) = [] ∧ '.' ∈ numeral 16 g) := fun hh =>
      dot_not_mem_numeral 16 g (by decide) (by decide) hh.2.2
    rw [List.map_cons, readPieces, if_neg hdot, readHexGroup_numeral (h g (List.mem_cons_self ..)),
      Option.bind_some, readPieces_numerals last gs fun x hx => h x (List.mem_cons_of_mem g hx),
      Option.map_some]

theorem hexGroups_cons (g : Nat) (gs : List Nat) :
    ∃ c cs, hexGroups (g :: gs) = c :: cs ∧ c ≠ ':' := by
  obtain ⟨c, cs, hcs⟩ := List.exists_cons_of_ne_nil (numeral_ne_nil 16 g (by decide))
  have hc : c ≠ ':' := fun h => colon_not_mem_numeral g (hcs ▸ h ▸ List.mem_cons_self ..)
  cases gs with
  | nil => exact ⟨c, cs, by rw [hexGroups_singleton, hcs], hc⟩
  | cons g' gs =>
    refine ⟨c, cs ++ ':' :: hexGroups (g' :: gs), ?_, hc⟩
    rw [hexGroups_cons_cons, hcs]
    rfl

theorem splitOn_hexGroups {gs : List Nat} (hgs : gs ≠ []) :
    (hexGroups gs).splitOn ':' = gs.map (numeral 16) := by
  refine List.splitOn_intercalate ':' ?_ (by simpa using hgs)
  simp only [List.mem_map]
  rintro l ⟨g, -, rfl⟩
  exact colon_not_mem_numeral g

/-- A part of groups written in hexadecimal reads back as the groups. -/
theorem readPart_hexGroups (last : Bool) (gs : List Nat) (hgs : ∀ g ∈ gs, g < 65536) :
    readPart last (hexGroups gs) = some gs := by
  cases gs with
  | nil => rfl
  | cons g gs' =>
    obtain ⟨c, cs, hcs, -⟩ := hexGroups_cons g gs'
    rw [readPart, if_neg (by rw [hcs]; exact List.cons_ne_nil c cs),
      splitOn_hexGroups (List.cons_ne_nil g gs'), readPieces_numerals last _ hgs]

/-! ## The elision -/

theorem splitElision_cons_of_ne {c : Char} (hc : c ≠ ':') (rest : List Char) :
    splitElision (c :: rest) = (splitElision rest).map fun p => (c :: p.1, p.2) :=
  splitElision.eq_2 c rest fun _ h _ => hc h

theorem splitElision_colon_cons {c : Char} (hc : c ≠ ':') (rest : List Char) :
    splitElision (':' :: c :: rest) =
      (splitElision (c :: rest)).map fun p => (':' :: p.1, p.2) :=
  splitElision.eq_2 ':' (c :: rest) fun _ _ h => hc (List.cons.inj h).1

theorem splitElision_append_of_colonFree {p : List Char} (hp : ':' ∉ p) (rest : List Char) :
    splitElision (p ++ rest) = (splitElision rest).map fun q => (p ++ q.1, q.2) := by
  induction p with
  | nil => simp
  | cons c cs ih =>
    have hc : c ≠ ':' := fun h => hp (h ▸ List.mem_cons_self ..)
    rw [List.cons_append, splitElision_cons_of_ne hc, ih fun h => hp (List.mem_cons_of_mem c h),
      Option.map_map]
    rfl

/-- Groups written in hexadecimal hold no `::`: in a text that continues them, the first `::`
is the first one of the continuation. -/
theorem splitElision_hexGroups_append : ∀ (gs : List Nat) (rest : List Char),
    splitElision (hexGroups gs ++ rest) =
      (splitElision rest).map fun q => (hexGroups gs ++ q.1, q.2)
  | [], rest => by simp [hexGroups]
  | [g], rest => by
    rw [hexGroups_singleton, splitElision_append_of_colonFree (colon_not_mem_numeral g)]
  | g :: g' :: gs, rest => by
    obtain ⟨c, cs, hcs, hc⟩ := hexGroups_cons g' gs
    rw [hexGroups_cons_cons, List.append_assoc, List.cons_append,
      splitElision_append_of_colonFree (colon_not_mem_numeral g), hcs, List.cons_append,
      splitElision_colon_cons hc, ← List.cons_append, ← hcs,
      splitElision_hexGroups_append (g' :: gs) rest, Option.map_map, Option.map_map]
    congr 1
    funext q
    simp only [Function.comp_apply, List.append_assoc, List.cons_append]

theorem splitElision_elided (gs : List Nat) (rest : List Char) :
    splitElision (hexGroups gs ++ ':' :: ':' :: rest) = some (hexGroups gs, rest) := by
  rw [splitElision_hexGroups_append, splitElision.eq_1, Option.map_some, List.append_nil]

theorem splitElision_hexGroups (gs : List Nat) : splitElision (hexGroups gs) = none := by
  rw [← List.append_nil (hexGroups gs), splitElision_hexGroups_append, splitElision.eq_3,
    Option.map_none]

/-! ## Whole texts -/

/-- A zero run of groups is cut out and put back as zeros. -/
theorem take_append_replicate_drop {gs : List Nat} {start len : Nat}
    (hrun : ZeroRun gs start len) :
    gs.take start ++ List.replicate len 0 ++ gs.drop (start + len) = gs := by
  have hzero : (gs.drop start).take len = List.replicate len 0 := by
    apply List.ext_getElem?
    intro k
    rw [List.getElem?_take, List.getElem?_drop, List.getElem?_replicate]
    split
    · exact hrun (start + k) (by omega) (by omega)
    · rfl
  rw [← hzero, ← List.drop_drop, List.append_assoc, List.take_append_drop,
    List.take_append_drop]

/-- Eight groups written in full read back. -/
theorem readGroups_hexGroups {gs : List Nat} (h8 : gs.length = 8) (hgs : ∀ g ∈ gs, g < 65536) :
    readGroups (hexGroups gs) = some gs := by
  have hne : gs ≠ [] := fun h => by simp [h] at h8
  unfold readGroups
  rw [splitElision_hexGroups, splitOn_hexGroups hne, readPieces_numerals true gs hgs,
    Option.filter_some, if_pos (by simp [h8])]

/-- Groups with a run of at least two zero groups written `::` read back. -/
theorem readGroups_elided {gs : List Nat} {start len : Nat} (h8 : gs.length = 8)
    (hgs : ∀ g ∈ gs, g < 65536) (hrun : ZeroRun gs start len) (h2 : 2 ≤ len) :
    readGroups (hexGroups (gs.take start) ++ ':' :: ':' :: hexGroups (gs.drop (start + len))) =
      some gs := by
  have hfit := hrun.end_le (by omega)
  have hsum : (gs.take start).length + (gs.drop (start + len)).length = 8 - len := by
    simp only [List.length_take, List.length_drop]
    omega
  unfold readGroups
  rw [splitElision_elided]
  simp only
  rw [readPart_hexGroups false _ fun g hg => hgs g (List.mem_of_mem_take hg), Option.bind_some,
    readPart_hexGroups true _ fun g hg => hgs g (List.mem_of_mem_drop hg), Option.bind_some, hsum,
    if_pos (by omega), show 8 - (8 - len) = len by omega, take_append_replicate_drop hrun]

/-- An IPv4-mapped text reads back as the mapped prefix and the groups of the IPv4 address. -/
theorem readGroups_mapped (x₀ x₁ x₂ x₃ : UInt8) :
    readGroups ("::ffff:".toList ++ dottedQuad [x₀, x₁, x₂, x₃]) =
      some ([0, 0, 0, 0, 0, 0xffff] ++ groups [x₀, x₁, x₂, x₃]) := by
  have htext : "::ffff:".toList ++ dottedQuad [x₀, x₁, x₂, x₃] =
      ':' :: ':' :: [':'].intercalate ["ffff".toList, dottedQuad [x₀, x₁, x₂, x₃]] := by
    rw [List.intercalate_cons_cons, List.intercalate_singleton]
    rfl
  have hdot : '.' ∈ dottedQuad [x₀, x₁, x₂, x₃] := by
    simp [dottedQuad, List.intercalate_cons_cons]
  have hsplit : ([':'].intercalate ["ffff".toList, dottedQuad [x₀, x₁, x₂, x₃]]).splitOn ':' =
      ["ffff".toList, dottedQuad [x₀, x₁, x₂, x₃]] := by
    refine List.splitOn_intercalate ':' ?_ (List.cons_ne_nil _ _)
    simp only [List.mem_cons, List.not_mem_nil, or_false]
    rintro l (rfl | rfl)
    · decide
    · exact colon_not_mem_dottedQuad _
  have hpieces : readPieces true ["ffff".toList, dottedQuad [x₀, x₁, x₂, x₃]] =
      some (0xffff :: groups [x₀, x₁, x₂, x₃]) := by
    rw [readPieces, if_neg (by simp), show readHexGroup "ffff".toList = some 0xffff by decide,
      Option.bind_some, readPieces, if_pos ⟨rfl, rfl, hdot⟩, readDottedQuad_dottedQuad,
      Option.map_some]
  have hne : [':'].intercalate ["ffff".toList, dottedQuad [x₀, x₁, x₂, x₃]] ≠ [] := by
    rw [List.intercalate_cons_cons]
    simp
  unfold readGroups
  rw [htext, splitElision.eq_1]
  simp only
  rw [readPart, if_pos rfl, Option.bind_some, readPart, if_neg hne, hsplit, hpieces,
    Option.bind_some]
  rfl

/-! ## Canonical texts read back -/

/-- Every RFC 5952 text of an address of sixteen bytes reads back as the address. -/
theorem Rfc5952Text.read {a : List UInt8} {t : String} (ht : Rfc5952Text a t)
    (ha : a.length = 16) : readIpv6 t = some a := by
  have h8 : (groups a).length = 8 := by rw [length_groups, ha]
  suffices hg : readGroups t.toList = some (groups a) by
    rw [readIpv6, hg, Option.map_some, groupBytes_groups a (by rw [ha])]
  cases ht with
  | mapped hm =>
    have hq : (a.drop 12).length = 4 := by rw [List.length_drop, ha]
    obtain ⟨x₀, x₁, x₂, x₃, hxs⟩ : ∃ x₀ x₁ x₂ x₃, a.drop 12 = [x₀, x₁, x₂, x₃] := by
      rcases hd : a.drop 12 with _ | ⟨x₀, _ | ⟨x₁, _ | ⟨x₂, _ | ⟨x₃, _ | ⟨x₄, rest⟩⟩⟩⟩⟩ <;>
        rw [hd] at hq <;> simp at hq
      exact ⟨x₀, x₁, x₂, x₃, rfl⟩
    simp only [String.toList_append, String.toList_ofList]
    rw [hxs, readGroups_mapped, groups_eq_take_append_drop ha, hm, hxs]
    rfl
  | elided _ hrun h2 =>
    rw [String.toList_ofList]
    exact readGroups_elided h8 (groups_lt a) hrun.zero h2
  | full =>
    rw [String.toList_ofList]
    exact readGroups_hexGroups h8 (groups_lt a)

/-- `ipv6Text` writes the one RFC 5952 text of every address of sixteen bytes; the text reads
back as the address under the RFC 4291 grammar, so no two addresses are written alike. -/
theorem ipv6Text_canonical (a : List UInt8) (ha : a.length = 16) :
    (∀ t, Rfc5952Text a t ↔ t = ipv6Text a) ∧ readIpv6 (ipv6Text a) = some a ∧
      ∀ b : List UInt8, b.length = 16 → ipv6Text b = ipv6Text a → b = a := by
  have hcanon := rfc5952Text_ipv6Text ha
  have hread := hcanon.read ha
  refine ⟨fun t => ⟨fun ht => ht.unique hcanon, fun ht => ht ▸ hcanon⟩, hread,
    fun b hb hba => ?_⟩
  have hreadb := (rfc5952Text_ipv6Text hb).read hb
  rw [hba, hread] at hreadb
  exact (Option.some.inj hreadb).symm

/-- The documentation address `2001:db8::2`. -/
def docAddress : List UInt8 :=
  [0x20, 0x01, 0x0d, 0xb8, 0, 0, 0, 0, 0, 0, 0, 0, 0, 0, 0, 2]

/-- The canonical text of `docAddress` is its only RFC 5952 text, and reads back. -/
theorem ipv6Text_canonical_docAddress :
    docAddress.length = 16 ∧
      (∀ t, Rfc5952Text docAddress t ↔ t = ipv6Text docAddress) ∧
      readIpv6 (ipv6Text docAddress) = some docAddress ∧
      ∀ b : List UInt8, b.length = 16 → ipv6Text b = ipv6Text docAddress → b = docAddress :=
  ⟨rfl, ipv6Text_canonical docAddress rfl⟩

-- the grammar also reads the uncompressed, uppercase text of the address
example : readIpv6 "2001:DB8:0:0:0:0:0:2" = some docAddress := by decide

end SyscallTrace.Net
