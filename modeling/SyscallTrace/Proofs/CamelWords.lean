import Mathlib
import SyscallTrace.Schema.Camel

/-!
# Camel case as words

`camelCase` trims the spaces at either end of its identifier and reads the rest one character
at a time, with a flag that says whether the next letter starts a word; the flag is set after
every character, dropped ones included. The trim changes nothing (`camelChars_trimSpaces`). On
identifiers made of ASCII letters, digits, `_` and spaces it is a function of the words: the
identifier is split at each `_` and space, each word has its first character raised to
uppercase when it is a lowercase letter, and the words are joined with nothing between them.
Its text is one word of letters and digits that starts with no lowercase letter, so writing it
again changes nothing.

Outside that alphabet the word reading fails: a dropped character such as `[` clears the flag,
so a lowercase letter after it stays lowercase.

## Results

* `camelChars_eq_camelWords`: on the identifier alphabet the scan writes the words.
* `raiseFirst_flatMap_raiseFirst`: joined raised words start with no lowercase letter.
* `camelCase_words`: the text has only ASCII letters and digits, and on the identifier alphabet
  it is the joined raised words and a fixed point.
-/

set_option autoImplicit false

namespace SyscallTrace.Schema

/-! ## Characters -/

/-- A character an identifier is written with: an ASCII letter or digit, `_` or a space. -/
def IdentChar (c : Char) : Prop :=
  c.isAlphanum = true ∨ c = '_' ∨ c = ' '

/-- The characters that break an identifier into words. -/
def isWordBreak (c : Char) : Bool :=
  c == '_' || c == ' '

theorem isUpper_iff {c : Char} : c.isUpper ↔ 65 ≤ c.toNat ∧ c.toNat ≤ 90 := by
  simp [Char.isUpper, UInt32.le_iff_toNat_le, ← Char.toNat_val]

theorem isLower_iff {c : Char} : c.isLower ↔ 97 ≤ c.toNat ∧ c.toNat ≤ 122 := by
  simp [Char.isLower, UInt32.le_iff_toNat_le, ← Char.toNat_val]

theorem not_isLower_of_isUpper {c : Char} (h : c.isUpper = true) : c.isLower = false := by
  have hu := isUpper_iff.mp h
  rw [Bool.eq_false_iff]
  intro hl
  have := isLower_iff.mp hl
  omega

theorem not_isLower_of_isDigit {c : Char} (h : c.isDigit = true) : c.isLower = false := by
  have hd := Char.isDigit_iff_toNat.mp h
  have h0 : '0'.toNat = 48 := rfl
  have h9 : '9'.toNat = 57 := rfl
  rw [Bool.eq_false_iff]
  intro hl
  have := isLower_iff.mp hl
  omega

/-- A letter or digit writes itself, raised when it starts a word and is lowercase. -/
theorem camelPiece_of_isAlphanum (capNext : Bool) {c : Char} (h : c.isAlphanum = true) :
    camelPiece capNext c = [if capNext && c.isLower then c.toUpper else c] := by
  unfold camelPiece
  by_cases hud : (c.isUpper || c.isDigit) = true
  · have hl : c.isLower = false := by
      rcases Bool.or_eq_true _ _ |>.mp hud with hu | hd
      · exact not_isLower_of_isUpper hu
      · exact not_isLower_of_isDigit hd
    simp only [if_pos hud, hl, Bool.and_false, Bool.false_eq_true, ↓reduceIte]
  · -- neither uppercase nor a digit, so a lowercase letter
    have hl : c.isLower = true := by
      have h' : ((c.isUpper || c.isLower) || c.isDigit) = true := h
      revert h' hud
      cases c.isUpper <;> cases c.isLower <;> cases c.isDigit <;> simp
    cases capNext <;> simp [hud, hl]

theorem camelPiece_of_isWordBreak (capNext : Bool) {c : Char} (h : isWordBreak c = true) :
    camelPiece capNext c = [] := by
  have hc : c = '_' ∨ c = ' ' := by simpa [isWordBreak] using h
  rcases hc with rfl | rfl <;> rfl

/-- A letter or digit is neither `_` nor a space. -/
theorem isWordBreak_of_isAlphanum {c : Char} (h : c.isAlphanum = true) : isWordBreak c = false := by
  simp only [isWordBreak, Bool.or_eq_false_iff, beq_eq_false_iff_ne]
  constructor <;> rintro rfl <;> exact absurd h (by decide)

theorem identChar_cases {c : Char} (h : IdentChar c) :
    (c.isAlphanum = true ∧ isWordBreak c = false) ∨ isWordBreak c = true := by
  rcases h with h | rfl | rfl
  · exact .inl ⟨h, isWordBreak_of_isAlphanum h⟩
  · exact .inr rfl
  · exact .inr rfl

/-! ## Words -/

/-- A word with its first character raised to uppercase when it is a lowercase letter. -/
def raiseFirst : List Char → List Char
  | [] => []
  | c :: cs => (if c.isLower then c.toUpper else c) :: cs

/-- Words joined in camel case; the first is raised only when `capFirst`. -/
def camelWords (capFirst : Bool) : List (List Char) → List Char
  | [] => []
  | w :: ws => (if capFirst then raiseFirst w else w) ++ ws.flatMap raiseFirst

theorem camelWords_true (ws : List (List Char)) : camelWords true ws = ws.flatMap raiseFirst := by
  cases ws with
  | nil => rfl
  | cons w ws => rfl

/-- On the identifier alphabet, the scan writes the words between breaks, the first raised
exactly when the flag is set. -/
theorem camelChars_eq_camelWords (capNext : Bool) (cs : List Char) (h : ∀ c ∈ cs, IdentChar c) :
    camelChars capNext cs = camelWords capNext (cs.splitOnP isWordBreak) := by
  induction cs generalizing capNext with
  | nil => cases capNext <;> rfl
  | cons c rest ih =>
    have hrest : ∀ b, camelChars b rest = camelWords b (rest.splitOnP isWordBreak) :=
      fun b => ih b fun x hx => h x (List.mem_cons_of_mem c hx)
    rw [camelChars, List.splitOnP_cons_eq_if_modifyHead]
    rcases identChar_cases (h c (List.mem_cons_self ..)) with ⟨halnum, hbreak⟩ | hbreak
    · -- a letter or digit extends the first word and clears the flag
      have hflag : (c == '_' || c == ' ') = false := hbreak
      rw [camelPiece_of_isAlphanum capNext halnum, hflag, hrest, hbreak, if_neg Bool.false_ne_true]
      obtain ⟨w, ws, hws⟩ := List.exists_cons_of_ne_nil (List.splitOnP_ne_nil isWordBreak rest)
      rw [hws, List.modifyHead_cons]
      cases capNext <;> simp [camelWords, raiseFirst]
    · -- a break writes nothing, ends the word, and sets the flag
      have hflag : (c == '_' || c == ' ') = true := hbreak
      rw [camelPiece_of_isWordBreak capNext hbreak, hflag, hrest, if_pos hbreak, camelWords,
        camelWords_true]
      cases capNext <;> rfl

/-! ## Raised words are fixed -/

theorem isLower_raise (c : Char) : (if c.isLower then c.toUpper else c).isLower = false := by
  split
  · exact not_isLower_of_isUpper (isUpper_toUpper_of_isLower ‹_›)
  · exact Bool.eq_false_iff.mpr ‹_›

/-- Joined raised words start with no lowercase letter, so raising them again changes
nothing. -/
theorem raiseFirst_flatMap_raiseFirst (ws : List (List Char)) :
    raiseFirst (ws.flatMap raiseFirst) = ws.flatMap raiseFirst := by
  induction ws with
  | nil => rfl
  | cons w ws ih =>
    cases w with
    | nil =>
      rw [List.flatMap_cons, raiseFirst, List.nil_append]
      exact ih
    | cons c cs =>
      simp only [List.flatMap_cons, raiseFirst, List.cons_append, isLower_raise c,
        Bool.false_eq_true, ↓reduceIte]

/-- The camel-case text has only ASCII letters and digits; and for an identifier of ASCII
letters, digits, `_` and spaces it is its words, split at each `_` and space, joined with the
first character of each raised when it is a lowercase letter, so writing it again changes
nothing. -/
theorem camelCase_words (s : String) :
    (∀ c ∈ (camelCase s).toList, c.isAlphanum = true) ∧
    ((∀ c ∈ s.toList, IdentChar c) →
      camelCase s = String.ofList ((s.toList.splitOnP isWordBreak).flatMap raiseFirst) ∧
      camelCase (camelCase s) = camelCase s) := by
  have halnum : ∀ c ∈ (camelCase s).toList, c.isAlphanum = true := by
    rw [camelCase, String.toList_ofList]
    exact camelChars_alnum true _
  refine ⟨halnum, fun hs => ?_⟩
  have hwords :
      camelCase s = String.ofList ((s.toList.splitOnP isWordBreak).flatMap raiseFirst) := by
    rw [camelCase, camelChars_trimSpaces, camelChars_eq_camelWords true s.toList hs, camelWords_true]
  refine ⟨hwords, ?_⟩
  have hone : (camelCase s).toList.splitOnP isWordBreak = [(camelCase s).toList] :=
    List.splitOnP_eq_singleton fun c hc => isWordBreak_of_isAlphanum (halnum c hc)
  have hself : raiseFirst (camelCase s).toList = (camelCase s).toList := by
    rw [hwords, String.toList_ofList, raiseFirst_flatMap_raiseFirst]
  rw [camelCase, camelChars_trimSpaces,
    camelChars_eq_camelWords true _ fun c hc => .inl (halnum c hc), hone, camelWords, if_pos rfl,
    List.flatMap_nil, List.append_nil, hself, String.ofList_toList]

/-- The words of ` new utsname `, with the spaces at either end. -/
theorem camelCase_words_new_utsname :
    (∀ c ∈ " new utsname ".toList, IdentChar c) ∧
      camelCase " new utsname " =
        String.ofList ((" new utsname ".toList.splitOnP isWordBreak).flatMap raiseFirst) ∧
      camelCase (camelCase " new utsname ") = camelCase " new utsname " := by
  have hs : ∀ c ∈ " new utsname ".toList, IdentChar c := by
    have hall :
        (" new utsname ".toList.all fun c => c.isAlphanum || c == '_' || c == ' ') = true := by
      decide
    intro c hc
    simpa [IdentChar, or_assoc] using List.all_eq_true.mp hall c hc
  exact ⟨hs, (camelCase_words " new utsname ").2 hs⟩

-- a dropped `[` clears the flag that the `_` before it set
example : camelCase "x_[y" = "Xy" := by decide

end SyscallTrace.Schema
