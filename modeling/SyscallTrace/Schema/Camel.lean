/-!
# Camel-case names

A kernel identifier such as `sys_enter_open` or `dfd` becomes the type-like name `SysEnterOpen`
or `Dfd`: letters are kept, a lowercase letter right after an underscore or a space (or at the
start) is raised to uppercase, uppercase letters and digits are kept as they are, and every
other character is dropped. Spaces at either end are trimmed first; they would write nothing
anyway, since a space only sets the flag and the first letter starts a word in any case.

## Results

* `camelChars_alnum`: every character written is an ASCII letter or digit.
* `camelChars_trimSpaces`: trimming the spaces at either end changes nothing.
-/

set_option autoImplicit false

namespace SyscallTrace.Schema

/-- What one character writes, given whether it starts a word. -/
def camelPiece (capNext : Bool) (c : Char) : List Char :=
  if c.isUpper || c.isDigit then [c]
  else if c.isLower then (if capNext then [c.toUpper] else [c])
  else []

/-- Camel-case characters of `cs`; `capNext` says whether the next letter starts a word. -/
def camelChars (capNext : Bool) : List Char → List Char
  | [] => []
  | c :: rest => camelPiece capNext c ++ camelChars (c == '_' || c == ' ') rest

/-- The characters between the spaces at either end. -/
def trimSpaces (cs : List Char) : List Char :=
  ((cs.dropWhile (· == ' ')).reverse.dropWhile (· == ' ')).reverse

/-- The camel-case form of an identifier. -/
def camelCase (s : String) : String :=
  String.ofList (camelChars true (trimSpaces s.toList))

/-- Raising a lowercase ASCII letter gives an uppercase one. -/
theorem isUpper_toUpper_of_isLower {c : Char} (h : c.isLower = true) :
    c.toUpper.isUpper = true := by
  unfold Char.isLower at h
  simp only [Bool.and_eq_true, decide_eq_true_eq] at h
  have h' : 'a'.val ≤ c.val ∧ c.val ≤ 'z'.val := ⟨h.1, h.2⟩
  unfold Char.toUpper
  rw [dif_pos h']
  unfold Char.isUpper
  obtain ⟨h1, h2⟩ := h'
  simp only [UInt32.le_iff_toNat_le] at h1 h2
  have ha : 'a'.val.toNat = 97 := rfl
  have hz : 'z'.val.toNat = 122 := rfl
  have hA : 'A'.val.toNat = 65 := rfl
  have hZ : 'Z'.val.toNat = 90 := rfl
  simp only [decide_eq_true_eq, UInt32.le_iff_toNat_le, UInt32.toNat_add, UInt32.toNat_sub,
    ge_iff_le]
  omega

theorem isAlphanum_of_isUpper {c : Char} (h : c.isUpper = true) : c.isAlphanum = true := by
  show ((c.isUpper || c.isLower) || c.isDigit) = true
  rw [h]
  rfl

theorem isAlphanum_of_isLower {c : Char} (h : c.isLower = true) : c.isAlphanum = true := by
  show ((c.isUpper || c.isLower) || c.isDigit) = true
  rw [h, Bool.or_true]
  rfl

theorem isAlphanum_of_isDigit {c : Char} (h : c.isDigit = true) : c.isAlphanum = true := by
  show ((c.isUpper || c.isLower) || c.isDigit) = true
  rw [h, Bool.or_true]

theorem camelPiece_alnum (capNext : Bool) (c : Char) :
    ∀ d ∈ camelPiece capNext c, d.isAlphanum = true := by
  intro d hd
  unfold camelPiece at hd
  split at hd
  · rename_i h1
    rw [List.mem_singleton] at hd
    subst hd
    rw [Bool.or_eq_true] at h1
    rcases h1 with h | h
    · exact isAlphanum_of_isUpper h
    · exact isAlphanum_of_isDigit h
  · split at hd
    · rename_i h2
      split at hd
      · rw [List.mem_singleton] at hd
        subst hd
        exact isAlphanum_of_isUpper (isUpper_toUpper_of_isLower h2)
      · rw [List.mem_singleton] at hd
        subst hd
        exact isAlphanum_of_isLower h2
    · exact absurd hd List.not_mem_nil

theorem camelChars_alnum (capNext : Bool) (cs : List Char) :
    ∀ d ∈ camelChars capNext cs, d.isAlphanum = true := by
  induction cs generalizing capNext with
  | nil => intro d hd; exact absurd hd List.not_mem_nil
  | cons c rest ih =>
    intro d hd
    rw [camelChars, List.mem_append] at hd
    rcases hd with h | h
    · exact camelPiece_alnum capNext c d h
    · exact ih _ d h

/-- Spaces write nothing and leave the flag set. -/
theorem camelChars_spaces (capNext : Bool) (cs : List Char) (h : ∀ c ∈ cs, c = ' ') :
    camelChars capNext cs = [] := by
  induction cs generalizing capNext with
  | nil => rfl
  | cons c rest ih =>
    obtain rfl := h c (List.mem_cons_self ..)
    exact ih true fun x hx => h x (List.mem_cons_of_mem _ hx)

/-- Leading spaces write nothing and leave the flag set, as it is at the start. -/
theorem camelChars_dropSpaces (cs : List Char) :
    camelChars true (cs.dropWhile (· == ' ')) = camelChars true cs := by
  induction cs with
  | nil => rfl
  | cons c rest ih =>
    by_cases hc : c = ' '
    · subst hc
      rw [List.dropWhile_cons_of_pos rfl, ih]
      rfl
    · rw [List.dropWhile_cons_of_neg (by simpa using hc)]

/-- Trailing spaces write nothing. -/
theorem camelChars_append_spaces (capNext : Bool) (cs sp : List Char) (h : ∀ c ∈ sp, c = ' ') :
    camelChars capNext (cs ++ sp) = camelChars capNext cs := by
  induction cs generalizing capNext with
  | nil => exact camelChars_spaces capNext sp h
  | cons c rest ih => rw [List.cons_append, camelChars, camelChars, ih]

/-- Trimming the spaces at either end changes nothing. -/
theorem camelChars_trimSpaces (cs : List Char) :
    camelChars true (trimSpaces cs) = camelChars true cs := by
  have hsplit : cs.dropWhile (· == ' ') =
      trimSpaces cs ++ ((cs.dropWhile (· == ' ')).reverse.takeWhile (· == ' ')).reverse := by
    rw [trimSpaces, ← List.reverse_append, List.takeWhile_append_dropWhile, List.reverse_reverse]
  have hsp : ∀ c ∈ ((cs.dropWhile (· == ' ')).reverse.takeWhile (· == ' ')).reverse, c = ' ' :=
    fun c hc => by simpa using List.all_eq_true.mp List.all_takeWhile c (List.mem_reverse.mp hc)
  rw [← camelChars_dropSpaces cs, hsplit, camelChars_append_spaces true _ _ hsp]

example : camelCase "sys_enter_open" = "SysEnterOpen" := by decide
example : camelCase "__syscall_nr" = "SyscallNr" := by decide

end SyscallTrace.Schema
