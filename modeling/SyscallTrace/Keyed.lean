/-!
# Keyed lists

A finite map kept as a list of key-value pairs with distinct keys. Setting a key replaces its
pair in place or appends a new one; erasing a key drops its pair. Only lookups are observed,
so the order of pairs carries no meaning.

## Results

* `get?_set`: after setting `k`, looking up `k'` gives the new value if `k' = k` and the old
  answer otherwise.
* `get?_erase`: after erasing `k`, `k` is absent and other keys are unchanged.
* `get?_eq_some_of_mem`: in a list whose keys are distinct, every pair is what its key finds.
* `nodup_keys_set`, `nodup_keys_erase`: setting and erasing keep the keys distinct.
-/

set_option autoImplicit false

namespace SyscallTrace.Keyed

variable {κ ν : Type} [DecidableEq κ]

/-- The value of key `k`. -/
def get? (xs : List (κ × ν)) (k : κ) : Option ν :=
  (xs.find? (·.1 = k)).map (·.2)

/-- `xs` with key `k` set to `v`: replaced in place, or appended. -/
def set : List (κ × ν) → κ → ν → List (κ × ν)
  | [], k, v => [(k, v)]
  | (k', v') :: rest, k, v => if k' = k then (k, v) :: rest else (k', v') :: set rest k v

/-- `xs` without key `k`. -/
def erase (xs : List (κ × ν)) (k : κ) : List (κ × ν) :=
  xs.filter (·.1 ≠ k)

@[simp] theorem get?_nil (k : κ) : get? ([] : List (κ × ν)) k = none := rfl

@[simp] theorem get?_cons (a : κ) (b : ν) (rest : List (κ × ν)) (k : κ) :
    get? ((a, b) :: rest) k = if a = k then some b else get? rest k := by
  by_cases h : a = k <;> simp [get?, h]

theorem get?_set (xs : List (κ × ν)) (k k' : κ) (v : ν) :
    get? (set xs k v) k' = if k = k' then some v else get? xs k' := by
  induction xs with
  | nil => simp [set]
  | cons p rest ih =>
    obtain ⟨a, b⟩ := p
    by_cases ha : a = k
    · subst ha
      by_cases h : a = k' <;> simp [set, h]
    · simp only [set, ha, if_false, get?_cons, ih]
      by_cases h1 : a = k' <;> by_cases h2 : k = k' <;> simp_all

theorem get?_erase (xs : List (κ × ν)) (k k' : κ) :
    get? (erase xs k) k' = if k = k' then none else get? xs k' := by
  induction xs with
  | nil => simp [erase]
  | cons p rest ih =>
    obtain ⟨a, b⟩ := p
    have ih' : get? (rest.filter (·.1 ≠ k)) k' = if k = k' then none else get? rest k' := ih
    by_cases ha : a = k
    · subst ha
      simp only [erase, List.filter_cons, ne_eq, not_true_eq_false, decide_false,
        Bool.false_eq_true, if_false, get?_cons]
      rw [ih']
      by_cases h : a = k' <;> simp [h]
    · simp only [erase, List.filter_cons, ne_eq, ha, not_false_eq_true, decide_true, if_true,
        get?_cons]
      rw [ih']
      by_cases h1 : a = k' <;> by_cases h2 : k = k' <;> simp_all

theorem mem_of_get?_eq_some {xs : List (κ × ν)} {k : κ} {v : ν} (h : get? xs k = some v) :
    (k, v) ∈ xs := by
  induction xs with
  | nil => simp at h
  | cons p rest ih =>
    obtain ⟨a, b⟩ := p
    rw [get?_cons] at h
    by_cases ha : a = k
    · rw [if_pos ha] at h
      cases h
      subst ha
      exact List.mem_cons_self
    · rw [if_neg ha] at h
      exact List.mem_cons_of_mem _ (ih h)

theorem get?_eq_some_of_mem {xs : List (κ × ν)} {k : κ} {v : ν} (hd : (xs.map (·.1)).Nodup)
    (h : (k, v) ∈ xs) : get? xs k = some v := by
  induction xs with
  | nil => cases h
  | cons p rest ih =>
    obtain ⟨a, b⟩ := p
    rw [List.map_cons, List.nodup_cons] at hd
    rw [get?_cons]
    rcases List.mem_cons.mp h with hp | hp
    · cases hp
      exact if_pos rfl
    · have hk : a ≠ k := by
        rintro rfl
        exact hd.1 (List.mem_map_of_mem (f := (·.1)) hp)
      rw [if_neg hk]
      exact ih hd.2 hp

theorem isSome_get? (xs : List (κ × ν)) (k : κ) :
    (get? xs k).isSome ↔ k ∈ xs.map (·.1) := by
  induction xs with
  | nil => simp
  | cons p rest ih =>
    obtain ⟨a, b⟩ := p
    rw [get?_cons, List.map_cons, List.mem_cons]
    by_cases ha : a = k
    · simp [ha]
    · rw [if_neg ha, ih]
      constructor
      · exact Or.inr
      · rintro (rfl | h)
        · exact absurd rfl ha
        · exact h

theorem mem_keys_set (xs : List (κ × ν)) (k : κ) (v : ν) (a : κ) :
    a ∈ (set xs k v).map (·.1) ↔ a = k ∨ a ∈ xs.map (·.1) := by
  induction xs with
  | nil => simp [set]
  | cons p rest ih =>
    obtain ⟨b, c⟩ := p
    by_cases hb : b = k
    · subst hb
      simp [set]
    · simp only [set, hb, if_false, List.map_cons, List.mem_cons, ih]
      constructor
      · rintro (h | h | h)
        · exact Or.inr (Or.inl h)
        · exact Or.inl h
        · exact Or.inr (Or.inr h)
      · rintro (h | h | h)
        · exact Or.inr (Or.inl h)
        · exact Or.inl h
        · exact Or.inr (Or.inr h)

theorem mem_set {xs : List (κ × ν)} {k : κ} {v : ν} {p : κ × ν} (h : p ∈ set xs k v) :
    p = (k, v) ∨ p ∈ xs := by
  induction xs with
  | nil => simpa [set] using h
  | cons q rest ih =>
    obtain ⟨b, c⟩ := q
    by_cases hb : b = k
    · rw [set, if_pos hb] at h
      rcases List.mem_cons.mp h with h | h
      · exact Or.inl h
      · exact Or.inr (List.mem_cons_of_mem _ h)
    · rw [set, if_neg hb] at h
      rcases List.mem_cons.mp h with h | h
      · exact Or.inr (h ▸ List.mem_cons_self)
      · rcases ih h with h | h
        · exact Or.inl h
        · exact Or.inr (List.mem_cons_of_mem _ h)

theorem nodup_keys_set {xs : List (κ × ν)} (hd : (xs.map (·.1)).Nodup) (k : κ) (v : ν) :
    ((set xs k v).map (·.1)).Nodup := by
  induction xs with
  | nil => simp [set]
  | cons p rest ih =>
    obtain ⟨b, c⟩ := p
    rw [List.map_cons, List.nodup_cons] at hd
    by_cases hb : b = k
    · subst hb
      simpa [set] using hd
    · simp only [set, hb, if_false, List.map_cons, List.nodup_cons]
      refine ⟨?_, ih hd.2⟩
      rw [mem_keys_set]
      rintro (h | h)
      · exact hb h
      · exact hd.1 h

theorem set_ne_nil (xs : List (κ × ν)) (k : κ) (v : ν) : set xs k v ≠ [] := by
  cases xs with
  | nil => simp [set]
  | cons p rest =>
    unfold set
    split <;> simp

theorem mem_erase {xs : List (κ × ν)} {k : κ} {p : κ × ν} :
    p ∈ erase xs k ↔ p ∈ xs ∧ p.1 ≠ k := by
  simp [erase]

theorem nodup_keys_erase {xs : List (κ × ν)} (hd : (xs.map (·.1)).Nodup) (k : κ) :
    ((erase xs k).map (·.1)).Nodup :=
  hd.sublist (List.filter_sublist.map _)

end SyscallTrace.Keyed
