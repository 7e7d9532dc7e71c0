/-! # Values under keys

Lists of pairs in which a key keeps the place of its first mention.
-/
namespace RestScaffold
variable {κ ν : Type} [DecidableEq κ]

/-- The value under a key is replaced in its place, and a new key goes to the end. -/
def putKey (key : κ) (value : ν) : List (κ × ν) → List (κ × ν)
  | [] => [(key, value)]
  | entry :: rest => if entry.1 = key then (key, value) :: rest else entry :: putKey key value rest

variable [BEq κ] [LawfulBEq κ]

@[simp] theorem lookup_putKey_self (key : κ) (value : ν) (l : List (κ × ν)) :
    (putKey key value l).lookup key = some value := by
  induction l with
  | nil => simp [putKey]
  | cons entry rest ih =>
    obtain ⟨k, v⟩ := entry
    by_cases h : k = key
    · simp [putKey, h]
    · have hne : (key == k) = false := by simpa using Ne.symm h
      simp [putKey, h, List.lookup_cons, hne, ih]

theorem lookup_putKey_of_ne {key other : κ} (value : ν) (l : List (κ × ν)) (h : other ≠ key) :
    (putKey key value l).lookup other = l.lookup other := by
  have hne : (other == key) = false := by simpa using h
  induction l with
  | nil => simp [putKey, List.lookup_cons, hne]
  | cons entry rest ih =>
    obtain ⟨k, v⟩ := entry
    by_cases hk : k = key
    · simp [putKey, hk, List.lookup_cons, hne]
    · simp [putKey, hk, List.lookup_cons, ih]

end RestScaffold
