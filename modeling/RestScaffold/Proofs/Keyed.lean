import RestScaffold.Keyed
import RestScaffold.Proofs.Distinct

/-! # Values that are put one after the other

The value under a key is the last one that was put there, and keys that are there already keep
their places. So values that are put once more leave a list as it is.
-/
namespace RestScaffold
variable {κ ν : Type} [DecidableEq κ] [BEq κ] [LawfulBEq κ] {key other : κ} {value : ν}

/-- Puts some values under their keys, one after the other. -/
def putAll (pairs : List (κ × ν)) (l : List (κ × ν)) : List (κ × ν) :=
  pairs.foldl (fun l p => putKey p.1 p.2 l) l

theorem putKey_of_lookup {l : List (κ × ν)} (h : l.lookup key = some value) :
    putKey key value l = l := by
  induction l with
  | nil => cases h
  | cons entry rest ih =>
    obtain ⟨k,v⟩ := entry
    by_cases hk : k = key
    · subst hk
      simp only [List.lookup_cons_self, Option.some.injEq] at h
      simp [putKey, h]
    · have hne : (key == k) = false := by simpa using Ne.symm hk
      simp only [List.lookup_cons, hne] at h
      simp [putKey, hk, ih h]

omit [BEq κ] [LawfulBEq κ] in
theorem putKey_putKey (first second : ν) (l : List (κ × ν)) :
    putKey key second (putKey key first l) = putKey key second l := by
  induction l with
  | nil => simp [putKey]
  | cons entry rest ih =>
    by_cases hk : entry.1 = key
    · simp [putKey, hk]
    · simp [putKey, hk, ih]

theorem putKey_comm {l : List (κ × ν)} (hne : other ≠ key) (h : l.lookup key ≠ none)
    (value later : ν) :
    putKey other later (putKey key value l) = putKey key value (putKey other later l) := by
  induction l with
  | nil => exact absurd rfl h
  | cons entry rest ih =>
    obtain ⟨k,v⟩ := entry
    by_cases hk : k = key
    · subst hk
      have hko : k ≠ other := Ne.symm hne
      simp [putKey, hko]
    · have hlookup : (key == k) = false := by simpa using Ne.symm hk
      simp only [List.lookup_cons, hlookup] at h
      by_cases ho : k = other
      · subst ho
        simp [putKey, hk]
      · simp [putKey, hk, ho, ih h]

theorem lookup_putKey_ne_none {l : List (κ × ν)} (h : l.lookup key ≠ none) :
    (putKey other value l).lookup key ≠ none := by
  by_cases he : key = other
  · rw [he, lookup_putKey_self]
    simp
  · rwa [lookup_putKey_of_ne value l he]

/-- A value that is going to be replaced need not be put. -/
theorem putAll_putKey_of_mem {pairs : List (κ × ν)} {l : List (κ × ν)}
    (hin : key ∈ pairs.map Prod.fst) (h : l.lookup key ≠ none) :
    putAll pairs (putKey key value l) = putAll pairs l := by
  induction pairs generalizing l with
  | nil => exact absurd hin List.not_mem_nil
  | cons p rest ih =>
    obtain ⟨k,v⟩ := p
    change putAll rest (putKey k v (putKey key value l)) = putAll rest (putKey k v l)
    by_cases hk : k = key
    · rw [hk, putKey_putKey]
    · have hrest : key ∈ rest.map Prod.fst := by
        rcases List.mem_cons.mp hin with he | hin
        · exact absurd he.symm hk
        · exact hin
      rw [putKey_comm hk h, ih hrest (lookup_putKey_ne_none h)]

omit [DecidableEq κ] in
theorem lookup_eq_none_iff_notMem {pairs : List (κ × ν)} :
    pairs.lookup key = none ↔ key ∉ pairs.map Prod.fst := by
  rw [List.lookup_eq_none_iff]
  constructor
  · intro h hin
    obtain ⟨p,hp,rfl⟩ := List.mem_map.mp hin
    exact bne_iff_ne.mp (h p hp) rfl
  · intro h p hp
    rw [bne_iff_ne]
    rintro rfl
    exact h (List.mem_map_of_mem hp)

omit [DecidableEq κ] in
theorem lookup_reverse_eq_none_iff {pairs : List (κ × ν)} :
    pairs.reverse.lookup key = none ↔ key ∉ pairs.map Prod.fst := by
  simp only [lookup_eq_none_iff_notMem, List.map_reverse, List.mem_reverse]

/-- The last value under a key counts, and without one what was there before. -/
theorem lookup_putAll (pairs l : List (κ × ν)) (key : κ) :
    (putAll pairs l).lookup key = (pairs.reverse.lookup key).or (l.lookup key) := by
  induction pairs generalizing l with
  | nil => rfl
  | cons p rest ih =>
    obtain ⟨k,v⟩ := p
    have hput : (putKey k v l).lookup key = ([(k,v)].lookup key).or (l.lookup key) := by
      by_cases hk : key = k
      · rw [hk, lookup_putKey_self]
        simp
      · have hne : (key == k) = false := by simpa using hk
        rw [lookup_putKey_of_ne v l hk]
        simp [List.lookup_cons, hne]
    change (putAll rest (putKey k v l)).lookup key = _
    rw [ih, hput, List.reverse_cons, List.lookup_append, Option.or_assoc]

omit [DecidableEq κ] [LawfulBEq κ] in
theorem lookup_map_fst {α : Type} (f : α → κ) (key : κ) (pairs : List (α × ν)) :
    (pairs.map fun p => (f p.1,p.2)).lookup key =
      (pairs.find? fun p => key == f p.1).map Prod.snd := by
  induction pairs with
  | nil => rfl
  | cons p rest ih =>
    rw [List.map_cons, List.lookup_cons, ih, List.find?_cons]
    cases key == f p.1 <;> rfl

/-- Values that are there already can be put again. -/
theorem putAll_eq_self {pairs : List (κ × ν)} {l : List (κ × ν)}
    (h : ∀ k v, pairs.reverse.lookup k = some v → l.lookup k = some v) : putAll pairs l = l := by
  induction pairs with
  | nil => rfl
  | cons p rest ih =>
    obtain ⟨k,v⟩ := p
    have hrest : putAll rest l = l := by
      refine ih ?_
      intro k' v' hl
      refine h k' v' ?_
      rw [List.reverse_cons, List.lookup_append, hl]
      rfl
    change putAll rest (putKey k v l) = l
    by_cases hin : k ∈ rest.map Prod.fst
    · have hpresent : l.lookup k ≠ none := by
        cases hl : rest.reverse.lookup k with
        | none => exact absurd hin (lookup_reverse_eq_none_iff.mp hl)
        | some v' =>
          have hlast := h k v' (by rw [List.reverse_cons, List.lookup_append, hl]; rfl)
          rw [hlast]
          simp
      rw [putAll_putKey_of_mem hin hpresent, hrest]
    · have hlast : l.lookup k = some v := by
        refine h k v ?_
        rw [List.reverse_cons, List.lookup_append, lookup_reverse_eq_none_iff.mpr hin]
        simp
      rw [putKey_of_lookup hlast, hrest]

section Keys

theorem map_fst_putKey (key : κ) (value : ν) (l : List (κ × ν)) : (putKey key value l).map Prod.fst =
    if key ∈ l.map Prod.fst then l.map Prod.fst else l.map Prod.fst ++ [key] := by
  induction l with
  | nil => simp [putKey]
  | cons entry rest ih =>
    obtain ⟨k,v⟩ := entry
    by_cases hk : k = key
    · simp [putKey, hk]
    · have hne : key ≠ k := Ne.symm hk
      simp only [putKey, if_neg hk, List.map_cons, ih, List.mem_cons, hne, false_or]
      split <;> rfl

omit [DecidableEq κ] in
theorem lookup_of_mem_of_nodup {l : List (κ × ν)} (h : (l.map Prod.fst).Nodup)
    (hin : (key,value) ∈ l) : l.lookup key = some value := by
  obtain ⟨front,back,rfl⟩ := List.append_of_mem hin
  simp only [List.map_append, List.map_cons, List.nodup_append, List.mem_map] at h
  have hfront : ∀ p ∈ front, key ≠ p.1 := by
    intro p hp he
    exact h.2.2 p.1 ⟨p,hp,rfl⟩ key List.mem_cons_self he.symm
  exact List.lookup_eq_some_iff.mpr ⟨front,back,rfl,by simpa using hfront⟩

theorem nodup_keys_putAll {l : List (κ × ν)} (h : (l.map Prod.fst).Nodup) (pairs : List (κ × ν)) :
    ((putAll pairs l).map Prod.fst).Nodup := by
  induction pairs generalizing l with
  | nil => exact h
  | cons p rest ih =>
    refine ih ?_
    rw [map_fst_putKey]
    split
    · exact h
    · rename_i hnew
      exact List.nodup_append_comm.mp (List.nodup_cons.mpr ⟨hnew,h⟩)

theorem toFinset_keys_putAll (pairs l : List (κ × ν)) : ((putAll pairs l).map Prod.fst).toFinset =
    (l.map Prod.fst).toFinset ∪ (pairs.map Prod.fst).toFinset := by
  induction pairs generalizing l with
  | nil => simp [putAll]
  | cons p rest ih =>
    have hput : ((putKey p.1 p.2 l).map Prod.fst).toFinset =
        insert p.1 (l.map Prod.fst).toFinset := by
      rw [map_fst_putKey]
      split
      · rename_i hin
        exact (Finset.insert_eq_of_mem (List.mem_toFinset.mpr hin)).symm
      · rw [List.toFinset_append, Finset.union_comm]
        rfl
    change ((putAll rest (putKey p.1 p.2 l)).map Prod.fst).toFinset = _
    rw [ih, hput, List.map_cons, List.toFinset_cons, Finset.insert_union, Finset.union_insert]

/-- There are as many values as there are keys, once each. -/
theorem length_putAll (pairs : List (κ × ν)) :
    (putAll pairs []).length = (pairs.map Prod.fst).eraseDups.length := by
  rw [length_eraseDups, ← List.length_map Prod.fst,
    ← List.toFinset_card_of_nodup (nodup_keys_putAll (l := []) List.nodup_nil pairs),
    toFinset_keys_putAll, List.map_nil, List.toFinset_nil, Finset.empty_union]

end Keys
end RestScaffold
