import Mathlib

/-! # Lists with each entry once

Of entries that are related only the first is kept. Where entries are related that agree in some
respect, what is left has as many entries as there are values in that respect.
-/
namespace RestScaffold

section Erasing
variable {α : Type} {r : α → α → Bool} {xs : List α} {x : α}

theorem mem_of_mem_eraseDupsBy (h : x ∈ xs.eraseDupsBy r) : x ∈ xs := by
  induction hn : xs.length using Nat.strong_induction_on generalizing xs with
  | _ n ih =>
    cases xs with
    | nil => exact h
    | cons y rest =>
      subst hn
      rw [List.eraseDupsBy_cons] at h
      rcases List.mem_cons.mp h with rfl | h
      · exact List.mem_cons_self
      · have hlt := Nat.lt_succ_of_le (List.length_filter_le (fun b => decide (r b y = false)) rest)
        exact List.mem_cons_of_mem y (List.mem_filter.mp (ih _ hlt h rfl)).1

theorem exists_mem_eraseDupsBy (hr : ∀ x, r x x = true) (h : x ∈ xs) :
    ∃ y ∈ xs.eraseDupsBy r, r x y = true := by
  induction hn : xs.length using Nat.strong_induction_on generalizing xs with
  | _ n ih =>
    cases xs with
    | nil => exact absurd h List.not_mem_nil
    | cons y rest =>
      subst hn
      rw [List.eraseDupsBy_cons]
      cases hxy : r x y with
      | true => exact ⟨y,List.mem_cons_self,hxy⟩
      | false =>
        have hrest : x ∈ rest := by
          rcases List.mem_cons.mp h with rfl | h
          · exact absurd ((hr x).symm.trans hxy) Bool.noConfusion
          · exact h
        have hlt := Nat.lt_succ_of_le (List.length_filter_le (fun b => decide (r b y = false)) rest)
        obtain ⟨z,hz,hxz⟩ := ih _ hlt (List.mem_filter.mpr ⟨hrest,decide_eq_true hxy⟩) rfl
        exact ⟨z,List.mem_cons_of_mem y hz,hxz⟩

theorem eraseDupsBy_map {β : Type} [BEq α] {f : α → β} {r : β → β → Bool}
    (h : ∀ x ∈ xs, ∀ y ∈ xs, r (f x) (f y) = (x == y)) :
    (xs.map f).eraseDupsBy r = xs.eraseDups.map f := by
  induction hn : xs.length using Nat.strong_induction_on generalizing xs with
  | _ n ih =>
    cases xs with
    | nil => rfl
    | cons y rest =>
      subst hn
      have hfilter : rest.filter ((fun b => decide (r b (f y) = false)) ∘ f) =
          rest.filter fun b => !b == y := by
        refine List.filter_congr ?_
        intro x hx
        rw [Function.comp_apply, h x (List.mem_cons_of_mem y hx) y List.mem_cons_self]
        cases x == y <;> rfl
      have hlt := Nat.lt_succ_of_le (List.length_filter_le (fun b => !b == y) rest)
      rw [List.map_cons, List.eraseDupsBy_cons, List.eraseDups_cons, List.map_cons,
        List.filter_map, hfilter]
      refine congrArg (f y :: ·) (ih _ hlt ?_ rfl)
      intro x hx z hz
      exact h x (List.mem_cons_of_mem y (List.mem_filter.mp hx).1) z
        (List.mem_cons_of_mem y (List.mem_filter.mp hz).1)

end Erasing

section Counting
variable {α β : Type} [BEq β] [LawfulBEq β]

theorem nodup_eraseDups (xs : List β) : xs.eraseDups.Nodup := by
  induction hn : xs.length using Nat.strong_induction_on generalizing xs with
  | _ n ih =>
    cases xs with
    | nil => simp
    | cons y rest =>
      subst hn
      have hlt := Nat.lt_succ_of_le (List.length_filter_le (fun b => !b == y) rest)
      rw [List.eraseDups_cons, List.nodup_cons]
      exact ⟨by simp,ih _ hlt _ rfl⟩

theorem length_eraseDups [DecidableEq β] (xs : List β) :
    xs.eraseDups.length = xs.toFinset.card := by
  rw [← List.toFinset_card_of_nodup (nodup_eraseDups xs)]
  congr 1
  ext x
  simp

theorem length_eraseDups_eq_iff {xs : List β} : xs.eraseDups.length = xs.length ↔ xs.Nodup := by
  classical
  rw [length_eraseDups, ← Multiset.coe_nodup, ← Multiset.toFinset_card_eq_card_iff_nodup]
  rfl

omit [LawfulBEq β] in
theorem map_eraseDupsBy {f : α → β} {r : α → α → Bool} (h : ∀ x y, r x y = (f x == f y))
    (xs : List α) : (xs.eraseDupsBy r).map f = (xs.map f).eraseDups := by
  induction hn : xs.length using Nat.strong_induction_on generalizing xs with
  | _ n ih =>
    cases xs with
    | nil => rfl
    | cons y rest =>
      subst hn
      have hlt := Nat.lt_succ_of_le (List.length_filter_le (fun b => decide (r b y = false)) rest)
      have hfilter : (rest.filter fun b => decide (r b y = false)).map f =
          (rest.map f).filter fun b => !b == f y := by
        rw [List.filter_map]
        congr 1
        refine List.filter_congr ?_
        intro x _
        rw [Function.comp_apply, h]
        cases f x == f y <;> rfl
      rw [List.eraseDupsBy_cons, List.map_cons, List.map_cons, List.eraseDups_cons, ← hfilter,
        ih _ hlt _ rfl]

end Counting
end RestScaffold
