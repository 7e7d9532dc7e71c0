import Mathlib

/-! # Steps that can fail

What the success of a sequence of steps says about each of them, and how lists agree whose entries
are related one by one.
-/
namespace RestScaffold
variable {ε α β : Type}

theorem bind_eq_ok_iff {x : Except ε α} {f : α → Except ε β} {b : β} :
    (x >>= f) = .ok b ↔ ∃ a, x = .ok a ∧ f a = .ok b := by
  cases x with
  | error e =>
    constructor
    · intro h
      cases h
    · rintro ⟨a,ha,_⟩
      cases ha
  | ok a =>
    constructor
    · intro h
      exact ⟨a,rfl,h⟩
    · rintro ⟨a',ha,hb⟩
      cases ha
      exact hb

theorem bind_eq_error_iff {x : Except ε α} {f : α → Except ε β} {e : ε} :
    (x >>= f) = .error e ↔ x = .error e ∨ ∃ a, x = .ok a ∧ f a = .error e := by
  cases x with
  | error e' =>
    constructor
    · intro h
      cases h
      exact Or.inl rfl
    · rintro (h | ⟨a,ha,_⟩)
      · cases h
        rfl
      · cases ha
  | ok a =>
    constructor
    · intro h
      exact Or.inr ⟨a,rfl,h⟩
    · rintro (h | ⟨a',ha,hf⟩)
      · cases h
      · cases ha
        exact hf

theorem mapError_eq_ok_iff {ε' : Type} {x : Except ε α} {g : ε → ε'} {a : α} :
    x.mapError g = .ok a ↔ x = .ok a := by
  cases x with
  | error e => simp [Except.mapError]
  | ok a' => simp [Except.mapError]

/-- A list of steps succeeds exactly if each step does, and gives their results in order. -/
theorem mapM_eq_ok_iff {f : α → Except ε β} {xs : List α} {ys : List β} :
    xs.mapM f = .ok ys ↔ List.Forall₂ (fun x y => f x = .ok y) xs ys := by
  induction xs generalizing ys with
  | nil =>
    rw [List.mapM_nil, List.forall₂_nil_left_iff]
    exact ⟨fun h => (Except.ok.inj h).symm, fun h => h ▸ rfl⟩
  | cons x xs ih =>
    rw [List.mapM_cons, bind_eq_ok_iff, List.forall₂_cons_left_iff]
    constructor
    · rintro ⟨y,hy,h⟩
      obtain ⟨rest,hrest,he⟩ := bind_eq_ok_iff.mp h
      cases he
      exact ⟨y,rest,hy,ih.mp hrest,rfl⟩
    · rintro ⟨y,rest,hy,hrest,rfl⟩
      exact ⟨y,hy,bind_eq_ok_iff.mpr ⟨rest,ih.mpr hrest,rfl⟩⟩

/-- A list of steps fails as the first step does that fails. -/
theorem mapM_eq_error_iff {f : α → Except ε β} {xs : List α} {e : ε} :
    xs.mapM f = .error e ↔ ∃ front x back, xs = front ++ x :: back ∧
      (∀ earlier ∈ front, ∃ y, f earlier = .ok y) ∧ f x = .error e := by
  induction xs with
  | nil =>
    rw [List.mapM_nil]
    constructor
    · intro h
      cases h
    · rintro ⟨front,x,back,h,_⟩
      simp at h
  | cons x xs ih =>
    rw [List.mapM_cons, bind_eq_error_iff]
    constructor
    · rintro (h | ⟨y,hy,h⟩)
      · exact ⟨[],x,xs,rfl,fun _ hin => absurd hin List.not_mem_nil,h⟩
      · rcases bind_eq_error_iff.mp h with h | ⟨_,_,h⟩
        · obtain ⟨front,z,back,rfl,hfront,hz⟩ := ih.mp h
          exact ⟨x :: front,z,back,rfl,List.forall_mem_cons.mpr ⟨⟨y,hy⟩,hfront⟩,hz⟩
        · cases h
    · rintro ⟨front,z,back,h,hfront,hz⟩
      cases front with
      | nil =>
        obtain ⟨rfl,rfl⟩ := List.cons.inj h
        exact Or.inl hz
      | cons first front =>
        obtain ⟨rfl,rfl⟩ := List.cons.inj h
        obtain ⟨⟨y,hy⟩,hfront⟩ := List.forall_mem_cons.mp hfront
        refine Or.inr ⟨y,hy,bind_eq_error_iff.mpr (Or.inl ?_)⟩
        exact ih.mpr ⟨front,z,back,rfl,hfront,hz⟩

theorem forM_eq_ok_iff {f : α → Except ε Unit} {xs : List α} :
    xs.forM f = .ok () ↔ ∀ x ∈ xs, f x = .ok () := by
  induction xs with
  | nil => exact ⟨fun _ x hx => absurd hx List.not_mem_nil,fun _ => rfl⟩
  | cons x xs ih =>
    rw [List.forall_mem_cons, ← ih]
    refine bind_eq_ok_iff.trans ⟨?_,?_⟩
    · rintro ⟨_,hx,h⟩
      exact ⟨hx,h⟩
    · rintro ⟨hx,h⟩
      exact ⟨(),hx,h⟩

/-- One more entry goes with those before it, and the rest with all of these, exactly if it and the
rest go with each other and with those before. -/
theorem pairwise_grown_iff {r : α → α → Prop} {before rest : List α} {x : α} :
    (∀ a ∈ before, r a x) ∧ rest.Pairwise r ∧ (∀ a ∈ before ++ [x], ∀ b ∈ rest, r a b) ↔
      (x :: rest).Pairwise r ∧ ∀ a ∈ before, ∀ b ∈ x :: rest, r a b := by
  rw [List.pairwise_cons]
  constructor
  · rintro ⟨hx,hrest,hall⟩
    refine ⟨⟨fun b hb => hall x (by simp) b hb,hrest⟩,?_⟩
    intro a ha b hb
    rcases List.mem_cons.mp hb with rfl | hb
    · exact hx a ha
    · exact hall a (List.mem_append_left _ ha) b hb
  · rintro ⟨⟨hx,hrest⟩,hall⟩
    refine ⟨fun a ha => hall a ha x List.mem_cons_self,hrest,?_⟩
    intro a ha b hb
    rcases List.mem_append.mp ha with ha | ha
    · exact hall a ha b (List.mem_cons_of_mem x hb)
    · rw [List.mem_singleton.mp ha]
      exact hx b hb

theorem exists_of_mem_right {R : α → β → Prop} {xs : List α} {ys : List β}
    (h : List.Forall₂ R xs ys) {y : β} (hy : y ∈ ys) : ∃ x ∈ xs, R x y := by
  induction h with
  | nil => exact absurd hy List.not_mem_nil
  | @cons x _ xs _ hxy _ ih =>
    rcases List.mem_cons.mp hy with rfl | hy
    · exact ⟨x,List.mem_cons_self,hxy⟩
    · obtain ⟨x',hx',hr⟩ := ih hy
      exact ⟨x',List.mem_cons_of_mem x hx',hr⟩

variable {γ : Type} {R : α → β → Prop} {xs : List α} {ys : List β}

theorem forall_mem_iff_of_forall₂ {p : α → Prop} {q : β → Prop} (h : List.Forall₂ R xs ys)
    (hpq : ∀ x y, R x y → (p x ↔ q y)) : (∀ x ∈ xs, p x) ↔ ∀ y ∈ ys, q y := by
  induction h with
  | nil => exact ⟨fun _ y hy => absurd hy List.not_mem_nil,fun _ x hx => absurd hx List.not_mem_nil⟩
  | cons hxy _ ih => rw [List.forall_mem_cons, List.forall_mem_cons, hpq _ _ hxy, ih]

theorem pairwise_of_forall₂ {p : α → α → Prop} {q : β → β → Prop} (h : List.Forall₂ R xs ys)
    (hpq : ∀ x y x' y', R x y → R x' y' → q y y' → p x x') (hq : ys.Pairwise q) :
    xs.Pairwise p := by
  induction h with
  | nil => exact .nil
  | @cons x y xs ys hxy hrest ih =>
    obtain ⟨hy,hys⟩ := List.pairwise_cons.mp hq
    refine List.pairwise_cons.mpr ⟨?_,ih hys⟩
    intro x' hx'
    obtain ⟨y',hy',hr⟩ := exists_of_mem_right hrest.flip hx'
    exact hpq x y x' y' hxy hr (hy y' hy')

theorem pairwise_iff_of_forall₂ {p : α → α → Prop} {q : β → β → Prop} (h : List.Forall₂ R xs ys)
    (hpq : ∀ x y x' y', R x y → R x' y' → (p x x' ↔ q y y')) : xs.Pairwise p ↔ ys.Pairwise q :=
  ⟨pairwise_of_forall₂ h.flip fun _ _ _ _ hx hx' => (hpq _ _ _ _ hx hx').mp,
    pairwise_of_forall₂ h fun _ _ _ _ hx hx' => (hpq _ _ _ _ hx hx').mpr⟩

theorem map_eq_map_of_forall₂ {f : α → γ} {g : β → γ} (h : List.Forall₂ R xs ys)
    (hfg : ∀ x y, R x y → g y = f x) : ys.map g = xs.map f := by
  induction h with
  | nil => rfl
  | cons hxy _ ih => rw [List.map_cons, List.map_cons, hfg _ _ hxy, ih]

theorem find?_of_forall₂ {p : α → Bool} {q : β → Bool} {y : β} (h : List.Forall₂ R xs ys)
    (hpq : ∀ x y, R x y → q y = p x) (hy : ys.find? q = some y) :
    ∃ x, xs.find? p = some x ∧ R x y := by
  induction h with
  | nil => cases hy
  | @cons x y' _ _ hxy _ ih =>
    by_cases hp : p x = true
    · have hq : q y' = true := (hpq _ _ hxy).trans hp
      rw [List.find?_cons_of_pos hq] at hy
      exact ⟨x,List.find?_cons_of_pos hp,Option.some.inj hy ▸ hxy⟩
    · have hq : ¬ q y' = true := by rwa [hpq _ _ hxy]
      rw [List.find?_cons_of_neg hq] at hy
      rw [List.find?_cons_of_neg hp]
      exact ih hy

/-- What is found in one list stands at the place of its counterpart in the other. -/
theorem getElem?_findIdx_forall₂ {p : α → Bool} {q : β → Bool} {y : β} (h : List.Forall₂ R xs ys)
    (hpq : ∀ x y, R x y → q y = p x) (hy : ys.find? q = some y) :
    ys[xs.findIdx p]? = some y := by
  induction h with
  | nil => cases hy
  | @cons x y' _ _ hxy _ ih =>
    rw [List.find?_cons, hpq x y' hxy] at hy
    rw [List.findIdx_cons]
    cases hp : p x with
    | true =>
      rw [hp] at hy
      exact hy
    | false =>
      rw [hp] at hy
      exact ih hy

theorem exists_getElem?_of_forall₂ {i : Nat} {x : α} (h : List.Forall₂ R xs ys)
    (hx : xs[i]? = some x) : ∃ y, ys[i]? = some y ∧ R x y := by
  induction h generalizing i with
  | nil => simp at hx
  | @cons first y _ _ hxy _ ih =>
    cases i with
    | zero =>
      obtain rfl : first = x := by simpa using hx
      exact ⟨y,by simp,hxy⟩
    | succ i =>
      obtain ⟨y',hy',hr⟩ := ih (by simpa using hx)
      exact ⟨y',by simpa using hy',hr⟩

/-- Where each entry becomes two, these stand next to each other at twice its place. -/
theorem getElem?_flatMap_pair (f g : α → β) (xs : List α) (i : Nat) :
    (xs.flatMap fun x => [f x, g x])[2 * i]? = xs[i]?.map f ∧
      (xs.flatMap fun x => [f x, g x])[2 * i + 1]? = xs[i]?.map g := by
  induction xs generalizing i with
  | nil => simp
  | cons x xs ih =>
    cases i with
    | zero => simp
    | succ i =>
      have hdouble : 2 * (i + 1) = 2 * i + 1 + 1 := by omega
      rw [hdouble]
      simpa using ih i

theorem exists_of_forall₂_append_cons {front back : List α} {x : α}
    (h : List.Forall₂ R (front ++ x :: back) ys) : ∃ before y after,
      ys = before ++ y :: after ∧ R x y ∧ List.Forall₂ R back after := by
  induction front generalizing ys with
  | nil =>
    obtain ⟨y,after,hxy,hback,rfl⟩ := List.forall₂_cons_left_iff.mp h
    exact ⟨[],y,after,rfl,hxy,hback⟩
  | cons a front ih =>
    obtain ⟨b,rest,_,hrest,rfl⟩ := List.forall₂_cons_left_iff.mp h
    obtain ⟨before,y,after,rfl,hxy,hback⟩ := ih hrest
    exact ⟨b :: before,y,after,rfl,hxy,hback⟩

end RestScaffold
