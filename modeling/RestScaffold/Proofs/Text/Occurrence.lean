import Mathlib
import RestScaffold.Text.Occurrence

/-! # The first place of a pattern

Looking for a pattern finds the first place where it stands in a text, and answers with the number
of bytes in front of it.
-/
namespace RestScaffold

/-- The number of bytes in front of a place determines what stands there. -/
theorem append_inj_of_utf8ByteSize {front front' back back' : String}
    (h : front ++ back = front' ++ back') (hsize : front.utf8ByteSize = front'.utf8ByteSize) :
    front = front' ∧ back = back' := by
  have hbytes := congrArg String.toByteArray h
  rw [String.toByteArray_append, String.toByteArray_append] at hbytes
  obtain rfl := String.toByteArray_inj.mp (ByteArray.append_inj_left hbytes hsize)
  exact ⟨rfl,(String.append_right_inj front).mp h⟩

/-- A pattern that does not stand at the first character stands among the others. -/
theorem cons_eq_between_iff {pattern : List Char} {c : Char} {rest front back : List Char}
    (h : ¬ pattern <+: c :: rest) : c :: rest = front ++ pattern ++ back ↔
      ∃ others, front = c :: others ∧ rest = others ++ pattern ++ back := by
  constructor
  · intro hsplit
    cases front with
    | nil => exact absurd ⟨back,hsplit.symm⟩ h
    | cons d others =>
      obtain ⟨rfl,hrest⟩ := List.cons.inj hsplit
      exact ⟨others,rfl,hrest⟩
  · rintro ⟨others,rfl,rfl⟩
    rfl

theorem occurrenceFrom_eq_some_iff {pattern : List Char} {start offset : Nat} {cs : List Char} :
    occurrenceFrom pattern start cs = some offset ↔ ∃ front back, cs = front ++ pattern ++ back ∧
      (∀ front' back', cs = front' ++ pattern ++ back' → front.length ≤ front'.length) ∧
      offset = start + String.utf8Len front := by
  induction cs generalizing start with
  | nil =>
    rw [occurrenceFrom, Option.ite_none_right_eq_some, List.isEmpty_iff, Option.some_inj]
    constructor
    · rintro ⟨rfl,rfl⟩
      exact ⟨[],[],rfl,fun _ _ _ => Nat.zero_le _,rfl⟩
    · rintro ⟨front,back,hsplit,_,rfl⟩
      obtain ⟨hfront,_⟩ := List.append_eq_nil_iff.mp hsplit.symm
      obtain ⟨rfl,rfl⟩ := List.append_eq_nil_iff.mp hfront
      exact ⟨rfl,rfl⟩
  | cons c rest ih =>
    rw [occurrenceFrom]
    by_cases hhere : pattern <+: c :: rest
    · rw [if_pos (List.isPrefixOf_iff_prefix.mpr hhere), Option.some_inj]
      obtain ⟨after,hafter⟩ := hhere
      constructor
      · rintro rfl
        exact ⟨[],after,hafter.symm,fun _ _ _ => Nat.zero_le _,rfl⟩
      · rintro ⟨front,back,_,hfirst,rfl⟩
        obtain rfl := List.eq_nil_of_length_eq_zero (Nat.le_zero.mp (hfirst [] after hafter.symm))
        rfl
    · rw [if_neg (mt List.isPrefixOf_iff_prefix.mp hhere), ih]
      constructor
      · rintro ⟨front,back,rfl,hfirst,rfl⟩
        refine ⟨c :: front,back,rfl,?_,by rw [String.utf8Len_cons]; omega⟩
        intro front' back' hsplit
        obtain ⟨others,rfl,hrest⟩ := (cons_eq_between_iff hhere).mp hsplit
        exact Nat.succ_le_succ (hfirst others back' hrest)
      · rintro ⟨front,back,hsplit,hfirst,rfl⟩
        obtain ⟨others,rfl,hrest⟩ := (cons_eq_between_iff hhere).mp hsplit
        refine ⟨others,back,hrest,?_,by rw [String.utf8Len_cons]; omega⟩
        intro front' back' hrest'
        have hlater := (cons_eq_between_iff hhere).mpr ⟨front',rfl,hrest'⟩
        exact Nat.le_of_succ_le_succ (hfirst (c :: front') back' hlater)

theorem occurrenceFrom_eq_none_iff {pattern : List Char} {start : Nat} {cs : List Char} :
    occurrenceFrom pattern start cs = none ↔ ¬ pattern <:+: cs := by
  induction cs generalizing start with
  | nil => simp [occurrenceFrom]
  | cons c rest ih =>
    rw [occurrenceFrom, List.infix_cons_iff, not_or, ← @ih (start + c.utf8Size)]
    by_cases hhere : pattern <+: c :: rest
    · simp [hhere]
    · simp [hhere]

def OccursIn (pattern source : String) : Prop := ∃ front back, source = front ++ pattern ++ back

/-- The pattern stands between the two, and nowhere before. -/
structure FirstBetween (source pattern front back : String) : Prop where
  split : source = front ++ pattern ++ back
  first : ∀ front' back', source = front' ++ pattern ++ back' → front.length ≤ front'.length

variable {source pattern : String}

theorem occursIn_iff_infix : OccursIn pattern source ↔ pattern.toList <:+: source.toList := by
  constructor
  · rintro ⟨front,back,rfl⟩
    exact ⟨front.toList,back.toList,by simp⟩
  · rintro ⟨front,back,h⟩
    exact ⟨String.ofList front,String.ofList back,String.toList_inj.mp (by simp [← h])⟩

theorem occurrence_eq_none_iff : occurrence source pattern = none ↔ ¬ OccursIn pattern source := by
  rw [occurrence, occurrenceFrom_eq_none_iff, occursIn_iff_infix]

theorem occurrence_eq_some_iff {offset : Nat} : occurrence source pattern = some offset ↔
    ∃ front back, FirstBetween source pattern front back ∧ offset = front.utf8ByteSize := by
  rw [occurrence, occurrenceFrom_eq_some_iff]
  constructor
  · rintro ⟨front,back,hsplit,hfirst,rfl⟩
    refine ⟨String.ofList front,String.ofList back,⟨?_,?_⟩,?_⟩
    · exact String.toList_inj.mp (by simpa using hsplit)
    · intro front' back' h
      rw [String.length_ofList, ← String.length_toList]
      exact hfirst front'.toList back'.toList (by simp [h])
    · rw [Nat.zero_add, String.utf8ByteSize_ofList]
  · rintro ⟨front,back,⟨hsplit,hfirst⟩,rfl⟩
    refine ⟨front.toList,back.toList,by simp [hsplit],?_,by rw [String.utf8Len_toList, Nat.zero_add]⟩
    intro front' back' h
    have hle := hfirst (String.ofList front') (String.ofList back')
      (String.toList_inj.mp (by simpa using h))
    rwa [String.length_ofList, ← String.length_toList] at hle

end RestScaffold
