import RestScaffold.Proofs.Text.SnakeCase

/-! # Identifiers in lower case

An identifier without upper case letters is its own lower case. Lower case makes such an identifier
of any identifier, and so does snake case wherever it makes an identifier at all.
-/
namespace RestScaffold
open Unicode

/-- An identifier without upper case letters. -/
structure LowerIdentifier (s : String) : Prop where
  identifier : isIdentifier s = true
  no_upper : hasUppercase s = false

instance (s : String) : Decidable (LowerIdentifier s) :=
  decidable_of_iff (isIdentifier s = true ∧ hasUppercase s = false)
    ⟨fun h => ⟨h.1,h.2⟩,fun h => ⟨h.identifier,h.no_upper⟩⟩

theorem isUppercase_ascii {c : Char} (h : c.toNat < 128) : isUppercase c = c.isUpper := by
  rw [isUppercase, if_pos h]

theorem hasUppercase_eq_false_iff {s : String} (h : Ascii s) :
    hasUppercase s = false ↔ ∀ c ∈ s.toList, c.isUpper = false := by
  rw [hasUppercase, List.any_eq_false]
  constructor
  · intro hall c hc
    have hcase := hall c hc
    rwa [isUppercase_ascii (h c hc), Bool.not_eq_true] at hcase
  · intro hall c hc
    rw [isUppercase_ascii (h c hc), hall c hc]
    exact Bool.false_ne_true

theorem hasUppercase_lowercase {s : String} (h : Ascii s) :
    hasUppercase (lowercase s) = false :=
  (hasUppercase_eq_false_iff h.lowercase).mpr h.isUpper_lowercase

theorem hasUppercase_snakeCase {s : String} (h : IdentifierChars s) :
    hasUppercase (snakeCase s) = false := by
  refine (hasUppercase_eq_false_iff h.snakeCase.ascii).mpr ?_
  exact forall_mem_snakeCase h (by decide) fun c hc => isUpper_toLower (h.ascii c hc)

theorem toLower_of_not_upper {c : Char} (h : c.isUpper = false) : c.toLower = c := by
  rw [Char.toLower, dif_neg]
  simpa [Char.isUpper] using h

/-- Lower case has nothing to do where no character is in upper case. -/
theorem lowercase_of_not_upper {s : String} (h : Ascii s)
    (hlow : hasUppercase s = false) : lowercase s = s := by
  have hupper := (hasUppercase_eq_false_iff h).mp hlow
  rw [← String.toList_inj, toList_lowercase h]
  have hsame : ∀ c ∈ s.toList, c.toLower = c := fun c hc => toLower_of_not_upper (hupper c hc)
  exact (List.map_congr_left hsame).trans (List.map_id' _)

theorem lowercase_lowercase {s : String} (h : Ascii s) : lowercase (lowercase s) = lowercase s :=
  lowercase_of_not_upper h.lowercase (hasUppercase_lowercase h)

theorem lowerIdentifier_lowercase {s : String} (h : isIdentifier s = true) :
    LowerIdentifier (lowercase s) :=
  ⟨isIdentifier_lowercase h,hasUppercase_lowercase (isIdentifier_chars h).ascii⟩

theorem LowerIdentifier.lowercase_eq {s : String} (h : LowerIdentifier s) : lowercase s = s :=
  lowercase_of_not_upper (isIdentifier_chars h.identifier).ascii h.no_upper

end RestScaffold
