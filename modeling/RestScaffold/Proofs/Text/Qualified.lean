import RestScaffold.Proofs.Text.Identifier
import RestScaffold.Proofs.Text.Lines
import RestScaffold.Proofs.Text.Split

/-! # Qualified names

Identifiers with dots between them. As no identifier has a dot in it, a text is a qualified name in
one way at most, which is how it splits at its dots.
-/
namespace RestScaffold
variable {t : String}

/-- One identifier, or several with dots between them. -/
def Qualified (t : String) : Prop :=
  ∃ parts : List String, parts ≠ [] ∧ (∀ part ∈ parts, isIdentifier part = true) ∧
    t = String.intercalate "." parts

theorem qualified_iff : Qualified t ↔ (splitOnChar '.' t).all isIdentifier = true := by
  rw [List.all_eq_true]
  constructor
  · rintro ⟨parts,hne,hparts,rfl⟩
    have hdot : ∀ part ∈ parts, '.' ∉ part.toList := fun part hpart =>
      (isIdentifier_chars (hparts part hpart)).notMem (by decide)
    have hsplit : splitOnChar '.' (String.intercalate "." parts) = parts :=
      splitOnChar_intercalate hne hdot
    rwa [hsplit]
  · intro h
    exact ⟨_,splitOnChar_ne_nil '.' t,h,(intercalate_splitOnChar '.' t).symm⟩

instance (t : String) : Decidable (Qualified t) := decidable_of_iff _ qualified_iff.symm

/-- Without dots a qualified name is an identifier. -/
theorem IdentifierChars.qualified_iff (h : IdentifierChars t) :
    Qualified t ↔ isIdentifier t = true := by
  have hdot : '.' ∉ t.toList := h.notMem (by decide)
  rw [RestScaffold.qualified_iff, splitOnChar_of_notMem hdot]
  simp

theorem Qualified.forall_mem {P : Char → Prop} (h : Qualified t) (hdot : P '.')
    (hchar : ∀ c, continuesIdentifier c = true → P c) : ∀ c ∈ t.toList, P c := by
  obtain ⟨parts,_,hparts,rfl⟩ := h
  have hsep : ∀ c ∈ ".".toList, P c := by
    intro c hc
    rwa [List.mem_singleton.mp hc]
  refine forall_mem_intercalate hsep ?_
  intro part hpart c hc
  exact hchar c (isIdentifier_chars (hparts part hpart) c hc)

end RestScaffold
