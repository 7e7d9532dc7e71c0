import Mathlib
import RestScaffold.Text.Identifier
import RestScaffold.Text.Lowercase
import RestScaffold.Text.Words

/-! # Identifiers under changes of case

An identifier is ASCII text, so lower case acts on it one character at a time: neither the final
sigma nor the tables above ASCII take part. Lower case and snake case therefore keep to the
characters of identifiers.
-/
namespace RestScaffold
open Unicode

/-- A statement on ASCII characters holds if it holds of the first 128 code points. -/
theorem ascii_induction {P : Char → Prop} (h : ∀ n < 128, P (Char.ofNat n)) {c : Char}
    (hc : c.toNat < 128) : P c :=
  Char.ofNat_toNat c ▸ h c.toNat hc

theorem continuesIdentifier_ascii {c : Char} (h : continuesIdentifier c = true) :
    c.toNat < 128 := by
  simp only [continuesIdentifier, Char.isAlphanum, Char.isAlpha, Char.isUpper, Char.isLower,
    Char.isDigit, Bool.or_eq_true, Bool.and_eq_true, decide_eq_true_eq, beq_iff_eq,
    UInt32.le_iff_toNat_le, ge_iff_le] at h
  rcases h with ((⟨_,h⟩ | ⟨_,h⟩) | ⟨_,h⟩) | rfl
  · exact Nat.lt_of_le_of_lt h (by decide)
  · exact Nat.lt_of_le_of_lt h (by decide)
  · exact Nat.lt_of_le_of_lt h (by decide)
  · decide

theorem continuesIdentifier_of_starts {c : Char} (h : startsIdentifier c = true) :
    continuesIdentifier c = true := by
  simp only [startsIdentifier, continuesIdentifier, Char.isAlphanum, Bool.or_eq_true] at h ⊢
  exact h.imp_left Or.inl

theorem continuesIdentifier_toLower {c : Char} (h : continuesIdentifier c = true) :
    continuesIdentifier c.toLower = true :=
  ascii_induction (P := fun c => continuesIdentifier c = true → continuesIdentifier c.toLower = true)
    (by decide) (continuesIdentifier_ascii h) h

theorem startsIdentifier_toLower {c : Char} (h : startsIdentifier c = true) :
    startsIdentifier c.toLower = true :=
  ascii_induction (P := fun c => startsIdentifier c = true → startsIdentifier c.toLower = true)
    (by decide) (continuesIdentifier_ascii (continuesIdentifier_of_starts h)) h

theorem toLower_ne_underscore {c : Char} (h : continuesIdentifier c = true) (hc : c ≠ '_') :
    c.toLower ≠ '_' :=
  ascii_induction (P := fun c => c ≠ '_' → c.toLower ≠ '_') (by decide)
    (continuesIdentifier_ascii h) hc

theorem isUpper_toLower {c : Char} (h : c.toNat < 128) : c.toLower.isUpper = false :=
  ascii_induction (P := fun c => c.toLower.isUpper = false) (by decide) h

theorem toLower_ascii {c : Char} (h : c.toNat < 128) : c.toLower.toNat < 128 :=
  ascii_induction (P := fun c => c.toLower.toNat < 128) (by decide) h

/-- Only the first 128 characters. -/
def Ascii (s : String) : Prop := ∀ c ∈ s.toList, c.toNat < 128

instance (s : String) : Decidable (Ascii s) := List.decidableBAll _ s.toList

theorem Ascii.append {s t : String} (hs : Ascii s) (ht : Ascii t) : Ascii (s ++ t) := by
  simpa only [Ascii, String.toList_append, List.forall_mem_append] using And.intro hs ht

/-- Only the characters of identifiers, in any number and order. -/
def IdentifierChars (s : String) : Prop := ∀ c ∈ s.toList, continuesIdentifier c = true

instance (s : String) : Decidable (IdentifierChars s) := List.decidableBAll _ s.toList

theorem IdentifierChars.ascii {s : String} (h : IdentifierChars s) : Ascii s :=
  fun c hc => continuesIdentifier_ascii (h c hc)

theorem IdentifierChars.append {s t : String} (hs : IdentifierChars s) (ht : IdentifierChars t) :
    IdentifierChars (s ++ t) := by
  intro c hc
  rw [String.toList_append] at hc
  rcases List.mem_append.mp hc with hc | hc
  · exact hs c hc
  · exact ht c hc

theorem IdentifierChars.notMem {s : String} (h : IdentifierChars s) {c : Char}
    (hc : continuesIdentifier c = false) : c ∉ s.toList := by
  intro hm
  rw [h c hm] at hc
  cases hc

theorem isIdentifier_iff {s : String} : isIdentifier s = true ↔
    ∃ c rest, s.toList = c :: rest ∧ startsIdentifier c = true ∧
      (∀ d ∈ rest, continuesIdentifier d = true) ∧ s ≠ "_" := by
  unfold isIdentifier
  cases h : s.toList with
  | nil => simp
  | cons c rest => simp [List.all_eq_true, and_assoc]

theorem isIdentifier_chars {s : String} (h : isIdentifier s = true) : IdentifierChars s := by
  obtain ⟨c,rest,hs,hc,hrest,_⟩ := isIdentifier_iff.mp h
  intro d hd
  rw [hs] at hd
  rcases List.mem_cons.mp hd with rfl | hd
  · exact continuesIdentifier_of_starts hc
  · exact hrest d hd

theorem isIdentifier_ne_empty {s : String} (h : isIdentifier s = true) : s ≠ "" := by
  rintro rfl
  revert h
  decide

theorem lowerAfter_ascii (before : List Char) {cs : List Char} (h : ∀ c ∈ cs, c.toNat < 128) :
    lowerAfter before cs = cs.map Char.toLower := by
  induction cs generalizing before with
  | nil => rfl
  | cons c rest ih =>
    have hc : c.toNat < 128 := h c List.mem_cons_self
    have hsigma : c ≠ 'Σ' := by
      rintro rfl
      revert hc
      decide
    rw [lowerAfter, if_neg hsigma, ih _ fun d hd => h d (List.mem_cons_of_mem c hd)]
    simp [lowerChar, hc]

theorem toList_lowercase {s : String} (h : Ascii s) :
    (lowercase s).toList = s.toList.map Char.toLower := by
  rw [lowercase, String.toList_ofList, lowerAfter_ascii [] h]

theorem Ascii.lowercase {s : String} (h : Ascii s) : Ascii (lowercase s) := by
  intro c hc
  rw [toList_lowercase h] at hc
  obtain ⟨d,hd,rfl⟩ := List.mem_map.mp hc
  exact toLower_ascii (h d hd)

theorem IdentifierChars.lowercase {s : String} (h : IdentifierChars s) :
    IdentifierChars (lowercase s) := by
  intro c hc
  rw [toList_lowercase h.ascii] at hc
  obtain ⟨d,hd,rfl⟩ := List.mem_map.mp hc
  exact continuesIdentifier_toLower (h d hd)

theorem Ascii.isUpper_lowercase {s : String} (h : Ascii s) :
    ∀ c ∈ (RestScaffold.lowercase s).toList, c.isUpper = false := by
  intro c hc
  rw [toList_lowercase h] at hc
  obtain ⟨d,hd,rfl⟩ := List.mem_map.mp hc
  exact isUpper_toLower (h d hd)

/-- An identifier in lower case is an identifier. -/
theorem isIdentifier_lowercase {s : String} (h : isIdentifier s = true) :
    isIdentifier (lowercase s) = true := by
  have hchars := isIdentifier_chars h
  obtain ⟨c,rest,hs,hc,hrest,hne⟩ := isIdentifier_iff.mp h
  have hl : (lowercase s).toList = c.toLower :: rest.map Char.toLower := by
    rw [toList_lowercase hchars.ascii, hs, List.map_cons]
  refine isIdentifier_iff.mpr ⟨_,_,hl,startsIdentifier_toLower hc,?_,?_⟩
  · intro d hd
    obtain ⟨e,he,rfl⟩ := List.mem_map.mp hd
    exact continuesIdentifier_toLower (hrest e he)
  · intro hlow
    have hcons : c.toLower :: rest.map Char.toLower = ['_'] := by rw [← hl, hlow]; rfl
    obtain ⟨hhead,htail⟩ := List.cons.inj hcons
    have hcu : c = '_' := by
      by_contra hc'
      exact toLower_ne_underscore (continuesIdentifier_of_starts hc) hc' hhead
    have hempty : rest = [] := List.map_eq_nil_iff.mp htail
    exact hne (String.toList_inj.mp (by rw [hs, hcu, hempty]; rfl))

end RestScaffold
