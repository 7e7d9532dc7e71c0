import RestScaffold.Manifest.Read
import RestScaffold.Proofs.Text.Occurrence
import RestScaffold.Text.Identifier

/-! # What the label of a name is put under

The span of a name is found exactly if the name occurs in the text, and it always selects the name.
Where the name stands in a header or as a key at the start of a line, no word goes on across the ends
of the span. Elsewhere the span is that of the first occurrence, which may be a part of a longer word.
-/
namespace RestScaffold
variable {source name : String}

/-- The span of a name with this text in front. -/
def spanAfter (front name : String) : Span := ⟨front.utf8ByteSize, name.utf8ByteSize⟩

/-- The span lies in the text, begins and ends between characters, and selects the name. -/
structure Span.Selects (span : Span) (source name : String) : Prop where
  begins : String.Pos.Raw.IsValid source ⟨span.offset⟩
  ends : String.Pos.Raw.IsValid source ⟨span.offset + span.length⟩
  inside : span.offset + span.length ≤ source.utf8ByteSize
  bytes : source.toByteArray.extract span.offset (span.offset + span.length) = name.toByteArray

theorem selects_spanAfter (front name back : String) :
    (spanAfter front name).Selects (front ++ name ++ back) name := by
  have hsize : (front ++ name).utf8ByteSize = front.utf8ByteSize + name.utf8ByteSize :=
    String.utf8ByteSize_append
  refine ⟨?_,?_,?_,?_⟩
  · exact String.Pos.Raw.isValid_iff_exists_append.mpr ⟨front,name ++ back,String.append_assoc,rfl⟩
  · refine String.Pos.Raw.isValid_iff_exists_append.mpr ⟨front ++ name,back,rfl,?_⟩
    exact String.Pos.Raw.ext hsize.symm
  · rw [String.utf8ByteSize_append, hsize]
    exact Nat.le_add_right _ _
  · rw [String.append_assoc, String.toByteArray_append, String.toByteArray_append]
    exact (ByteArray.extract_append_size_add (i := 0)).trans (ByteArray.extract_append_eq_left rfl)

/-- The span of a name within the first place of a form, a text before it and one after it. -/
def formSpan (source name : String) (form : String × String) : Option Span :=
  (occurrence source (form.1 ++ name ++ form.2)).map fun offset =>
    ⟨offset + form.1.utf8ByteSize, name.utf8ByteSize⟩

theorem formSpan_eq_none_iff {form : String × String} :
    formSpan source name form = none ↔ ¬ OccursIn (form.1 ++ name ++ form.2) source := by
  rw [formSpan, Option.map_eq_none_iff, occurrence_eq_none_iff]

theorem formSpan_eq_some_iff {form : String × String} {span : Span} :
    formSpan source name form = some span ↔ ∃ front back,
      FirstBetween source (form.1 ++ name ++ form.2) front back ∧
      span = spanAfter (front ++ form.1) name := by
  rw [formSpan, Option.map_eq_some_iff]
  constructor
  · rintro ⟨_,hoffset,rfl⟩
    obtain ⟨front,back,hfirst,rfl⟩ := occurrence_eq_some_iff.mp hoffset
    exact ⟨front,back,hfirst,by rw [spanAfter, String.utf8ByteSize_append]⟩
  · rintro ⟨front,back,hfirst,rfl⟩
    refine ⟨_,occurrence_eq_some_iff.mpr ⟨front,back,hfirst,rfl⟩,?_⟩
    rw [spanAfter, String.utf8ByteSize_append]

/-- A name stands where it stands in a form. -/
theorem FirstBetween.split_name {form : String × String} {front back : String}
    (h : FirstBetween source (form.1 ++ name ++ form.2) front back) :
    source = (front ++ form.1) ++ name ++ (form.2 ++ back) := by
  rw [h.split]
  simp only [String.append_assoc]

theorem nameSpan_eq : nameSpan source name = nameSurroundings.findSome? (formSpan source name) := rfl

theorem nameSpan_isSome_iff : (nameSpan source name).isSome = true ↔ OccursIn name source := by
  rw [nameSpan_eq, List.findSome?_isSome_iff]
  constructor
  · rintro ⟨form,_,hform⟩
    obtain ⟨span,hspan⟩ := Option.isSome_iff_exists.mp hform
    obtain ⟨front,back,hfirst,_⟩ := formSpan_eq_some_iff.mp hspan
    exact ⟨front ++ form.1,form.2 ++ back,hfirst.split_name⟩
  · intro h
    refine ⟨("", ""),by simp [nameSurroundings],?_⟩
    rw [← Option.ne_none_iff_isSome, ne_eq, formSpan_eq_none_iff, not_not, String.empty_append,
      String.append_empty]
    exact h

/-- A name has a span if and only if it occurs in the text, and the span then lies in the text, on
boundaries of characters, and selects the bytes of the name. -/
theorem nameSpan_selects (source name : String) :
    ((nameSpan source name).isSome = true ↔ OccursIn name source) ∧
    ∀ span, nameSpan source name = some span → span.Selects source name := by
  refine ⟨nameSpan_isSome_iff,?_⟩
  intro span h
  rw [nameSpan_eq] at h
  obtain ⟨form,_,hform⟩ := List.exists_of_findSome?_eq_some h
  obtain ⟨front,back,hfirst,rfl⟩ := formSpan_eq_some_iff.mp hform
  rw [hfirst.split_name]
  exact selects_spanAfter _ _ _

/-- The name of a model behind characters of several bytes. -/
theorem japanese_selected :
    nameSpan "# é\n[models.日本]\n" "日本" = some ⟨13, 6⟩ ∧
    Span.Selects ⟨13, 6⟩ "# é\n[models.日本]\n" "日本" := by
  have hspan : nameSpan "# é\n[models.日本]\n" "日本" = some ⟨13, 6⟩ := by decide
  exact ⟨hspan,(nameSpan_selects _ _).2 _ hspan⟩

/-- No word goes on across the end of the one text or the start of the other. -/
def WordEdges (front back : String) : Prop :=
  (∀ c ∈ front.toList.getLast?, continuesIdentifier c = false) ∧
    ∀ c ∈ back.toList.head?, continuesIdentifier c = false

/-- The span is that of an occurrence of the name as a whole word. -/
def SelectsWord (source name : String) (span : Span) : Prop :=
  ∃ front back, source = front ++ name ++ back ∧ WordEdges front back ∧ span = spanAfter front name

theorem selectsWord_spanAfter_iff {front back : String} :
    SelectsWord (front ++ name ++ back) name (spanAfter front name) ↔ WordEdges front back := by
  constructor
  · rintro ⟨front',back',hsplit,hedges,hspan⟩
    rw [String.append_assoc, String.append_assoc] at hsplit
    obtain ⟨rfl,hrest⟩ := append_inj_of_utf8ByteSize hsplit (congrArg Span.offset hspan)
    rwa [(String.append_right_inj name).mp hrest]
  · intro hedges
    exact ⟨front,back,rfl,hedges,rfl⟩

/-- How a name is written in a header and as a key at the start of a line. -/
def declaringForms : List (String × String) := [(".", "]"), (".", "."), ("\n", " "), ("\n", "=")]

theorem wordEdges_of_declaring {form : String × String} (h : form ∈ declaringForms)
    (front back : String) : WordEdges (front ++ form.1) (form.2 ++ back) := by
  simp only [declaringForms, List.mem_cons, List.not_mem_nil, or_false] at h
  rcases h with rfl | rfl | rfl | rfl <;> simp [WordEdges, continuesIdentifier]

theorem nameSpan_eq_or : nameSpan source name =
    (declaringForms.findSome? (formSpan source name)).or (formSpan source name ("", "")) := by
  rw [nameSpan_eq, show nameSurroundings = declaringForms ++ [("", "")] from rfl,
    List.findSome?_append, List.findSome?_singleton]

theorem bareSpan_eq_some_iff {span : Span} : formSpan source name ("", "") = some span ↔
    ∃ front back, FirstBetween source name front back ∧ span = spanAfter front name := by
  rw [formSpan_eq_some_iff]
  simp only [String.empty_append, String.append_empty]

/-- The span of a name is that of a whole word if and only if the name stands in a header or as a
key at the start of a line, or is a whole word where it first occurs. -/
theorem nameSpan_selectsWord_iff (source name : String) :
    (∃ span, nameSpan source name = some span ∧ SelectsWord source name span) ↔
      (∃ form ∈ declaringForms, OccursIn (form.1 ++ name ++ form.2) source) ∨
        ∃ front back, FirstBetween source name front back ∧ WordEdges front back := by
  rw [nameSpan_eq_or]
  cases hdeclared : declaringForms.findSome? (formSpan source name) with
  | some span =>
    -- the form that is found has a delimiter on either side of the name
    obtain ⟨form,hmem,hform⟩ := List.exists_of_findSome?_eq_some hdeclared
    obtain ⟨front,back,hfirst,rfl⟩ := formSpan_eq_some_iff.mp hform
    constructor
    · intro _
      exact Or.inl ⟨form,hmem,front,back,hfirst.split⟩
    · intro _
      refine ⟨_,rfl,?_⟩
      rw [hfirst.split_name, selectsWord_spanAfter_iff]
      exact wordEdges_of_declaring hmem front back
  | none =>
    have hundeclared : ∀ form ∈ declaringForms, ¬ OccursIn (form.1 ++ name ++ form.2) source :=
      fun form hmem => formSpan_eq_none_iff.mp (List.findSome?_eq_none_iff.mp hdeclared form hmem)
    rw [Option.none_or]
    constructor
    · rintro ⟨_,hspan,hword⟩
      obtain ⟨front,back,hfirst,rfl⟩ := bareSpan_eq_some_iff.mp hspan
      rw [hfirst.split, selectsWord_spanAfter_iff] at hword
      exact Or.inr ⟨front,back,hfirst,hword⟩
    · rintro (⟨form,hmem,hform⟩ | ⟨front,back,hfirst,hedges⟩)
      · exact absurd hform (hundeclared form hmem)
      · refine ⟨_,bareSpan_eq_some_iff.mpr ⟨front,back,hfirst,rfl⟩,?_⟩
        rwa [hfirst.split, selectsWord_spanAfter_iff]

/-- Two models that clash, each an indented key. -/
def indentedModels : String := "[models]\n  Model = {}\n  model = {}\n"

theorem indentedModels_parse : Manifest.parse indentedModels =
    .error (.badName (.sameModule "Model" "model") (nameSpan indentedModels "model")) := by
  have hfault : (match Manifest.parse indentedModels with
      | .error fault => decide (fault = .badName (.sameModule "Model" "model")
          (nameSpan indentedModels "model"))
      | .ok _ => false) = true := by decide +kernel
  cases h : Manifest.parse indentedModels with
  | ok m =>
    rw [h] at hfault
    cases hfault
  | error fault =>
    rw [h] at hfault
    exact congrArg Except.error (of_decide_eq_true hfault)

/-- The name stands alone in its own line, but the label of the clash is put under a part of the word
in the header above. -/
theorem indentedModel_labelled_in_header :
    isIdentifier "model" = true ∧
    (∃ span, SelectsWord indentedModels "model" span) ∧
    nameSpan indentedModels "model" = some ⟨1, 5⟩ ∧
    ¬ SelectsWord indentedModels "model" ⟨1, 5⟩ ∧
    Manifest.parse indentedModels =
      .error (.badName (.sameModule "Model" "model") (some ⟨1, 5⟩)) := by
  have hspan : nameSpan indentedModels "model" = some ⟨1, 5⟩ := by decide
  have hheader : indentedModels = "[" ++ "model" ++ "s]\n  Model = {}\n  model = {}\n" := by decide
  have hown : indentedModels = "[models]\n  Model = {}\n  " ++ "model" ++ " = {}\n" := by decide
  refine ⟨by decide,⟨_,_,_,hown,?_,rfl⟩,hspan,?_,?_⟩
  · simp [WordEdges, continuesIdentifier]
  · intro hword
    rw [hheader] at hword
    have hedges := selectsWord_spanAfter_iff.mp hword
    exact absurd (hedges.2 's' rfl) (by decide)
  · rw [indentedModels_parse, hspan]

end RestScaffold
