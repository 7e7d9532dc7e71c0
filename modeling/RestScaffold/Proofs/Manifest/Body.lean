import RestScaffold.Manifest.Read
import RestScaffold.Proofs.Sequencing

/-! # Bodies that declare schemas

A body declares a schema exactly if it is a table of the right shape whose fields differ in snake
case, and the schema it declares is the one that is read from it. Of several models the first one
whose body declares none is to blame.
-/
namespace RestScaffold
open Toml

/-- A value that is a text. -/
def Toml.Value.text (s : String) : Value := .scalar (.string s)

section Lookups
variable {entries : List (String × Value)} {key : String}

theorem strayKey?_eq_none_iff {known : List String} :
    strayKey? known entries = none ↔ ∀ e ∈ entries, e.1 ∈ known := by
  simp [strayKey?, List.find?_eq_none]

theorem textUnder_eq_ok_iff {t : Option String} :
    textUnder key entries = .ok t ↔ entries.lookup key = t.map Value.text := by
  unfold textUnder
  split
  · rename_i hl
    cases t with
    | none => simp [hl]
    | some t => simp [hl]
  · rename_i s hl
    cases t with
    | none => simp [hl]
    | some t => simp [hl, Value.text]
  · rename_i value hne hl
    cases t with
    | none => simp [hl]
    | some t =>
      have hvalue : value ≠ Value.text t := hne t
      simp [hl, hvalue]

theorem tableUnder_eq (entries : List (String × Value)) :
    tableUnder entries = (textUnder "table" entries).mapError fun _ => .tableNotString := by
  unfold tableUnder textUnder
  cases entries.lookup "table" with
  | none => rfl
  | some value =>
    cases value with
    | scalar s => cases s <;> rfl
    | array items => rfl
    | table inner => rfl

theorem fieldsUnder_eq_ok_iff {items : List Value} :
    fieldsUnder entries = .ok items ↔ entries.lookup "fields" = some (.array items) := by
  unfold fieldsUnder
  split
  · rename_i hl
    simp [hl]
  · rename_i held hl
    simp [hl]
  · rename_i value hne hl
    have hvalue : value ≠ .array items := hne items
    simp [hl, hvalue]

end Lookups

theorem FieldType.mem_all (t : FieldType) : t ∈ FieldType.all := by
  cases t <;> decide

/-- No name stands for two types. -/
theorem FieldType.eq_of_mem_aliases {t u : FieldType} {name : String} (ht : name ∈ t.aliases)
    (hu : name ∈ u.aliases) : t = u := by
  have hall : ∀ t ∈ FieldType.all, ∀ u ∈ FieldType.all, ∀ name ∈ t.aliases,
      name ∈ u.aliases → t = u := by decide
  exact hall t t.mem_all u u.mem_all name ht hu

theorem FieldType.mem_aliases_of_ofName? {s : String} {t : FieldType}
    (h : FieldType.ofName? s = some t) : FieldType.normalName s ∈ t.aliases := by
  unfold FieldType.ofName? at h
  simpa using List.find?_some h

theorem FieldType.ofName?_eq_some_iff {s : String} {t : FieldType} :
    FieldType.ofName? s = some t ↔ FieldType.normalName s ∈ t.aliases := by
  refine ⟨FieldType.mem_aliases_of_ofName?,?_⟩
  intro h
  cases hu : FieldType.ofName? s with
  | none =>
    unfold FieldType.ofName? at hu
    exact absurd h (by simpa using List.find?_eq_none.mp hu t t.mem_all)
  | some u => rw [FieldType.eq_of_mem_aliases h (FieldType.mem_aliases_of_ofName? hu)]

/-- The entries of a table that declares a field. An empty tag is as good as none. -/
structure FieldEntries (entries : List (String × Value)) (f : Field) : Prop where
  keys : ∀ e ∈ entries, e.1 ∈ fieldKeys
  name : entries.lookup "name" = some (.text f.name)
  type : ∃ s, entries.lookup "type" = some (.text s) ∧ FieldType.normalName s ∈ f.type.aliases
  tag : ∃ tag : Option String, entries.lookup "tag" = tag.map Value.text ∧
    f.tag = if tag.getD "" = "" then lowercase f.name else tag.getD ""

theorem declared_eq (name : String) (type : FieldType) (tag : Option String) :
    Field.declared name type tag =
      ⟨name,type,if tag.getD "" = "" then lowercase name else tag.getD ""⟩ := by
  cases tag with
  | none => rfl
  | some t =>
    by_cases ht : t = ""
    · subst ht
      rfl
    · simp [Field.declared, Field.withTag, Field.untagged, ht]

theorem fieldOfEntries_eq_ok_iff {entries : List (String × Value)} {f : Field} :
    fieldOfEntries entries = .ok f ↔ FieldEntries entries f := by
  unfold fieldOfEntries
  cases hk : strayKey? fieldKeys entries with
  | some key =>
    constructor
    · intro h
      cases h
    · intro h
      rw [strayKey?_eq_none_iff.mpr h.keys] at hk
      cases hk
  | none =>
    simp only
    constructor
    · intro h
      obtain ⟨name,hname,h⟩ := bind_eq_ok_iff.mp h
      cases name with
      | none => cases h
      | some name =>
        obtain ⟨typeName,htype,h⟩ := bind_eq_ok_iff.mp h
        cases typeName with
        | none => cases h
        | some typeName =>
          cases ht : FieldType.ofName? typeName with
          | none =>
            simp only [ht] at h
            cases h
          | some type =>
            simp only [ht] at h
            obtain ⟨tag,htag,h⟩ := bind_eq_ok_iff.mp h
            obtain rfl := Except.ok.inj h
            rw [declared_eq]
            exact ⟨strayKey?_eq_none_iff.mp hk,textUnder_eq_ok_iff.mp hname,
              ⟨typeName,textUnder_eq_ok_iff.mp htype,FieldType.ofName?_eq_some_iff.mp ht⟩,
              ⟨tag,textUnder_eq_ok_iff.mp htag,rfl⟩⟩
    · rintro ⟨_,hname,⟨typeName,htype,halias⟩,⟨tag,hentry,htag⟩⟩
      have hname' : textUnder "name" entries = .ok (some f.name) := textUnder_eq_ok_iff.mpr hname
      have htype' : textUnder "type" entries = .ok (some typeName) :=
        textUnder_eq_ok_iff.mpr htype
      refine bind_eq_ok_iff.mpr ⟨some f.name,hname',bind_eq_ok_iff.mpr ⟨some typeName,htype',?_⟩⟩
      simp only [FieldType.ofName?_eq_some_iff.mpr halias]
      refine bind_eq_ok_iff.mpr ⟨tag,textUnder_eq_ok_iff.mpr hentry,?_⟩
      rw [declared_eq, ← htag]
      rfl

/-- A value that declares a field. -/
def DeclaresField (value : Value) (f : Field) : Prop :=
  ∃ entries, value = .table entries ∧ FieldEntries entries f

theorem fieldOf_eq_ok_iff {value : Value} {f : Field} :
    fieldOf value = .ok f ↔ DeclaresField value f := by
  unfold DeclaresField
  cases value with
  | scalar s => simp [fieldOf]
  | array items => simp [fieldOf]
  | table entries => simp [fieldOf, fieldOfEntries_eq_ok_iff]

theorem fieldsAfter_eq_ok_iff {before fields : List Field} {items : List Value} :
    fieldsAfter before items = .ok fields ↔ ∃ more, List.Forall₂ DeclaresField items more ∧
      more.Pairwise (fun f g => snakeCase f.name ≠ snakeCase g.name) ∧
      (∀ f ∈ before, ∀ g ∈ more, snakeCase f.name ≠ snakeCase g.name) ∧
      before ++ more = fields := by
  induction items generalizing before with
  | nil =>
    constructor
    · intro h
      exact ⟨[],.nil,.nil,by simp,(List.append_nil before).trans (Except.ok.inj h)⟩
    · rintro ⟨more,hm,_,_,rfl⟩
      cases hm
      rw [List.append_nil]
      rfl
  | cons value rest ih =>
    unfold fieldsAfter
    constructor
    · intro h
      obtain ⟨f,hf,h⟩ := bind_eq_ok_iff.mp h
      have hdeclares := fieldOf_eq_ok_iff.mp (mapError_eq_ok_iff.mp hf)
      by_cases hany : before.any (fun g => snakeCase g.name == snakeCase f.name) = true
      · rw [if_pos hany] at h
        cases h
      · rw [if_neg hany] at h
        obtain ⟨more,hmore,hpair,hall,rfl⟩ := ih.mp h
        have hbefore : ∀ g ∈ before, snakeCase g.name ≠ snakeCase f.name := by
          intro g hg he
          exact hany (List.any_eq_true.mpr ⟨g,hg,beq_iff_eq.mpr he⟩)
        obtain ⟨hpair,hall⟩ := pairwise_grown_iff.mp ⟨hbefore,hpair,hall⟩
        exact ⟨f :: more,.cons hdeclares hmore,hpair,hall,by simp⟩
    · rintro ⟨_,hmore,hpair,hall,rfl⟩
      cases hmore with
      | @cons _ f _ more hf hmore =>
        obtain ⟨hbefore,hgrown⟩ := pairwise_grown_iff.mpr ⟨hpair,hall⟩
        refine bind_eq_ok_iff.mpr ⟨f,mapError_eq_ok_iff.mpr (fieldOf_eq_ok_iff.mpr hf),?_⟩
        have hany : ¬ before.any (fun g => snakeCase g.name == snakeCase f.name) = true := by
          intro hany
          obtain ⟨g,hg,he⟩ := List.any_eq_true.mp hany
          exact hbefore g hg (beq_iff_eq.mp he)
        rw [if_neg hany]
        exact ih.mpr ⟨more,hmore,hgrown.1,hgrown.2,by simp⟩

/-- A body that declares a schema under a name. -/
structure DeclaresSchema (name : String) (body : Value) (s : Schema) : Prop where
  named : s.name = name
  body : ∃ entries items, body = .table entries ∧ (∀ e ∈ entries, e.1 ∈ bodyKeys) ∧
    entries.lookup "table" = s.table.map Value.text ∧
    entries.lookup "fields" = some (.array items) ∧ List.Forall₂ DeclaresField items s.fields
  distinct : s.fields.Pairwise fun f g => snakeCase f.name ≠ snakeCase g.name

theorem schemaOfEntries_eq_ok_iff {name : String} {entries : List (String × Value)} {s : Schema} :
    schemaOfEntries name entries = .ok s ↔ DeclaresSchema name (.table entries) s := by
  unfold schemaOfEntries
  cases hk : strayKey? bodyKeys entries with
  | some key =>
    constructor
    · intro h
      cases h
    · rintro ⟨_,⟨_,_,he,hkeys,_⟩,_⟩
      cases he
      rw [strayKey?_eq_none_iff.mpr hkeys] at hk
      cases hk
  | none =>
    simp only
    constructor
    · intro h
      obtain ⟨table,htable,h⟩ := bind_eq_ok_iff.mp h
      obtain ⟨items,hitems,h⟩ := bind_eq_ok_iff.mp h
      obtain ⟨fields,hfields,h⟩ := bind_eq_ok_iff.mp h
      obtain rfl := Except.ok.inj h
      obtain ⟨_,hdeclares,hpair,_,rfl⟩ := fieldsAfter_eq_ok_iff.mp hfields
      rw [tableUnder_eq, mapError_eq_ok_iff] at htable
      exact ⟨rfl,⟨entries,items,rfl,strayKey?_eq_none_iff.mp hk,textUnder_eq_ok_iff.mp htable,
        fieldsUnder_eq_ok_iff.mp hitems,hdeclares⟩,hpair⟩
    · rintro ⟨rfl,⟨_,items,he,_,htable,hitems,hdeclares⟩,hpair⟩
      cases he
      refine bind_eq_ok_iff.mpr ⟨s.table,?_,?_⟩
      · rw [tableUnder_eq, mapError_eq_ok_iff]
        exact textUnder_eq_ok_iff.mpr htable
      refine bind_eq_ok_iff.mpr ⟨items,fieldsUnder_eq_ok_iff.mpr hitems,?_⟩
      exact bind_eq_ok_iff.mpr ⟨s.fields,
        fieldsAfter_eq_ok_iff.mpr ⟨s.fields,hdeclares,hpair,by simp,by simp⟩,rfl⟩

theorem schemaOf_eq_ok_iff {name : String} {body : Value} {s : Schema} :
    schemaOf name body = .ok s ↔ DeclaresSchema name body s := by
  cases body with
  | table entries => rw [schemaOf, mapError_eq_ok_iff, schemaOfEntries_eq_ok_iff]
  | scalar value =>
    constructor
    · intro h
      cases h
    · rintro ⟨_,⟨_,_,he,_⟩,_⟩
      cases he
  | array items =>
    constructor
    · intro h
      cases h
    · rintro ⟨_,⟨_,_,he,_⟩,_⟩
      cases he

/-- The name that the entry of a field gives. -/
def NamesField (value : Value) (name : String) : Prop :=
  ∃ entries, value = .table entries ∧ entries.lookup "name" = some (.text name)

theorem DeclaresField.namesField_iff {value : Value} {f : Field} (h : DeclaresField value f)
    {name : String} : NamesField value name ↔ f.name = name := by
  obtain ⟨entries,rfl,_,hname,_⟩ := h
  constructor
  · rintro ⟨_,he,hother⟩
    cases he
    cases hname.symm.trans hother
    rfl
  · rintro rfl
    exact ⟨entries,rfl,hname⟩

end RestScaffold
