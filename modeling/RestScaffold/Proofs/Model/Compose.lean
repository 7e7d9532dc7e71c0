import RestScaffold.Model.Compose
import RestScaffold.Proofs.Sequencing

/-! # What a composed model says of its schema

Every slot of a model is tied to the schema and the policy it comes from. A schema becomes a model
exactly if all of these ties can be made, so nothing else about composition is needed later.
-/
namespace RestScaffold
variable {c : Convention} {policy : NamingPolicy} {s : Schema} {m : Model}

theorem identifierSlot_eq_ok_iff {slot : Slot} {value v : String} :
    identifierSlot slot value = .ok v ↔ isIdentifier value = true ∧ value = v := by
  unfold identifierSlot
  by_cases he : value = ""
  · subst he
    simp [isIdentifier]
  · by_cases hi : isIdentifier value = true
    · simp [he, hi]
    · simp [he, hi]

theorem usableSlot_eq_ok_iff {slot : Slot} {value : String} :
    usableSlot c slot value = .ok () ↔ c.isForbidden value = false := by
  unfold usableSlot
  cases c.isForbidden value <;> simp

theorem tableSlot_eq_ok_iff {value v : String} : tableSlot value = .ok v ↔
    value ≠ "" ∧ (splitOnChar '.' value).all isIdentifier = true ∧ value = v := by
  unfold tableSlot
  by_cases he : value = ""
  · simp [he]
  · by_cases hi : (splitOnChar '.' value).all isIdentifier = true
    · simp [he, hi]
    · simp [he, hi]

theorem literalSlot_eq_ok_iff {slot : Slot} {value v : String} : literalSlot slot value = .ok v ↔
    value ≠ "" ∧ value.toList.any breaksLiteral = false ∧ value = v := by
  unfold literalSlot
  by_cases he : value = ""
  · simp [he]
  · by_cases hb : value.toList.any breaksLiteral = true
    · simp [he, hb]
    · rw [Bool.not_eq_true] at hb
      simp [he, hb]

/-- What ties a field of a model to the field it was declared as. -/
structure FieldTies (c : Convention) (f : Field) (mf : ModelField) : Prop where
  name : mf.name = f.name
  type : mf.type = f.type
  tag : mf.tag = f.tag
  ident : mf.ident = c.fieldName f.name
  column : mf.column = c.columnName f.name
  name_identifier : isIdentifier f.name = true
  column_identifier : isIdentifier mf.column = true
  column_usable : c.isForbidden mf.column = false
  tag_ne_empty : f.tag ≠ ""
  tag_literal : f.tag.toList.any breaksLiteral = false

theorem ofField_eq_ok_iff {f : Field} {mf : ModelField} :
    ModelField.ofField c f = .ok mf ↔ FieldTies c f mf := by
  unfold ModelField.ofField
  constructor
  · intro h
    obtain ⟨_,hname,h⟩ := bind_eq_ok_iff.mp h
    obtain ⟨column,hcolumn,h⟩ := bind_eq_ok_iff.mp h
    obtain ⟨_,husable,h⟩ := bind_eq_ok_iff.mp h
    obtain ⟨tag,htag,h⟩ := bind_eq_ok_iff.mp h
    obtain ⟨hname,_⟩ := identifierSlot_eq_ok_iff.mp hname
    obtain ⟨hident,rfl⟩ := identifierSlot_eq_ok_iff.mp hcolumn
    obtain ⟨hempty,hliteral,rfl⟩ := literalSlot_eq_ok_iff.mp htag
    cases h
    exact ⟨rfl,rfl,rfl,rfl,rfl,hname,hident,usableSlot_eq_ok_iff.mp husable,hempty,hliteral⟩
  · intro h
    have hcolumn : isIdentifier (c.columnName f.name) = true := h.column ▸ h.column_identifier
    have husable : c.isForbidden (c.columnName f.name) = false := h.column ▸ h.column_usable
    refine bind_eq_ok_iff.mpr ⟨_,identifierSlot_eq_ok_iff.mpr ⟨h.name_identifier,rfl⟩,?_⟩
    refine bind_eq_ok_iff.mpr ⟨_,identifierSlot_eq_ok_iff.mpr ⟨hcolumn,rfl⟩,?_⟩
    refine bind_eq_ok_iff.mpr ⟨(),usableSlot_eq_ok_iff.mpr husable,?_⟩
    refine bind_eq_ok_iff.mpr ⟨_,literalSlot_eq_ok_iff.mpr ⟨h.tag_ne_empty,h.tag_literal,rfl⟩,?_⟩
    obtain ⟨hn,ht,hg,hi,hc,_⟩ := h
    cases mf
    simp only at hn ht hg hi hc
    subst hn ht hg hi hc
    rfl

/-- What ties a model to its schema and to the policy that named it. -/
structure ModelTies (policy : NamingPolicy) (c : Convention) (s : Schema) (m : Model) : Prop where
  name : m.name = s.name
  name_identifier : isIdentifier s.name = true
  table : Model.tableOf policy s = .ok m.tableName
  fields_ne_nil : s.fields ≠ []
  fields : List.Forall₂ (FieldTies c) s.fields m.fields
  identifier : m.fields.find? (fun f => isIdName f.name) = some m.identifier
  varName : m.varName = policy.varName s.name
  varNamePlural : m.varNamePlural = policy.varNamePlural s.name
  pathPlural : m.pathPlural = policy.pathSegment s.name
  varIdent : m.varIdent = c.safeName m.varName
  varIdentPlural : m.varIdentPlural = c.safeName m.varNamePlural
  varName_usable : c.isForbidden m.varName = false
  varNamePlural_usable : c.isForbidden m.varNamePlural = false

theorem mapM_ofField_eq_ok_iff {fs : List Field} {mfs : List ModelField} :
    fs.mapM (ModelField.ofField c) = .ok mfs ↔ List.Forall₂ (FieldTies c) fs mfs := by
  rw [mapM_eq_ok_iff]
  constructor
  · exact List.Forall₂.imp fun _ _ h => ofField_eq_ok_iff.mp h
  · exact List.Forall₂.imp fun _ _ h => ofField_eq_ok_iff.mpr h

/-- A schema becomes a model exactly if all their ties hold. -/
theorem ofSchema_eq_ok_iff : Model.ofSchema policy c s = .ok m ↔ ModelTies policy c s m := by
  unfold Model.ofSchema
  constructor
  · intro h
    obtain ⟨name,hname,h⟩ := bind_eq_ok_iff.mp h
    obtain ⟨table,htable,h⟩ := bind_eq_ok_iff.mp h
    obtain ⟨hident,rfl⟩ := identifierSlot_eq_ok_iff.mp hname
    by_cases hempty : s.fields.isEmpty = true
    · rw [if_pos hempty] at h
      cases h
    rw [if_neg hempty] at h
    obtain ⟨fields,hfields,h⟩ := bind_eq_ok_iff.mp h
    cases hfind : fields.find? (fun f => isIdName f.name) with
    | none =>
      rw [hfind] at h
      cases h
    | some identifier =>
      rw [hfind] at h
      obtain ⟨_,hvar,h⟩ := bind_eq_ok_iff.mp h
      obtain ⟨_,hplural,h⟩ := bind_eq_ok_iff.mp h
      cases h
      exact ⟨rfl,hident,htable,by simpa using hempty,mapM_ofField_eq_ok_iff.mp hfields,hfind,
        rfl,rfl,rfl,rfl,rfl,usableSlot_eq_ok_iff.mp hvar,usableSlot_eq_ok_iff.mp hplural⟩
  · intro h
    have hvar : c.isForbidden (policy.varName s.name) = false := h.varName ▸ h.varName_usable
    have hplural : c.isForbidden (policy.varNamePlural s.name) = false :=
      h.varNamePlural ▸ h.varNamePlural_usable
    refine bind_eq_ok_iff.mpr ⟨_,identifierSlot_eq_ok_iff.mpr ⟨h.name_identifier,rfl⟩,?_⟩
    refine bind_eq_ok_iff.mpr ⟨_,h.table,?_⟩
    rw [if_neg (by simpa using h.fields_ne_nil)]
    refine bind_eq_ok_iff.mpr ⟨_,mapM_ofField_eq_ok_iff.mpr h.fields,?_⟩
    rw [h.identifier]
    refine bind_eq_ok_iff.mpr ⟨(),usableSlot_eq_ok_iff.mpr hvar,?_⟩
    refine bind_eq_ok_iff.mpr ⟨(),usableSlot_eq_ok_iff.mpr hplural,?_⟩
    obtain ⟨hn,_,_,_,_,_,hv,hp,hr,hvi,hpi,_⟩ := h
    cases m
    simp only at hn hv hp hr hvi hpi
    subst hn hv hp hr hvi hpi
    rfl

end RestScaffold
