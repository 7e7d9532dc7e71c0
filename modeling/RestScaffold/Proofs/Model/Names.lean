import RestScaffold.Proofs.Model.Compose
import RestScaffold.Proofs.Naming.Plural
import RestScaffold.Proofs.Text.Qualified

/-! # The names of a model

If the plurals of a policy are identifiers, every name that the policy makes of an identifier is a
text of identifier characters. The names of a composed model therefore stay on one line and have
none of the characters that structure the generated code.
-/
namespace RestScaffold

/-- The plurals of all layers of a policy. -/
def PluralPolicy.overridePlurals : PluralPolicy → List String
  | naive => []
  | irregular overrides inner => overrides.entries.map (·.2) ++ inner.overridePlurals

namespace PluralPolicy
variable {p : PluralPolicy} {s q : String}

theorem mem_overridePlurals (h : p.override? s = some q) : q ∈ p.overridePlurals := by
  induction p with
  | naive => cases h
  | irregular overrides inner ih =>
    rw [override?, Option.or_eq_some_iff] at h
    rw [overridePlurals, List.mem_append]
    rcases h with hf | ⟨_,hinner⟩
    · obtain ⟨before,after,he,_⟩ := List.lookup_eq_some_iff.mp hf
      exact Or.inl (by simp [he])
    · exact Or.inr (ih hinner)

end PluralPolicy

theorem ne_lineEnd_of_continues {c : Char} (h : continuesIdentifier c = true) :
    c ≠ '\n' ∧ c ≠ '\r' := by
  constructor
  · rintro rfl
    revert h
    decide
  · rintro rfl
    revert h
    decide

theorem IdentifierChars.oneLine {s : String} (h : IdentifierChars s) : OneLine s :=
  fun c hc => ne_lineEnd_of_continues (h c hc)

theorem Qualified.oneLine {t : String} (h : Qualified t) : OneLine t :=
  h.forall_mem (by decide) fun _ => ne_lineEnd_of_continues

theorem qualified_of_tableSlot {value table : String} (h : tableSlot value = .ok table) :
    Qualified table := by
  obtain ⟨_,hparts,rfl⟩ := tableSlot_eq_ok_iff.mp h
  exact qualified_iff.mpr hparts

/-- Names that structure no code and stay on one line. -/
structure PlainNames (m : Model) : Prop where
  name : IdentifierChars m.name
  varName : IdentifierChars m.varName
  varNamePlural : IdentifierChars m.varNamePlural
  pathPlural : IdentifierChars m.pathPlural
  varIdent : m.varIdent = Convention.service.safeName m.varName
  varIdentPlural : m.varIdentPlural = Convention.service.safeName m.varNamePlural
  table : OneLine m.tableName
  fields : ∀ f ∈ m.fields, OneLine f.column ∧ OneLine f.ident
  identifier : m.identifier ∈ m.fields

theorem oneLine_safeName {s : String} (h : OneLine s) :
    OneLine (Convention.service.safeName s) := by
  unfold Convention.safeName
  split
  · exact oneLine_append.mpr ⟨by decide,h⟩
  · exact h

variable {policy : PluralPolicy} {s : Schema} {m : Model}

/-- A model that is named by plurals which are identifiers has plain names. -/
theorem plainNames_of_ties (hp : ∀ q ∈ policy.overridePlurals, isIdentifier q = true)
    (h : ModelTies policy .service s m) : PlainNames m := by
  have hname := isIdentifier_chars h.name_identifier
  have hvar : IdentifierChars m.varName := h.varName ▸ hname.lowercase
  have hq : ∀ name, ∀ q ∈ policy.override? name, isIdentifier q = true :=
    fun name q hq => hp q (PluralPolicy.mem_overridePlurals hq)
  refine ⟨h.name ▸ hname,hvar,?_,?_,h.varIdent,h.varIdentPlural,?_,?_,
    List.mem_of_find?_eq_some h.identifier⟩
  · rw [h.varNamePlural]
    exact PluralPolicy.pluralize_chars (hq _) hname.lowercase
  · rw [h.pathPlural]
    exact (PluralPolicy.pluralize_chars (hq _) hname).lowercase
  · have htable := h.table
    unfold Model.tableOf at htable
    split at htable
    · exact (qualified_of_tableSlot htable).oneLine
    · rw [← Except.ok.inj htable]
      exact (PluralPolicy.tableName_chars (hq _) hname).oneLine
  · intro f hf
    obtain ⟨_,_,hties⟩ := exists_of_mem_right h.fields hf
    have hcolumn : OneLine f.column := (isIdentifier_chars hties.column_identifier).oneLine
    refine ⟨hcolumn,?_⟩
    rw [hties.ident, Convention.fieldName, ← hties.column]
    exact oneLine_safeName hcolumn

end RestScaffold
