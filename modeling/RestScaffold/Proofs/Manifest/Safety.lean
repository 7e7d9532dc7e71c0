import RestScaffold.Proofs.Generation.Reach
import RestScaffold.Proofs.Manifest.Names
import RestScaffold.Proofs.Naming.Plural

/-! # Names and places that a manifest leads to

The plurals of a manifest are identifiers, and so are the names of its models. Lower case, snake
case, plurals and escapes keep it that way, and no name is a word that could not be escaped. So
every file of a run has its place below the output directory.
-/
namespace RestScaffold

/-- An identifier in lower case that the target language takes, if only as a raw identifier. -/
structure UsableName (name : String) : Prop extends LowerIdentifier name where
  not_path : name ∉ pathKeywords

/-- A name as it stands in code, where a reserved word has its mark and nothing else has. -/
def escaped (name : String) : String := if name ∈ reservedWords then "r#" ++ name else name

/-- The derived names of a model, all in lower case and fit for use. -/
structure UsableNames (m : Model) : Prop where
  varName : UsableName m.varName
  varNamePlural : UsableName m.varNamePlural
  pathPlural : LowerIdentifier m.pathPlural
  varIdent : m.varIdent = escaped m.varName
  varIdentPlural : m.varIdentPlural = escaped m.varNamePlural
  columns : ∀ f ∈ m.fields, UsableName f.column
  idents : ∀ f ∈ m.fields, f.ident = escaped f.column

/-- Three paths are fixed, and any other leads to a file of handlers that is named by an
identifier. -/
def ServicePath (p : Path) : Prop :=
  p = ⟨"models.rs"⟩ ∨ p = ⟨"main.rs"⟩ ∨ p = ⟨"handlers/mod.rs"⟩ ∨
    ∃ name, LowerIdentifier name ∧ p = ⟨"handlers/" ++ name ++ ".rs"⟩

theorem safeName_eq_escaped (name : String) : Convention.service.safeName name = escaped name := by
  unfold Convention.safeName Convention.isReserved escaped
  exact if_congr List.contains_iff_mem rfl rfl

theorem LowerIdentifier.usable {name : String} (h : LowerIdentifier name)
    (hf : Convention.service.isForbidden name = false) : UsableName name := by
  refine ⟨h,?_⟩
  intro hin
  have hforbidden : name ∈ forbiddenWords := by
    have hsubset : ∀ word ∈ pathKeywords, word ∈ forbiddenWords := by decide
    exact hsubset name hin
  have hcontains : Convention.service.isForbidden name = true :=
    List.contains_iff_mem.mpr hforbidden
  cases hcontains.symm.trans hf

variable {policy : PluralPolicy} {s : Schema} {models : List Model}

theorem usable_column {f : Field} {mf : ModelField} (h : FieldTies .service f mf) :
    UsableName mf.column := by
  have hlow : LowerIdentifier mf.column := by
    refine ⟨h.column_identifier,?_⟩
    rw [h.column]
    exact hasUppercase_snakeCase (isIdentifier_chars h.name_identifier)
  exact hlow.usable h.column_usable

/-- If the override that counts for a schema is an identifier, all names of its model are usable. -/
theorem usableNames_of_ties {m : Model} (hq : ∀ q ∈ policy.override? s.name, isIdentifier q = true)
    (h : ModelTies policy .service s m) : UsableNames m := by
  have hname := h.name_identifier
  have hvar : LowerIdentifier m.varName := by
    rw [h.varName]
    exact lowerIdentifier_lowercase hname
  have hplural : LowerIdentifier m.varNamePlural := by
    rw [h.varNamePlural]
    exact PluralPolicy.lowerIdentifier_varNamePlural hname hq
  have hpath : LowerIdentifier m.pathPlural := by
    rw [h.pathPlural]
    exact PluralPolicy.lowerIdentifier_pathSegment hname hq
  refine ⟨hvar.usable h.varName_usable,hplural.usable h.varNamePlural_usable,hpath,?_,?_,?_,?_⟩
  · rw [h.varIdent, safeName_eq_escaped]
  · rw [h.varIdentPlural, safeName_eq_escaped]
  · intro mf hmf
    obtain ⟨f,_,hties⟩ := exists_of_mem_right h.fields hmf
    exact usable_column hties
  · intro mf hmf
    obtain ⟨f,_,hties⟩ := exists_of_mem_right h.fields hmf
    rw [hties.ident, Convention.fieldName, ← hties.column, safeName_eq_escaped]

theorem servicePath_of_mem (h : ∀ m ∈ models, LowerIdentifier m.varName) {layout : Layout}
    {f : GeneratedFile} (hf : f ∈ filesOf layout models) : ServicePath f.finish.path := by
  rw [path_finish]
  rcases steps_cases hf with he | he | he | ⟨m,hm,he⟩
  · rw [he]
    exact Or.inl (by decide)
  · rw [he]
    exact Or.inr (Or.inr (Or.inl (by decide)))
  · rw [he]
    exact Or.inr (Or.inl (by decide))
  · rw [he, below_handlerSteps (h m hm).identifier]
    exact Or.inr (Or.inr (Or.inr ⟨m.varName,h m hm,rfl⟩))

namespace Manifest
variable {m : Manifest} {name plural : String}

/-- The plural that a manifest names last for a singular, whose case does not matter. -/
def pluralOf? (m : Manifest) (name : String) : Option String :=
  (m.plurals.reverse.find? fun p => lowercase name == lowercase p.1).map Prod.snd

theorem override?_policy (m : Manifest) (name : String) :
    m.policy.override? name = m.pluralOf? name := by
  rw [policy, PluralPolicy.override?, PluralPolicy.override?, Overrides.find?_ofPairs,
    Option.or_none]
  rfl

theorem identifier_of_pluralOf? (h : NamesPass m) (hp : m.pluralOf? name = some plural) :
    isIdentifier plural = true := by
  obtain ⟨p,hfind,rfl⟩ := Option.map_eq_some_iff.mp hp
  have hin : p ∈ m.plurals := List.mem_reverse.mp (List.mem_of_find?_eq_some hfind)
  exact (h.plurals p hin).plural

theorem override_identifier (h : NamesPass m) (name : String) :
    ∀ q ∈ m.policy.override? name, isIdentifier q = true := by
  intro q hq
  rw [override?_policy] at hq
  exact identifier_of_pluralOf? h hq

end Manifest

/-- Whatever a manifest calls its models and their plurals, and whatever schemas go with these, the
names derived from them are identifiers in lower case, escaped where they are reserved. In either
layout the files have fixed paths or paths named by such identifiers, and a run writes nothing
outside of the output directory. -/
theorem checkNames_confines (m : Manifest) (hnames : m.checkNames = .ok ()) (schemas : List Schema)
    (models : List Model) (hmodels : modelsOf m.policy schemas = .ok models) :
    (∀ model ∈ models, UsableNames model) ∧
    ∀ layout, ∃ files, (⟨schemas,m.policy,layout⟩ : Job).render = .ok files ∧
      (∀ f ∈ files, ServicePath f.path) ∧
      ∀ output, (⟨schemas,m.policy,layout⟩ : Job).StaysBelow files output := by
  have hpass := checkNames_eq_ok_iff.mp hnames
  have husable : ∀ model ∈ models, UsableNames model := by
    intro model hmodel
    obtain ⟨s,_,hadmitted⟩ := exists_admitted_of_mem hmodels hmodel
    exact usableNames_of_ties (Manifest.override_identifier hpass s.name) hadmitted.ties
  refine ⟨husable,?_⟩
  intro layout
  have hrender : (⟨schemas,m.policy,layout⟩ : Job).render = .ok _ := render_of_models hmodels
  refine ⟨_,hrender,?_,?_⟩
  · intro f hf
    obtain ⟨g,hg,rfl⟩ := List.mem_map.mp hf
    refine servicePath_of_mem ?_ hg
    intro model hmodel
    exact (husable model hmodel).varName.toLowerIdentifier
  · intro output
    exact Job.staysBelow m.policy.lowersNames hrender output

/-- A body with a field that is a keyword. -/
def typedBody : Toml.Value :=
  .table [("fields", .array [.table [("name", .text "ID"), ("type", .text "uuid")],
    .table [("name", .text "Type"), ("type", .text "string")]])]

/-- A model that is a keyword and one with an irregular plural. -/
def typeManifest : Manifest :=
  ⟨.default,[("person", "People")],[("Type", typedBody), ("Person", keyOnlyBody)]⟩

def typeSchema : Schema := ⟨"Type",none,[⟨"ID",.uuid,"id"⟩, ⟨"Type",.string,"type"⟩]⟩

def typeModel : Model where
  name := "Type"
  varName := "type"
  varNamePlural := "types"
  varIdent := "r#type"
  varIdentPlural := "types"
  pathPlural := "types"
  tableName := "types"
  fields := [⟨"ID","id","id",.uuid,"id"⟩, ⟨"Type","r#type","type",.string,"type"⟩]
  identifier := ⟨"ID","id","id",.uuid,"id"⟩

/-- A keyword names a module, a local variable and a field, each of them escaped. -/
theorem type_model_confined : typeManifest.checkNames = .ok () ∧
    typeManifest.schemas = .ok [typeSchema, keyOnlySchema "Person"] ∧
    modelsOf typeManifest.policy [typeSchema, keyOnlySchema "Person"] =
      .ok [typeModel, keyOnlyModel "Person" "person" "person" "people"] ∧
    UsableNames typeModel ∧ ∃ files,
      (typeManifest.job [typeSchema, keyOnlySchema "Person"]).render = .ok files ∧
      (∀ f ∈ files, ServicePath f.path) ∧
      (typeManifest.job [typeSchema, keyOnlySchema "Person"]).StaysBelow files ⟨"out"⟩ := by
  have hnames : typeManifest.checkNames = .ok () := by decide +kernel
  have hschemas : typeManifest.schemas = .ok [typeSchema, keyOnlySchema "Person"] := by
    decide +kernel
  have hmodels : modelsOf typeManifest.policy [typeSchema, keyOnlySchema "Person"] =
      .ok [typeModel, keyOnlyModel "Person" "person" "person" "people"] := by
    decide +kernel
  obtain ⟨husable,hfiles⟩ := checkNames_confines typeManifest hnames _ _ hmodels
  obtain ⟨files,hrender,hpaths,hbelow⟩ := hfiles typeManifest.project.router
  exact ⟨hnames,hschemas,hmodels,husable typeModel List.mem_cons_self,files,hrender,hpaths,
    hbelow ⟨"out"⟩⟩

end RestScaffold
