import RestScaffold.Proofs.Generation.Paths
import RestScaffold.Proofs.Output.Contents

/-! # Names that a model can shadow

The record of a model is in scope in the file of records and in the handlers of that model. The
types that these files import are kept from being names of models, but primitive types and the
crates that paths start with are not.
-/
namespace RestScaffold
variable {policy : NamingPolicy} {schemas : List Schema} {models : List Model} {m : Model}

/-- The name that a type is or that its path starts with. -/
def FieldType.root (t : FieldType) : String := upTo ':' t.targetType

/-- The crates at which paths start in every file of records and in every file of handlers. -/
def crateRoots : List String := ["axum", "serde", "serde_json", "sqlx", "std"]

/-- The names that stand bare in the types of all records or of the path parameter of a model, and
the crates. -/
def bareNames (models : List Model) (m : Model) : List String :=
  (models.flatMap fun other => other.fields.map fun f => f.type.root) ++
    m.identifier.type.root :: crateRoots

/-- Each bare name stands in the file of records or in the handlers of the model. -/
structure StandsBare (models : List Model) (m : Model) : Prop where
  record : ∀ other ∈ models, ∀ f ∈ other.fields,
    Occurs ("pub " ++ f.ident ++ ": " ++ f.type.targetType ++ ",") (recordsFile models).content
  parameter : Occurs ("Path(id): Path<" ++ m.identifier.type.targetType ++ ">")
    m.handlerFile.content
  crate : ∀ crate ∈ crateRoots, Occurs (" " ++ crate ++ "::") (recordsFile models).content ∨
    Occurs (" " ++ crate ++ "::") m.handlerFile.content

/-- An import from each of three crates, whatever the model. -/
def handlerGroups : List ImportGroup :=
  [⟨"axum",["Json"]⟩, ⟨"serde_json",["json"]⟩, ⟨"sqlx",["PgPool"]⟩]

/-- A handler file imports the record of its model after everything else. -/
theorem handlerImports_eq (h : ':' ∉ m.name.toList) : ∃ i : Imports,
    m.handlerImports = i.add "crate::models" m.name ∧ (∀ g ∈ handlerGroups, g ∈ i.groups) ∧
      ∀ g ∈ i.groups, g.module ≠ "crate::models" := by
  have hfixed : ∃ i : Imports, m.handlerImports = i.addPath ("crate::models" ++ "::" ++ m.name) ∧
      (∀ g ∈ handlerGroups, g ∈ i.groups) ∧ ∀ g ∈ i.groups, g.module ≠ "crate::models" :=
    ⟨_,rfl,by decide,by decide⟩
  obtain ⟨i,himports,hgroups⟩ := hfixed
  exact ⟨i,himports.trans (Imports.addPath_eq_add i h),hgroups⟩

theorem occurs_handlerImport (h : ':' ∉ m.name.toList) {g : ImportGroup} (hg : g ∈ handlerGroups) :
    Occurs g.statement m.handlerFile.content := by
  obtain ⟨i,himports,hgroups,hnew⟩ := handlerImports_eq h
  refine occurs_import rfl ?_
  change g ∈ m.handlerImports.groups
  rw [himports]
  exact Imports.mem_groups_add (hgroups g hg) (hnew g (hgroups g hg)) m.name

theorem standsBare (h : isIdentifier m.name = true) : StandsBare models m := by
  have hcolon : ':' ∉ m.name.toList := (isIdentifier_chars h).notMem (by decide)
  refine ⟨fun other hother f hf => occurs_recordField hother hf,?_,?_⟩
  · have hin : m.pathParameter ∈ (m.handler .get).parameters :=
      List.mem_cons_of_mem _ List.mem_cons_self
    exact pathParameter_text m ▸ occurs_parameter rfl (handler_mem m .get) hin
  · have himport : ∀ g ∈ handlerGroups, Occurs g.statement m.handlerFile.content :=
      fun _ => occurs_handlerImport hcolon
    simp only [crateRoots, List.forall_mem_cons, List.not_mem_nil, false_implies, implies_true,
      and_true]
    refine ⟨Or.inr ?_,Or.inl ?_,Or.inr ?_,Or.inr ?_,Or.inr ?_⟩
    · exact Occurs.trans ⟨"use","Json;",by decide⟩ (himport ⟨"axum",["Json"]⟩ (by decide))
    · have hserde : ⟨"serde",["Deserialize", "Serialize"]⟩ ∈
          (recordsFile models).source.imports.groups := List.mem_singleton.mpr rfl
      exact Occurs.trans ⟨"use","\x7bDeserialize, Serialize\x7d;",by decide⟩
        (occurs_import rfl hserde)
    · exact Occurs.trans ⟨"use","json;",by decide⟩ (himport ⟨"serde_json",["json"]⟩ (by decide))
    · exact Occurs.trans ⟨"use","PgPool;",by decide⟩ (himport ⟨"sqlx",["PgPool"]⟩ (by decide))
    · have hfunction : .function Model.errorResponse ∈ m.handlerFile.source.items :=
        List.mem_cons_self
      have hin : ⟨"message","impl std::fmt::Display"⟩ ∈ Model.errorResponse.parameters := by decide
      exact Occurs.trans ⟨"message: impl","fmt::Display",by decide⟩
        (occurs_parameter rfl hfunction hin)

/-- A name that no type of the fields of a batch starts with, texts apart, and that is no crate. -/
def FreeName (schemas : List Schema) (name : String) : Prop :=
  name ∉ crateRoots ∧ ∀ s ∈ schemas, ∀ f ∈ s.fields, f.type ≠ .string → f.type.root ≠ name

instance (schemas : List Schema) (name : String) : Decidable (FreeName schemas name) :=
  inferInstanceAs (Decidable (_ ∧ ∀ s ∈ schemas, ∀ f ∈ s.fields, f.type ≠ .string → _))

theorem notMem_bareNames_iff {name : String} (hm : m ∈ models) (hi : m.identifier ∈ m.fields) :
    name ∉ bareNames models m ↔
      name ∉ crateRoots ∧ ∀ other ∈ models, ∀ f ∈ other.fields, f.type.root ≠ name := by
  simp only [bareNames, List.mem_append, List.mem_flatMap, List.mem_map, List.mem_cons, not_or]
  constructor
  · rintro ⟨hfields,_,hcrates⟩
    exact ⟨hcrates,fun other ho f hf he => hfields ⟨other,ho,f,hf,he⟩⟩
  · rintro ⟨hcrates,hfields⟩
    refine ⟨?_,fun he => hfields m hm _ hi he.symm,hcrates⟩
    rintro ⟨other,ho,f,hf,he⟩
    exact hfields other ho f hf he

theorem freeName_iff {name : String} (h : List.Forall₂ (Admitted policy) schemas models)
    (hn : name ∉ generatedTypes) : FreeName schemas name ↔
      name ∉ crateRoots ∧ ∀ m ∈ models, ∀ f ∈ m.fields, f.type.root ≠ name := by
  have hstring : FieldType.string.root ≠ name := by
    rintro rfl
    exact hn (by decide)
  refine and_congr_right fun _ => forall_mem_iff_of_forall₂ h fun s m had => ?_
  refine forall_mem_iff_of_forall₂ had.ties.fields fun f mf hf => ?_
  rw [hf.type]
  constructor
  · intro hother
    by_cases ht : f.type = .string
    · exact ht ▸ hstring
    · exact hother ht
  · exact fun hne _ => hne

/-- The only bare name that is kept from models is that of texts. Whatever the policy, a model that
is accepted is called like none of the types that are imported, and it shadows no bare name exactly
if its schema has a free name. -/
theorem modelsOf_shadows (policy : NamingPolicy) (schemas : List Schema) (models : List Model)
    (h : modelsOf policy schemas = .ok models) :
    List.Forall₂ (fun s m => m.name = s.name ∧ m.name ∉ generatedTypes ∧ StandsBare models m ∧
      (m.name ∉ bareNames models m ↔ FreeName schemas s.name)) schemas models := by
  obtain ⟨hall,_⟩ := modelsOf_eq_ok_iff.mp h
  obtain ⟨hlength,hzip⟩ := List.forall₂_iff_zip.mp hall
  refine List.forall₂_iff_zip.mpr ⟨hlength,?_⟩
  intro s m hsm
  have had := hzip hsm
  have hname := had.ties.name
  have hfree := had.notMem_generatedTypes
  have hi : m.identifier ∈ m.fields := List.mem_of_find?_eq_some had.ties.identifier
  refine ⟨hname,hfree,standsBare (hname ▸ had.ties.name_identifier),?_⟩
  rw [notMem_bareNames_iff (List.of_mem_zip hsm).2 hi, ← hname, freeName_iff hall hfree]

/-- A name of its own shadows nothing. -/
theorem person_shadows_nothing :
    modelsOf PluralPolicy.naive [keyOnlySchema "Person"] =
      .ok [keyOnlyModel "Person" "person" "person" "persons"] ∧
    "Person" ∉ bareNames [keyOnlyModel "Person" "person" "person" "persons"]
      (keyOnlyModel "Person" "person" "person" "persons") ∧
    StandsBare [keyOnlyModel "Person" "person" "person" "persons"]
      (keyOnlyModel "Person" "person" "person" "persons") := by
  have hm : modelsOf PluralPolicy.naive [keyOnlySchema "Person"] =
      .ok [keyOnlyModel "Person" "person" "person" "persons"] := by
    decide +kernel
  have hfree : FreeName [keyOnlySchema "Person"] "Person" := by decide
  obtain ⟨⟨_,_,hbare,hiff⟩,_⟩ := List.forall₂_cons.mp (modelsOf_shadows _ _ _ hm)
  exact ⟨hm,hiff.mpr hfree,hbare⟩

/-- A model is accepted under the name of the type of its own key and under that of a crate. -/
theorem i64_and_sqlx_shadowed :
    modelsOf PluralPolicy.naive [keyOnlySchema "i64", keyOnlySchema "sqlx"] =
      .ok [keyOnlyModel "i64" "i64" "i64" "i64s", keyOnlyModel "sqlx" "sqlx" "sqlx" "sqlxs"] ∧
    ∀ m ∈ [keyOnlyModel "i64" "i64" "i64" "i64s", keyOnlyModel "sqlx" "sqlx" "sqlx" "sqlxs"],
      m.name ∈ bareNames [keyOnlyModel "i64" "i64" "i64" "i64s",
        keyOnlyModel "sqlx" "sqlx" "sqlx" "sqlxs"] m := by
  decide +kernel

end RestScaffold
