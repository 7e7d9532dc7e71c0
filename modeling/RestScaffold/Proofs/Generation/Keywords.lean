import RestScaffold.Proofs.Generation.Shadowing

/-! # Keywords as names of models

The name of a model is put into code as it is. The words that no escape turns into a name are kept
from models by way of the variable, which is their lower case, but the words that need an escape are
not: only the variable is escaped.
-/
namespace RestScaffold
variable {policy : NamingPolicy} {models : List Model} {s : Schema} {m : Model}

/-- A word that the target language has no use for. -/
def FreeWord (name : String) : Prop := name ∉ reservedWords ∧ name ∉ forbiddenWords

instance (name : String) : Decidable (FreeWord name) :=
  inferInstanceAs (Decidable (_ ∧ _))

/-- A name stands in code as that of the record of a model. -/
structure NameSpliced (models : List Model) (m : Model) (name : String) : Prop where
  record : Occurs ("pub struct " ++ name ++ " \x7b") (recordsFile models).content
  imported : Occurs ("use crate::models::" ++ name ++ ";") m.handlerFile.content
  queried : ∀ o : Operation, o.yieldsRecords = true →
    Occurs ("sqlx::query_as::<_, " ++ name ++ ">(") m.handlerFile.content

theorem nameSpliced (h : Admitted policy s m) (hm : m ∈ models) : NameSpliced models m s.name := by
  have hcolon : ':' ∉ m.name.toList :=
    (isIdentifier_chars (h.ties.name ▸ h.ties.name_identifier)).notMem (by decide)
  rw [← h.ties.name]
  refine ⟨?_,?_,?_⟩
  · have hne : m.fields ≠ [] := List.ne_nil_of_mem (List.mem_of_find?_eq_some h.ties.identifier)
    refine Occurs.trans ?_ (occurs_record hm hne)
    exact Occurs.of_mem List.mem_cons_self (.refl _)
  · obtain ⟨i,himports,_,hnew⟩ := handlerImports_eq hcolon
    have hgroup : ⟨"crate::models",[m.name]⟩ ∈ m.handlerFile.source.imports.groups := by
      change _ ∈ m.handlerImports.groups
      rw [himports]
      exact Imports.mem_groups_add_self hnew m.name
    exact occurs_import rfl hgroup
  · intro o ho
    refine Occurs.trans ⟨"","\"" ++ m.statement o ++ "\")",?_⟩ (occurs_queryCall m o)
    have hopen : ">(\"" = ">(" ++ "\"" := by decide
    unfold Model.queryCall
    rw [if_pos ho, hopen]
    simp only [String.append_assoc, String.empty_append]

theorem isForbidden_eq_false_iff {word : String} :
    Convention.service.isForbidden word = false ↔ word ∉ forbiddenWords := by
  simp [Convention.isForbidden, Convention.service]

theorem ModelTies.varName_notMem (h : ModelTies policy .service s m) :
    policy.varName s.name ∉ forbiddenWords := by
  rw [← h.varName]
  exact isForbidden_eq_false_iff.mp h.varName_usable

theorem ModelTies.varNamePlural_notMem (h : ModelTies policy .service s m) :
    policy.varNamePlural s.name ∉ forbiddenWords := by
  rw [← h.varNamePlural]
  exact isForbidden_eq_false_iff.mp h.varNamePlural_usable

/-- The variable keeps the words that have no escape from being names of models. -/
theorem ModelTies.name_notMem (h : ModelTies policy .service s m)
    (hlower : policy.varName s.name = lowercase s.name) : s.name ∉ forbiddenWords := by
  have hclosed : ∀ word ∈ forbiddenWords, lowercase word ∈ forbiddenWords := by
    decide +kernel
  intro hin
  exact h.varName_notMem (hlower ▸ hclosed _ hin)

/-- What is asked of the name of a model: that it is an identifier, that its variable and the plural
of that can be escaped if need be, and that the generated code does not use the name otherwise. -/
theorem keyOnly_accepted_iff (policy : NamingPolicy) (name : String) :
    (∃ models, modelsOf policy [keyOnlySchema name] = .ok models) ↔
      isIdentifier name = true ∧ policy.varName name ∉ forbiddenWords ∧
        policy.varNamePlural name ∉ forbiddenWords ∧ name ∉ generatedTypes ∧
        policy.varName name ∉ handlerLocals := by
  constructor
  · rintro ⟨models,h⟩
    obtain ⟨m,_,had,_⟩ := List.forall₂_cons_left_iff.mp (modelsOf_eq_ok_iff.mp h).1
    have htypes := had.notMem_generatedTypes
    have hlocals := had.notMem_handlerLocals
    rw [had.ties.name] at htypes
    rw [had.ties.varName] at hlocals
    exact ⟨had.ties.name_identifier,had.ties.varName_notMem,had.ties.varNamePlural_notMem,htypes,
      hlocals⟩
  · rintro ⟨hname,hvar,hplural,htypes,hlocals⟩
    have hkey : FieldTies .service ⟨"ID",.int,"id"⟩ ⟨"ID","id","id",.int,"id"⟩ :=
      ofField_eq_ok_iff.mp (by decide +kernel)
    let m : Model := { keyOnlyModel name (policy.varName name)
      (Convention.service.safeName (policy.varName name)) (policy.varNamePlural name) with
        varIdentPlural := Convention.service.safeName (policy.varNamePlural name)
        pathPlural := policy.pathSegment name
        tableName := policy.tableName name }
    have hties : ModelTies policy .service (keyOnlySchema name) m :=
      ⟨rfl,hname,rfl,by simp [keyOnlySchema],.cons hkey .nil,rfl,rfl,rfl,rfl,rfl,rfl,
        isForbidden_eq_false_iff.mpr hvar,isForbidden_eq_false_iff.mpr hplural⟩
    have had : Admitted policy (keyOnlySchema name) m :=
      ⟨hties,Model.checkNames_eq_ok_iff.mpr ⟨htypes,hlocals⟩⟩
    exact ⟨[m],modelsOf_eq_ok_iff.mpr ⟨.cons had .nil,List.pairwise_singleton _ m⟩⟩

/-- No reserved word is kept from being the name of a model. -/
theorem reservedWords_accepted {word : String} (h : word ∈ reservedWords) :
    ∃ models, modelsOf PluralPolicy.naive [keyOnlySchema word] = .ok models := by
  have hwords : ∀ word ∈ reservedWords, isIdentifier word = true ∧
      PluralPolicy.naive.naming.varName word ∉ forbiddenWords ∧
      PluralPolicy.naive.naming.varNamePlural word ∉ forbiddenWords ∧ word ∉ generatedTypes ∧
      PluralPolicy.naive.naming.varName word ∉ handlerLocals := by
    decide +kernel
  exact (keyOnly_accepted_iff _ word).mpr (hwords word h)

/-- The name of an accepted model stands in code as it is. Whatever the policy, it is a free word
exactly if it is not one of the reserved words, which nothing keeps from models, and either the
policy makes the variable of it in lower case or it is not one of the forbidden words. -/
theorem modelsOf_freeWord_iff (policy : NamingPolicy) (schemas : List Schema) (models : List Model)
    (h : modelsOf policy schemas = .ok models) :
    List.Forall₂ (fun s m => m.name = s.name ∧ NameSpliced models m s.name ∧ m.name ≠ "_" ∧
      (FreeWord m.name ↔ s.name ∉ reservedWords ∧
        (policy.varName s.name = lowercase s.name ∨ s.name ∉ forbiddenWords))) schemas models := by
  obtain ⟨hall,_⟩ := modelsOf_eq_ok_iff.mp h
  obtain ⟨hlength,hzip⟩ := List.forall₂_iff_zip.mp hall
  refine List.forall₂_iff_zip.mpr ⟨hlength,?_⟩
  intro s m hsm
  have had := hzip hsm
  have hname := had.ties.name
  refine ⟨hname,nameSpliced had (List.of_mem_zip hsm).2,?_,?_⟩
  · rw [hname]
    rintro he
    have hidentifier := had.ties.name_identifier
    rw [he] at hidentifier
    exact absurd hidentifier (by decide)
  · rw [hname]
    refine and_congr_right fun _ => ⟨Or.inr,?_⟩
    rintro (hlower | hfree)
    · exact had.ties.name_notMem hlower
    · exact hfree

/-- A keyword in other letters is a free word. -/
theorem Type_freeWord :
    modelsOf PluralPolicy.naive [keyOnlySchema "Type"] =
      .ok [keyOnlyModel "Type" "type" "r#type" "types"] ∧
    NameSpliced [keyOnlyModel "Type" "type" "r#type" "types"]
      (keyOnlyModel "Type" "type" "r#type" "types") "Type" ∧
    FreeWord "Type" := by
  have hm : modelsOf PluralPolicy.naive [keyOnlySchema "Type"] =
      .ok [keyOnlyModel "Type" "type" "r#type" "types"] := by
    decide +kernel
  obtain ⟨⟨_,hspliced,_,hiff⟩,_⟩ := List.forall₂_cons.mp (modelsOf_freeWord_iff _ _ _ hm)
  exact ⟨hm,hspliced,hiff.mpr ⟨by decide,Or.inl rfl⟩⟩

/-- A record is declared under the name `type`. -/
theorem type_accepted :
    modelsOf PluralPolicy.naive [keyOnlySchema "type"] =
      .ok [keyOnlyModel "type" "type" "r#type" "types"] ∧
    ¬ FreeWord (keyOnlyModel "type" "type" "r#type" "types").name := by
  decide +kernel

end RestScaffold
