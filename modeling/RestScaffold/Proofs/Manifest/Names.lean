import RestScaffold.Proofs.Generation.Paths
import RestScaffold.Proofs.Manifest.Body
import RestScaffold.Proofs.Model.Refusal

/-! # Names that a manifest lets through

A manifest takes exactly those model names that are identifiers and no keywords, whose lower case is
no word of the module tree, and that differ in lower case; plurals and their singulars have to be
identifiers and no keywords. Models with such names are never refused for their names or the
variables made from them.
-/
namespace RestScaffold

theorem identifierFault?_eq_none_iff {name : String} :
    identifierFault? name = none ↔ isIdentifier name = true := by
  unfold identifierFault? isIdentifier
  cases name.toList with
  | nil => simp
  | cons c rest =>
    by_cases hstart : startsIdentifier c = true
    · by_cases hlone : name = "_"
      · simp [hstart, hlone]
      · by_cases hrest : rest.all continuesIdentifier = true
        · simp [hstart, hlone, hrest]
        · simp [hstart, hlone, hrest]
    · simp [hstart]

theorem checkName_eq_ok_iff {use : NameUse} {name : String} :
    checkName use name = .ok () ↔ isKeyword name = false ∧ isIdentifier name = true := by
  unfold checkName
  rw [← identifierFault?_eq_none_iff]
  cases isKeyword name with
  | true => simp
  | false => cases identifierFault? name <;> simp

/-- A name that a model can have, whatever the other models are called. -/
structure ModuleName (name : String) : Prop where
  not_keyword : isKeyword name = false
  identifier : isIdentifier name = true
  not_path : lowercase name ∉ pathKeywords

theorem checkModelName_eq_ok_iff {before : List String} {name : String} :
    checkModelName before name = .ok () ↔
      ModuleName name ∧ ∀ first ∈ before, lowercase first ≠ lowercase name := by
  unfold checkModelName
  constructor
  · intro h
    obtain ⟨_,hname,h⟩ := bind_eq_ok_iff.mp h
    obtain ⟨hkeyword,hident⟩ := checkName_eq_ok_iff.mp hname
    by_cases hpath : pathKeywords.contains (lowercase name) = true
    · rw [if_pos hpath] at h
      cases h
    rw [if_neg hpath] at h
    cases hf : before.find? (fun first => lowercase first == lowercase name) with
    | some first =>
      rw [hf] at h
      cases h
    | none =>
      refine ⟨⟨hkeyword,hident,by simpa using hpath⟩,?_⟩
      intro first hfirst
      simpa using List.find?_eq_none.mp hf first hfirst
  · rintro ⟨hname,hbefore⟩
    refine bind_eq_ok_iff.mpr ⟨(),checkName_eq_ok_iff.mpr ⟨hname.not_keyword,hname.identifier⟩,?_⟩
    rw [if_neg (by simpa using hname.not_path),
      List.find?_eq_none.mpr (by simpa using hbefore)]
    rfl

theorem checkModelNamesAfter_eq_ok_iff {before names : List String} :
    checkModelNamesAfter before names = .ok () ↔ (∀ name ∈ names, ModuleName name) ∧
      names.Pairwise (fun a b => lowercase a ≠ lowercase b) ∧
      ∀ a ∈ before, ∀ b ∈ names, lowercase a ≠ lowercase b := by
  induction names generalizing before with
  | nil => exact ⟨fun _ => ⟨by simp,.nil,by simp⟩,fun _ => rfl⟩
  | cons name rest ih =>
    rw [checkModelNamesAfter, bind_eq_ok_iff, List.forall_mem_cons, ← pairwise_grown_iff]
    constructor
    · rintro ⟨_,hname,h⟩
      obtain ⟨hmodule,hbefore⟩ := checkModelName_eq_ok_iff.mp hname
      obtain ⟨hall,hgrown⟩ := ih.mp h
      exact ⟨⟨hmodule,hall⟩,hbefore,hgrown⟩
    · rintro ⟨⟨hmodule,hall⟩,hbefore,hgrown⟩
      exact ⟨(),checkModelName_eq_ok_iff.mpr ⟨hmodule,hbefore⟩,ih.mpr ⟨hall,hgrown⟩⟩

/-- The names that the models of a manifest can have together. -/
structure ModuleNames (names : List String) : Prop where
  each : ∀ name ∈ names, ModuleName name
  distinct : names.Pairwise fun a b => lowercase a ≠ lowercase b

theorem checkModelNames_eq_ok_iff {names : List String} :
    checkModelNames names = .ok () ↔ ModuleNames names := by
  rw [checkModelNames, checkModelNamesAfter_eq_ok_iff]
  constructor
  · rintro ⟨heach,hdistinct,_⟩
    exact ⟨heach,hdistinct⟩
  · rintro ⟨heach,hdistinct⟩
    exact ⟨heach,hdistinct,by simp⟩

/-- A plural and its singular that a manifest can name. -/
structure PluralNames (p : String × String) : Prop where
  singular_not_keyword : isKeyword p.1 = false
  singular : isIdentifier p.1 = true
  plural_not_keyword : isKeyword p.2 = false
  plural : isIdentifier p.2 = true

theorem checkPlurals_eq_ok_iff {plurals : List (String × String)} :
    checkPlurals plurals = .ok () ↔ ∀ p ∈ plurals, PluralNames p := by
  rw [checkPlurals, forM_eq_ok_iff]
  refine forall₂_congr fun p _ => ?_
  constructor
  · intro h
    obtain ⟨_,hsingular,hplural⟩ := bind_eq_ok_iff.mp h
    obtain ⟨hkeyword,hident⟩ := checkName_eq_ok_iff.mp hsingular
    obtain ⟨hkeyword',hident'⟩ := checkName_eq_ok_iff.mp hplural
    exact ⟨hkeyword,hident,hkeyword',hident'⟩
  · rintro ⟨hkeyword,hident,hkeyword',hident'⟩
    exact bind_eq_ok_iff.mpr ⟨(),checkName_eq_ok_iff.mpr ⟨hkeyword,hident⟩,
      checkName_eq_ok_iff.mpr ⟨hkeyword',hident'⟩⟩

/-- What it takes for the names of a manifest to be let through. -/
structure NamesPass (m : Manifest) : Prop where
  output : m.project.output.text ≠ ""
  models : ModuleNames (m.models.map (·.1))
  plurals : ∀ p ∈ m.plurals, PluralNames p

theorem checkNames_eq_ok_iff {m : Manifest} : m.checkNames = .ok () ↔ NamesPass m := by
  unfold Manifest.checkNames
  constructor
  · intro h
    split at h
    · cases h
    · rename_i houtput
      obtain ⟨_,hmodels,hplurals⟩ := bind_eq_ok_iff.mp h
      exact ⟨by simpa using houtput,checkModelNames_eq_ok_iff.mp hmodels,
        checkPlurals_eq_ok_iff.mp hplurals⟩
  · rintro ⟨houtput,hmodels,hplurals⟩
    rw [if_neg (by simpa using houtput)]
    exact bind_eq_ok_iff.mpr ⟨(),checkModelNames_eq_ok_iff.mpr hmodels,
      checkPlurals_eq_ok_iff.mpr hplurals⟩

theorem map_name_of_schemas {m : Manifest} {schemas : List Schema} (h : m.schemas = .ok schemas) :
    schemas.map Schema.name = m.models.map (·.1) := by
  rw [Manifest.schemas, schemasOf, mapM_eq_ok_iff] at h
  refine map_eq_map_of_forall₂ h ?_
  intro body s hs
  exact (schemaOf_eq_ok_iff.mp (mapError_eq_ok_iff.mp hs)).named

/-- The variable of a model that a manifest lets through is never a word beyond escape. -/
theorem ModuleName.not_forbidden {name : String} (h : ModuleName name) :
    Convention.service.isForbidden (lowercase name) = false := by
  have hchars := isIdentifier_chars h.identifier
  have hident := isIdentifier_lowercase h.identifier
  have hpath := h.not_path
  rw [Convention.isForbidden, List.contains_eq_mem, decide_eq_false_iff_not]
  intro hin
  change lowercase name ∈ ["crate", "self", "Self", "super", "_"] at hin
  simp only [List.mem_cons, List.not_mem_nil, or_false] at hin
  rcases hin with he | he | he | he | he
  · exact hpath (he ▸ by decide)
  · exact hpath (he ▸ by decide)
  · have hupper := hchars.ascii.isUpper_lowercase 'S' (he ▸ by decide)
    cases hupper
  · exact hpath (he ▸ by decide)
  · rw [he] at hident
    cases hident

/-- Schemas under such names are refused, if at all, for something else. -/
theorem modelsOf_not_blamesName {policy : NamingPolicy} (hl : policy.LowersNames)
    {schemas : List Schema} (hn : ModuleNames (schemas.map Schema.name)) {name : String}
    {cause : ModelError} (h : modelsOf policy schemas = .error (.model name cause)) :
    ¬ cause.BlamesName := by
  obtain ⟨front,s,back,before,_,rfl,hfront,hadd,he⟩ := joinModels_eq_error_iff.mp h
  cases he
  have hs : ModuleName s.name := hn.each s.name (by simp)
  rcases addModel_error_cases hadd with hschema | ⟨m,hm,hcheck | ⟨other,hother,hclash⟩⟩
  · refine ofSchema_not_blamesName hs.identifier ?_ hschema
    rw [hl]
    exact hs.not_forbidden
  · exact checkNames_not_blamesName hcheck
  · -- the model it clashes with comes from a schema before it, whose name differs in lower case
    obtain ⟨t,ht,had⟩ := exists_admitted_of_mem hfront hother
    refine clash_not_blamesName ?_ hclash
    rw [had.ties.varName, hm.varName, hl, hl]
    have hdistinct := hn.distinct
    rw [List.pairwise_map, List.pairwise_append] at hdistinct
    exact hdistinct.2.2 t ht s List.mem_cons_self

/-- A manifest whose names are let through yields models that are never refused for a name, for the
variable made from it or for one that two models share. Both sides agree on what an identifier
is. -/
theorem checkNames_guards_models (m : Manifest) (schemas : List Schema) :
    (m.checkNames = .ok () → m.schemas = .ok schemas →
      ∀ name cause, modelsOf m.policy schemas = .error (.model name cause) →
        ¬ cause.BlamesName) ∧
    ∀ s, identifierFault? s = none ↔ isIdentifier s = true := by
  refine ⟨?_,fun s => identifierFault?_eq_none_iff⟩
  intro h hs name cause hmodels
  have hn := (checkNames_eq_ok_iff.mp h).models
  rw [← map_name_of_schemas hs] at hn
  exact modelsOf_not_blamesName m.policy.lowersNames hn hmodels

/-- A body with nothing but an identifier. -/
def keyOnlyBody : Toml.Value :=
  .table [("fields", .array [.table [("name", .text "ID"), ("type", .text "int")]])]

/-- Two models with one plural. -/
def peopleManifest : Manifest :=
  ⟨.default,[("Person", "People"), ("Human", "People")],
    [("Person", keyOnlyBody), ("Human", keyOnlyBody)]⟩

/-- The models of a manifest that lets their names through can still clash over their routes. -/
theorem people_clash_over_routes : peopleManifest.checkNames = .ok () ∧
    peopleManifest.schemas = .ok [keyOnlySchema "Person", keyOnlySchema "Human"] ∧
    modelsOf peopleManifest.policy [keyOnlySchema "Person", keyOnlySchema "Human"] =
      .error (.model "Human" (.duplicateName .pathPlural "people" "Person")) ∧
    ¬ (ModelError.duplicateName .pathPlural "people" "Person").BlamesName := by
  have hnames : peopleManifest.checkNames = .ok () := by decide +kernel
  have hschemas : peopleManifest.schemas =
      .ok [keyOnlySchema "Person", keyOnlySchema "Human"] := by
    decide +kernel
  have hmodels : modelsOf peopleManifest.policy [keyOnlySchema "Person", keyOnlySchema "Human"] =
      .error (.model "Human" (.duplicateName .pathPlural "people" "Person")) := by
    decide +kernel
  exact ⟨hnames,hschemas,hmodels,
    (checkNames_guards_models peopleManifest _).1 hnames hschemas "Human" _ hmodels⟩

end RestScaffold
