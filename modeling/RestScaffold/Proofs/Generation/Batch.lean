import RestScaffold.Generation.Batch
import RestScaffold.Proofs.Model.Compose

/-! # Accepted batches

A batch is accepted exactly if each schema has a model of its own whose names the generated code
leaves free, and no two of these models clash.
-/
namespace RestScaffold
variable {policy : NamingPolicy} {schemas : List Schema} {models : List Model}

theorem clash_eq_none_iff {m other : Model} : m.clash other = none ↔
    other.varName ≠ m.varName ∧ other.pathPlural ≠ m.pathPlural := by
  unfold Model.clash
  by_cases hv : other.varName = m.varName
  · simp [hv]
  · by_cases hp : other.pathPlural = m.pathPlural
    · simp [hv, hp]
    · simp [hv, hp]

theorem Model.checkNames_eq_ok_iff {m : Model} : m.checkNames = .ok () ↔
    m.name ∉ generatedTypes ∧ m.varName ∉ handlerLocals := by
  unfold checkNames
  by_cases hn : m.name ∈ generatedTypes
  · simp [hn]
  · by_cases hv : m.varName ∈ handlerLocals
    · simp [hn, hv]
    · simp [hn, hv]

/-- A model that a schema has, apart from any other model of the batch. -/
structure Admitted (policy : NamingPolicy) (s : Schema) (m : Model) : Prop where
  ties : ModelTies policy .service s m
  names_free : m.checkNames = .ok ()

/-- A schema has at most one model. -/
theorem Admitted.unique {s : Schema} {m m' : Model} (h : Admitted policy s m)
    (h' : Admitted policy s m') : m = m' := by
  have hm := ofSchema_eq_ok_iff.mpr h.ties
  have hm' := ofSchema_eq_ok_iff.mpr h'.ties
  exact Except.ok.inj (hm.symm.trans hm')

theorem Admitted.notMem_generatedTypes {s : Schema} {m : Model} (h : Admitted policy s m) :
    m.name ∉ generatedTypes :=
  (Model.checkNames_eq_ok_iff.mp h.names_free).1

theorem Admitted.notMem_handlerLocals {s : Schema} {m : Model} (h : Admitted policy s m) :
    m.varName ∉ handlerLocals :=
  (Model.checkNames_eq_ok_iff.mp h.names_free).2

theorem addModel_eq_ok_iff {s : Schema} {out : List Model} : addModel policy models s = .ok out ↔
    ∃ m, Admitted policy s m ∧ (∀ other ∈ models, m.clash other = none) ∧ models ++ [m] = out := by
  unfold addModel
  constructor
  · intro h
    obtain ⟨m,hm,h⟩ := bind_eq_ok_iff.mp h
    obtain ⟨_,hfree,h⟩ := bind_eq_ok_iff.mp h
    cases hc : models.findSome? m.clash with
    | some cause =>
      rw [hc] at h
      cases h
    | none =>
      rw [hc] at h
      exact ⟨m,⟨ofSchema_eq_ok_iff.mp hm,hfree⟩,List.findSome?_eq_none_iff.mp hc,Except.ok.inj h⟩
  · rintro ⟨m,hm,hc,rfl⟩
    refine bind_eq_ok_iff.mpr ⟨m,ofSchema_eq_ok_iff.mpr hm.ties,?_⟩
    refine bind_eq_ok_iff.mpr ⟨(),hm.names_free,?_⟩
    rw [List.findSome?_eq_none_iff.mpr hc]
    rfl

theorem addModel_error_cases {s : Schema} {cause : ModelError}
    (h : addModel policy models s = .error cause) : Model.ofSchema policy .service s = .error cause ∨
      ∃ m, ModelTies policy .service s m ∧
        (m.checkNames = .error cause ∨ ∃ other ∈ models, m.clash other = some cause) := by
  unfold addModel at h
  rcases bind_eq_error_iff.mp h with h | ⟨m,hm,h⟩
  · exact Or.inl h
  refine Or.inr ⟨m,ofSchema_eq_ok_iff.mp hm,?_⟩
  rcases bind_eq_error_iff.mp h with h | ⟨_,_,h⟩
  · exact Or.inl h
  refine Or.inr ?_
  cases hc : models.findSome? m.clash with
  | some clash =>
    rw [hc] at h
    cases h
    exact List.exists_of_findSome?_eq_some hc
  | none =>
    rw [hc] at h
    cases h

/-- The batch grows by one model for each schema, and each gets along with all before it. -/
theorem joinModels_eq_ok_iff {out : List Model} : joinModels policy models schemas = .ok out ↔
    ∃ more, List.Forall₂ (Admitted policy) schemas more ∧
      more.Pairwise (fun a b => b.clash a = none) ∧
      (∀ a ∈ models, ∀ b ∈ more, b.clash a = none) ∧ models ++ more = out := by
  induction schemas generalizing models with
  | nil =>
    constructor
    · intro h
      exact ⟨[],.nil,.nil,by simp,by simpa [joinModels] using h⟩
    · rintro ⟨more,hm,_,_,rfl⟩
      cases hm
      simp [joinModels]
  | cons s rest ih =>
    constructor
    · intro h
      unfold joinModels at h
      cases hadd : addModel policy models s with
      | error cause =>
        rw [hadd] at h
        cases h
      | ok grown =>
        rw [hadd] at h
        obtain ⟨m,hm,hfree,rfl⟩ := addModel_eq_ok_iff.mp hadd
        obtain ⟨more,hmore,hpair,hall,rfl⟩ := ih.mp h
        obtain ⟨hpair,hall⟩ := pairwise_grown_iff.mp ⟨hfree,hpair,hall⟩
        exact ⟨m :: more,.cons hm hmore,hpair,hall,by simp⟩
    · rintro ⟨_,hmore,hpair,hall,rfl⟩
      cases hmore with
      | @cons _ m _ more hm hmore =>
        obtain ⟨hfree,hgrown⟩ := pairwise_grown_iff.mpr ⟨hpair,hall⟩
        have hadd : addModel policy models s = .ok (models ++ [m]) :=
          addModel_eq_ok_iff.mpr ⟨m,hm,hfree,rfl⟩
        unfold joinModels
        rw [hadd]
        exact ih.mpr ⟨more,hmore,hgrown.1,hgrown.2,by simp⟩

/-- The first schema that cannot join the models before it is the one to blame. -/
theorem joinModels_eq_error_iff {error : GenerationError} :
    joinModels policy models schemas = .error error ↔ ∃ front s back before cause,
      schemas = front ++ s :: back ∧ joinModels policy models front = .ok before ∧
        addModel policy before s = .error cause ∧ .model s.name cause = error := by
  induction schemas generalizing models with
  | nil =>
    constructor
    · intro h
      cases h
    · rintro ⟨front,_,_,_,_,h,_⟩
      simp at h
  | cons s rest ih =>
    rw [joinModels]
    cases hadd : addModel policy models s with
    | error cause =>
      constructor
      · intro h
        exact ⟨[],s,rest,models,cause,rfl,rfl,hadd,Except.error.inj h⟩
      · rintro ⟨front,s',back,before,cause',h,hfront,hs',rfl⟩
        cases front with
        | nil =>
          obtain ⟨rfl,rfl⟩ := List.cons.inj h
          cases hfront
          cases hadd.symm.trans hs'
          rfl
        | cons first front =>
          obtain ⟨rfl,rfl⟩ := List.cons.inj h
          rw [joinModels, hadd] at hfront
          cases hfront
    | ok grown =>
      refine ih.trans ?_
      constructor
      · rintro ⟨front,s',back,before,cause,rfl,hfront,hs',he⟩
        refine ⟨s :: front,s',back,before,cause,rfl,?_,hs',he⟩
        rw [joinModels, hadd]
        exact hfront
      · rintro ⟨front,s',back,before,cause,h,hfront,hs',he⟩
        cases front with
        | nil =>
          obtain ⟨rfl,rfl⟩ := List.cons.inj h
          cases hfront
          cases hadd.symm.trans hs'
        | cons first front =>
          obtain ⟨rfl,rfl⟩ := List.cons.inj h
          rw [joinModels, hadd] at hfront
          exact ⟨front,s',back,before,cause,rfl,hfront,hs',he⟩

theorem modelsOf_eq_ok_iff : modelsOf policy schemas = .ok models ↔
    List.Forall₂ (Admitted policy) schemas models ∧
      models.Pairwise (fun a b => b.clash a = none) := by
  rw [modelsOf, joinModels_eq_ok_iff]
  constructor
  · rintro ⟨more,hmore,hpair,_,rfl⟩
    exact ⟨hmore,hpair⟩
  · rintro ⟨hmore,hpair⟩
    exact ⟨models,hmore,hpair,by simp,rfl⟩

/-- No two models clash exactly if no two agree on their variable or on their path. -/
theorem pairwise_clash_iff : models.Pairwise (fun a b => b.clash a = none) ↔
    (models.map Model.varName).Nodup ∧ (models.map Model.pathPlural).Nodup := by
  simp only [clash_eq_none_iff, List.nodup_iff_pairwise_ne, List.pairwise_map,
    List.pairwise_and_iff]

theorem varNames_nodup (h : modelsOf policy schemas = .ok models) :
    (models.map Model.varName).Nodup :=
  (pairwise_clash_iff.mp (modelsOf_eq_ok_iff.mp h).2).1

theorem pathPlurals_nodup (h : modelsOf policy schemas = .ok models) :
    (models.map Model.pathPlural).Nodup :=
  (pairwise_clash_iff.mp (modelsOf_eq_ok_iff.mp h).2).2

/-- A schema by itself is accepted exactly if it has a model. -/
theorem modelsOf_singleton_iff {s : Schema} :
    modelsOf policy [s] = .ok models ↔ ∃ m, Admitted policy s m ∧ models = [m] := by
  rw [modelsOf_eq_ok_iff]
  constructor
  · rintro ⟨hmodels,_⟩
    obtain ⟨m,rest,hm,hrest,rfl⟩ := List.forall₂_cons_left_iff.mp hmodels
    cases hrest
    exact ⟨m,hm,rfl⟩
  · rintro ⟨m,hm,rfl⟩
    exact ⟨.cons hm .nil,List.pairwise_singleton _ _⟩

theorem Admitted.modelsOf_singleton {s : Schema} {m : Model} (h : Admitted policy s m) :
    modelsOf policy [s] = .ok [m] :=
  modelsOf_singleton_iff.mpr ⟨m,h,rfl⟩

/-- Each schema of an accepted batch has a model in it. -/
theorem forall₂_admitted_mem (h : modelsOf policy schemas = .ok models) :
    List.Forall₂ (fun s m => Admitted policy s m ∧ m ∈ models) schemas models := by
  obtain ⟨hlength,hzip⟩ := List.forall₂_iff_zip.mp (modelsOf_eq_ok_iff.mp h).1
  apply List.forall₂_iff_zip.mpr
  exact ⟨hlength,fun hsm => ⟨hzip hsm,(List.of_mem_zip hsm).2⟩⟩

theorem exists_admitted_of_mem (h : modelsOf policy schemas = .ok models) {m : Model}
    (hm : m ∈ models) : ∃ s ∈ schemas, Admitted policy s m :=
  exists_of_mem_right (modelsOf_eq_ok_iff.mp h).1 hm

theorem filesOf_combined (models : List Model) : filesOf .combined models =
    recordsFile models :: handlerIndex models ::
      (models.map Model.handlerFile ++ [routerFile models]) := by
  rw [List.map_eq_flatMap]
  rfl

theorem filesOf_perModel (models : List Model) : filesOf .perModel models =
    recordsFile models :: handlerIndex models ::
      models.flatMap fun m => [m.handlerFile, routerFile [m]] :=
  List.append_nil _

/-- A file of a batch is that of the records, the index, a handler file or a router. -/
theorem mem_filesOf_cases {layout : Layout} {f : GeneratedFile} (hf : f ∈ filesOf layout models) :
    f = recordsFile models ∨ f = handlerIndex models ∨ (∃ m ∈ models, f = m.handlerFile) ∨
      ∃ routed, routed.Sublist models ∧ f = routerFile routed := by
  cases layout with
  | combined =>
    simp only [filesOf_combined, List.mem_cons, List.mem_append, List.mem_map, List.not_mem_nil,
      or_false] at hf
    rcases hf with hf | hf | ⟨m,hm,hf⟩ | hf
    · exact Or.inl hf
    · exact Or.inr (Or.inl hf)
    · exact Or.inr (Or.inr (Or.inl ⟨m,hm,hf.symm⟩))
    · exact Or.inr (Or.inr (Or.inr ⟨models,.refl _,hf⟩))
  | perModel =>
    simp only [filesOf_perModel, List.mem_cons, List.mem_flatMap, List.not_mem_nil, or_false] at hf
    rcases hf with hf | hf | ⟨m,hm,hf | hf⟩
    · exact Or.inl hf
    · exact Or.inr (Or.inl hf)
    · exact Or.inr (Or.inr (Or.inl ⟨m,hm,hf⟩))
    · exact Or.inr (Or.inr (Or.inr ⟨[m],List.singleton_sublist.mpr hm,hf⟩))

/-- Rendering an accepted batch yields the finished files of its models. -/
theorem render_of_models {layout : Layout} (h : modelsOf policy schemas = .ok models) :
    (⟨schemas,policy,layout⟩ : Job).render =
      .ok ((filesOf layout models).map GeneratedFile.finish) := by
  rw [Job.render, Job.models, h]
  rfl

theorem render_of_refusal {layout : Layout} {cause : GenerationError}
    (h : modelsOf policy schemas = .error cause) :
    (⟨schemas,policy,layout⟩ : Job).render = .error cause := by
  rw [Job.render, Job.models, h]
  rfl

theorem models_of_render {layout : Layout} {files : List OutputFile}
    (h : (⟨schemas,policy,layout⟩ : Job).render = .ok files) : ∃ models,
      modelsOf policy schemas = .ok models ∧
        (filesOf layout models).map GeneratedFile.finish = files := by
  cases hm : modelsOf policy schemas with
  | error cause =>
    rw [render_of_refusal hm] at h
    cases h
  | ok models =>
    rw [render_of_models hm] at h
    exact ⟨models,rfl,Except.ok.inj h⟩

end RestScaffold
