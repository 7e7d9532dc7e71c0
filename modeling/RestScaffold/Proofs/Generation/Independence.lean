import RestScaffold.Proofs.Generation.Layouts

/-! # Models that do not depend on their batch

A schema has the same model in every batch that is accepted. So a batch can be taken apart into
batches of one schema each, its order decides nothing but the order of the files, and a refusal is
settled as soon as the first schema is reached that cannot join those before it.
-/
namespace RestScaffold
variable {policy : NamingPolicy} {schemas others : List Schema} {models : List Model}

/-- The models that schemas have if each of them makes up a batch by itself. -/
def ModelsApart (policy : NamingPolicy) (schemas : List Schema) (models : List Model) : Prop :=
  ∃ singles, List.Forall₂ (fun s single => modelsOf policy [s] = .ok single) schemas singles ∧
    singles.flatten = models

theorem modelsApart_iff : ModelsApart policy schemas models ↔
    List.Forall₂ (Admitted policy) schemas models := by
  constructor
  · rintro ⟨singles,h,rfl⟩
    induction h with
    | nil => exact .nil
    | cons hs _ ih =>
      obtain ⟨m,hm,rfl⟩ := modelsOf_singleton_iff.mp hs
      exact .cons hm ih
  · intro h
    refine ⟨models.map fun m => [m],?_,by simp [← List.flatMap_def]⟩
    rw [List.forall₂_map_right_iff]
    exact h.imp fun _ _ hm => hm.modelsOf_singleton

/-- A batch is accepted exactly if its schemas are, each by itself, and no two of their models agree
on a variable or on a path. -/
theorem modelsOf_iff_apart : modelsOf policy schemas = .ok models ↔
    ModelsApart policy schemas models ∧ (models.map Model.varName).Nodup ∧
      (models.map Model.pathPlural).Nodup := by
  rw [modelsOf_eq_ok_iff, pairwise_clash_iff, modelsApart_iff]

theorem accepted_of_perm (hp : others.Perm schemas) (h : modelsOf policy schemas = .ok models) :
    ∃ models', modelsOf policy others = .ok models' ∧ models'.Perm models := by
  rw [modelsOf_eq_ok_iff, pairwise_clash_iff] at h
  obtain ⟨hadmitted,hvars,hpaths⟩ := h
  obtain ⟨models',hadmitted',hperm⟩ := List.perm_comp_forall₂ hp hadmitted
  refine ⟨models',?_,hperm⟩
  rw [modelsOf_eq_ok_iff, pairwise_clash_iff]
  exact ⟨hadmitted',(hperm.map _).nodup_iff.mpr hvars,(hperm.map _).nodup_iff.mpr hpaths⟩

/-- Whatever else is in the batch, the handler file of a schema is the one it has by itself. -/
theorem handlerFile_alone {layout : Layout} {files : List OutputFile} {i : Nat} {s : Schema}
    {m : Model} (h : (⟨schemas,policy,layout⟩ : Job).render = .ok files)
    (hs : schemas[i]? = some s) (hm : Admitted policy s m) :
    files[layout.handlerPlace i]? = some m.handlerFile.finish := by
  obtain ⟨models,hmodels,rfl⟩ := models_of_render h
  obtain ⟨m',hm',had⟩ := exists_getElem?_of_forall₂ (modelsOf_eq_ok_iff.mp hmodels).1 hs
  apply getElem?_handlerPlace
  rw [hm', hm.unique had]

theorem admitted_of_render {layout : Layout} {files : List OutputFile} {i : Nat} {s : Schema}
    (h : (⟨schemas,policy,layout⟩ : Job).render = .ok files) (hs : schemas[i]? = some s) :
    ∃ m, Admitted policy s m := by
  obtain ⟨models,hmodels,_⟩ := models_of_render h
  obtain ⟨m,_,had⟩ := exists_getElem?_of_forall₂ (modelsOf_eq_ok_iff.mp hmodels).1 hs
  exact ⟨m,had⟩

theorem modelsOf_take (h : modelsOf policy schemas = .ok models) (k : Nat) :
    modelsOf policy (schemas.take k) = .ok (models.take k) := by
  rw [modelsOf_eq_ok_iff] at h ⊢
  exact ⟨List.forall₂_take k h.1,h.2.take⟩

/-- The error of a batch is about the last schema of the shortest part of it that is refused. -/
structure BlamesShortest (policy : NamingPolicy) (schemas : List Schema) (error : GenerationError)
    (n : Nat) (s : Schema) : Prop where
  place : schemas[n]? = some s
  named : ∃ cause, error = .model s.name cause
  before : ∀ k ≤ n, ∃ models, modelsOf policy (schemas.take k) = .ok models
  after : ∀ k > n, modelsOf policy (schemas.take k) = .error error

theorem exists_blamesShortest {error : GenerationError}
    (h : modelsOf policy schemas = .error error) :
    ∃ n s, BlamesShortest policy schemas error n s := by
  obtain ⟨front,s,back,before,cause,rfl,hfront,hs,rfl⟩ := joinModels_eq_error_iff.mp h
  refine ⟨front.length,s,by simp,⟨cause,rfl⟩,?_,?_⟩
  · intro k hk
    rw [List.take_append_of_le_length hk]
    exact ⟨_,modelsOf_take hfront k⟩
  · intro k hk
    have htake : (front ++ s :: back).take k = front ++ s :: back.take (k - front.length - 1) := by
      obtain ⟨j,rfl⟩ : ∃ j, k = front.length + (j + 1) := ⟨k - front.length - 1,by omega⟩
      simp [List.take_append]
    rw [htake]
    exact joinModels_eq_error_iff.mpr ⟨front,s,_,before,cause,rfl,hfront,hs,rfl⟩

/-- A batch has the models that its schemas have apart from each other, if their variables and their
paths differ, and is refused otherwise. So its order does not matter for whether it is accepted, the
handler file of a schema is the same in any two accepted batches, and an error is about the schema
with which the batch first becomes one that is refused. -/
theorem modelsOf_schema_by_schema (policy : NamingPolicy) (schemas : List Schema) :
    (∀ models, modelsOf policy schemas = .ok models ↔ ModelsApart policy schemas models ∧
      (models.map Model.varName).Nodup ∧ (models.map Model.pathPlural).Nodup) ∧
    (∀ others, others.Perm schemas → ((∃ models, modelsOf policy others = .ok models) ↔
      ∃ models, modelsOf policy schemas = .ok models)) ∧
    (∀ others layout layout' files files',
      (⟨schemas,policy,layout⟩ : Job).render = .ok files →
      (⟨others,policy,layout'⟩ : Job).render = .ok files' →
      ∀ i k s, schemas[i]? = some s → others[k]? = some s →
        ∃ m, modelsOf policy [s] = .ok [m] ∧
          files[layout.handlerPlace i]? = some m.handlerFile.finish ∧
          files'[layout'.handlerPlace k]? = some m.handlerFile.finish) ∧
    ∀ error, modelsOf policy schemas = .error error →
      ∃ n s, BlamesShortest policy schemas error n s := by
  refine ⟨fun _ => modelsOf_iff_apart,?_,?_,fun _ => exists_blamesShortest⟩
  · intro others hp
    constructor
    · rintro ⟨_,h⟩
      obtain ⟨models,hmodels,_⟩ := accepted_of_perm hp.symm h
      exact ⟨models,hmodels⟩
    · rintro ⟨_,h⟩
      obtain ⟨models,hmodels,_⟩ := accepted_of_perm hp h
      exact ⟨models,hmodels⟩
  · intro others layout layout' files files' h h' i k s hi hk
    obtain ⟨m,hm⟩ := admitted_of_render h hi
    exact ⟨m,hm.modelsOf_singleton,handlerFile_alone h hi hm,handlerFile_alone h' hk hm⟩

/-- In another order, layout and place, a schema keeps its handler file. -/
theorem models_handlerFile_kept : ∃ files files' m,
    (⟨[keyOnlySchema "Main", keyOnlySchema "Models"],.naive,.combined⟩ : Job).render =
      .ok files ∧
    (⟨[keyOnlySchema "Models", keyOnlySchema "Main"],.naive,.perModel⟩ : Job).render =
      .ok files' ∧
    modelsOf .naive [keyOnlySchema "Models"] = .ok [m] ∧
    files[3]? = some m.handlerFile.finish ∧ files'[2]? = some m.handlerFile.finish := by
  obtain ⟨_,hperm,hkept,_⟩ := modelsOf_schema_by_schema .naive
    [keyOnlySchema "Main", keyOnlySchema "Models"]
  have hm : modelsOf .naive [keyOnlySchema "Main", keyOnlySchema "Models"] =
      .ok [keyOnlyModel "Main" "main" "main" "mains",
        keyOnlyModel "Models" "models" "models" "modelss"] := by
    decide +kernel
  obtain ⟨others,hothers⟩ := (hperm [keyOnlySchema "Models", keyOnlySchema "Main"]
    (List.Perm.swap ..)).mpr ⟨_,hm⟩
  obtain ⟨m,halone,hfile,hfile'⟩ := hkept _ .combined .perModel _ _ (render_of_models hm)
    (render_of_models hothers) 1 0 _ rfl rfl
  exact ⟨_,_,m,render_of_models hm,render_of_models hothers,halone,hfile,hfile'⟩

end RestScaffold
