import RestScaffold.Proofs.Generation.Paths
import RestScaffold.Proofs.Output.Router

/-! # The two layouts compared

Both layouts render the same files besides their routers. The one that has a router for each model
puts it behind the handler file of that model, and it is the router of a batch of that model alone,
with but the group of that model in it.
-/
namespace RestScaffold
variable {policy : NamingPolicy} {schemas : List Schema} {models : List Model}

/-- Whether a file goes where routers go. -/
def OutputFile.isRouter (f : OutputFile) : Bool := f.path.sameAs mainPath

/-- Whatever a model is called, its handler file does not go there. -/
theorem isRouter_handlerFile (m : Model) : m.handlerFile.finish.isRouter = false := by
  have hpath : m.handlerFile.finish.path = (⟨"handlers"⟩ : Path).join ⟨m.varName ++ ".rs"⟩ :=
    below_handlerSteps_eq_join m
  rw [OutputFile.isRouter, ← Bool.not_eq_true, Path.sameAs_iff, hpath]
  intro he
  have hhead := congrArg List.head? he
  have hmain : mainPath.components.head? = some (.name "main.rs") := by decide
  rw [Path.head?_components_join (by decide), hmain] at hhead
  split at hhead
  · simp at hhead
  · simp at hhead

theorem isRouter_recordsFile (models : List Model) :
    (recordsFile models).finish.isRouter = false :=
  (by decide : ((⟨""⟩ : Path).below ["models.rs"]).sameAs mainPath = false)

theorem isRouter_handlerIndex (models : List Model) :
    (handlerIndex models).finish.isRouter = false :=
  (by decide : ((⟨""⟩ : Path).below ["handlers", "mod.rs"]).sameAs mainPath = false)

theorem isRouter_routerFile (models : List Model) : (routerFile models).finish.isRouter = true := by
  simp [OutputFile.isRouter, path_routerFile, Path.sameAs]

/-- The files of a batch that are no routers. -/
def filesBesides (models : List Model) : List GeneratedFile :=
  recordsFile models :: handlerIndex models :: models.map Model.handlerFile

theorem isRouter_filesBesides (models : List Model) :
    ∀ f ∈ (filesBesides models).map GeneratedFile.finish, f.isRouter = false := by
  simp [filesBesides, isRouter_recordsFile, isRouter_handlerIndex, isRouter_handlerFile]

theorem map_finish_combined (models : List Model) :
    (filesOf .combined models).map GeneratedFile.finish =
      (filesBesides models).map GeneratedFile.finish ++ [(routerFile models).finish] := by
  simp [filesOf_combined, filesBesides]

theorem map_finish_perModel (models : List Model) :
    (filesOf .perModel models).map GeneratedFile.finish =
      (recordsFile models).finish :: (handlerIndex models).finish ::
        models.flatMap fun m => [m.handlerFile.finish, (routerFile [m]).finish] := by
  simp [filesOf_perModel, List.map_flatMap]

/-- Without its routers, a batch has the same files in either layout. -/
theorem filter_not_isRouter (layout : Layout) (models : List Model) :
    (((filesOf layout models).map GeneratedFile.finish).filter fun f => !f.isRouter) =
      (filesBesides models).map GeneratedFile.finish := by
  cases layout with
  | combined =>
    have hbesides := isRouter_filesBesides models
    rw [map_finish_combined, List.filter_append, List.filter_eq_self.mpr (by simpa using hbesides)]
    simp [isRouter_routerFile]
  | perModel =>
    have hhandlers : (models.flatMap fun m => [m.handlerFile.finish]) =
        models.map fun m => m.handlerFile.finish := by
      rw [List.map_eq_flatMap]
    rw [map_finish_perModel, filesBesides]
    simp [isRouter_recordsFile, isRouter_handlerIndex, List.filter_flatMap, isRouter_handlerFile,
      isRouter_routerFile, hhandlers]

/-- With a router for each model, these are the routers. -/
theorem filter_isRouter_perModel (models : List Model) :
    ((filesOf .perModel models).map GeneratedFile.finish).filter OutputFile.isRouter =
      models.map fun m => (routerFile [m]).finish := by
  rw [map_finish_perModel]
  simp [isRouter_recordsFile, isRouter_handlerIndex, List.filter_flatMap, isRouter_handlerFile,
    isRouter_routerFile, List.map_eq_flatMap]

/-- Where the handler file of a model stands in the list of files, given the place of the model. -/
def Layout.handlerPlace : Layout → Nat → Nat
  | combined, i => i + 2
  | perModel, i => 2 * i + 2

theorem getElem?_handlerPlace (layout : Layout) {i : Nat} {m : Model} (h : models[i]? = some m) :
    ((filesOf layout models).map GeneratedFile.finish)[layout.handlerPlace i]? =
      some m.handlerFile.finish := by
  cases layout with
  | combined =>
    obtain ⟨hi,_⟩ := List.getElem?_eq_some_iff.mp h
    have hplace : i + 2 < ((filesBesides models).map GeneratedFile.finish).length := by
      simpa [filesBesides] using hi
    rw [map_finish_combined, Layout.handlerPlace, List.getElem?_append_left hplace]
    simp [filesBesides, h]
  | perModel =>
    rw [map_finish_perModel]
    simpa [Layout.handlerPlace, h] using (getElem?_flatMap_pair _ _ models i).1

theorem perModel_follows {i : Nat} {m : Model} (h : models[i]? = some m) :
    ((filesOf .perModel models).map GeneratedFile.finish)[2 * i + 3]? =
      some (routerFile [m]).finish := by
  rw [map_finish_perModel]
  simpa [h] using (getElem?_flatMap_pair (fun m => m.handlerFile.finish) _ models i).2

/-- Files of which the last goes where routers go, and no other does. -/
structure EndsInRouter (files : List OutputFile) (router : OutputFile) : Prop where
  place : router.path = mainPath
  ends : ∃ front, files = front ++ [router] ∧ ∀ f ∈ front, f.isRouter = false

/-- The model and the router of a schema that makes up a batch by itself. -/
structure RoutedAlone (policy : NamingPolicy) (s : Schema) (m : Model) (router : OutputFile) :
    Prop where
  model : modelsOf policy [s] = .ok [m]
  holds : router = (routerFile [m]).finish
  /-- It nests one group, and the only group that it has is the one of the model. -/
  content : router.content = routerText [m]
  alone : ∃ files, (⟨[s],policy,.combined⟩ : Job).render = .ok files ∧ EndsInRouter files router

/-- The files of a batch in the one layout and in the other. -/
structure LayoutsAgree (policy : NamingPolicy) (schemas : List Schema)
    (combined perModel : List OutputFile) : Prop where
  besides : (combined.filter fun f => !f.isRouter) = perModel.filter fun f => !f.isRouter
  /-- The router at the end nests the groups of all models and has them in their order. -/
  ends : ∃ models router, modelsOf policy schemas = .ok models ∧ EndsInRouter combined router ∧
    router.content = routerText models
  count : (perModel.filter OutputFile.isRouter).length = schemas.length
  follows : ∀ i s, schemas[i]? = some s → ∃ m router, RoutedAlone policy s m router ∧
    combined[i + 2]? = some m.handlerFile.finish ∧
    perModel[2 * i + 2]? = some m.handlerFile.finish ∧ perModel[2 * i + 3]? = some router
  last : ∀ s, schemas.getLast? = some s → ∃ m router, RoutedAlone policy s m router ∧
    perModel.getLast? = some router

theorem content_finish_routerFile (models : List Model) :
    (routerFile models).finish.content = routerText models := by
  rw [content_finish, content_routerFile]

theorem endsInRouter_combined (models : List Model) :
    EndsInRouter ((filesOf .combined models).map GeneratedFile.finish)
      (routerFile models).finish :=
  ⟨path_routerFile models,_,map_finish_combined models,isRouter_filesBesides models⟩

theorem Admitted.routedAlone {s : Schema} {m : Model} (h : Admitted policy s m) :
    RoutedAlone policy s m (routerFile [m]).finish :=
  ⟨h.modelsOf_singleton,rfl,content_finish_routerFile [m],_,
    render_of_models h.modelsOf_singleton,endsInRouter_combined [m]⟩

theorem layoutsAgree (h : modelsOf policy schemas = .ok models) : LayoutsAgree policy schemas
    ((filesOf .combined models).map GeneratedFile.finish)
    ((filesOf .perModel models).map GeneratedFile.finish) := by
  have hadmitted := (modelsOf_eq_ok_iff.mp h).1
  have hlength := hadmitted.length_eq
  refine ⟨?_,⟨models,_,h,endsInRouter_combined models,
    content_finish_routerFile models⟩,?_,?_,?_⟩
  · rw [filter_not_isRouter, filter_not_isRouter]
  · rw [filter_isRouter_perModel, List.length_map, hlength]
  · intro i s hs
    obtain ⟨m,hm,had⟩ := exists_getElem?_of_forall₂ hadmitted hs
    exact ⟨m,_,had.routedAlone,getElem?_handlerPlace .combined hm,
      getElem?_handlerPlace .perModel hm,perModel_follows hm⟩
  · intro s hs
    rw [List.getLast?_eq_getElem?] at hs
    obtain ⟨m,hm,had⟩ := exists_getElem?_of_forall₂ hadmitted hs
    refine ⟨m,_,had.routedAlone,?_⟩
    obtain ⟨hlast,_⟩ := List.getElem?_eq_some_iff.mp hs
    have hfiles : ((filesOf .perModel models).map GeneratedFile.finish).length =
        2 * models.length + 2 := by
      simp [map_finish_perModel, Nat.mul_comm]
    have hplace : 2 * models.length + 2 - 1 = 2 * (schemas.length - 1) + 3 := by omega
    rw [List.getLast?_eq_getElem?, hfiles, hplace]
    exact perModel_follows hm

/-- Both layouts refuse the same batches, and for the same cause. The files of an accepted batch
agree besides the routers: all groups are in one router at the end, or each handler file is followed
by the router that its schema would have if it made up the batch by itself. So the last router has no
group but that of the last schema. -/
theorem render_layouts_agree (policy : NamingPolicy) (schemas : List Schema) :
    (∃ cause, (⟨schemas,policy,.combined⟩ : Job).render = .error cause ∧
      (⟨schemas,policy,.perModel⟩ : Job).render = .error cause) ∨
    ∃ combined perModel, (⟨schemas,policy,.combined⟩ : Job).render = .ok combined ∧
      (⟨schemas,policy,.perModel⟩ : Job).render = .ok perModel ∧
      LayoutsAgree policy schemas combined perModel := by
  cases h : modelsOf policy schemas with
  | error cause => exact Or.inl ⟨cause,render_of_refusal h,render_of_refusal h⟩
  | ok models => exact Or.inr ⟨_,_,render_of_models h,render_of_models h,layoutsAgree h⟩

/-- Two schemas are rendered in both layouts, and the group of the second one is alone in the end. -/
theorem main_models_layouts_agree : ∃ combined perModel router,
    (⟨[keyOnlySchema "Main", keyOnlySchema "Models"],.naive,.combined⟩ : Job).render =
      .ok combined ∧
    (⟨[keyOnlySchema "Main", keyOnlySchema "Models"],.naive,.perModel⟩ : Job).render =
      .ok perModel ∧
    LayoutsAgree .naive [keyOnlySchema "Main", keyOnlySchema "Models"] combined perModel ∧
    perModel.getLast? = some router ∧
    router.content = routerText [keyOnlyModel "Models" "models" "models" "modelss"] := by
  have hm : modelsOf .naive [keyOnlySchema "Main", keyOnlySchema "Models"] =
      .ok [keyOnlyModel "Main" "main" "main" "mains",
        keyOnlyModel "Models" "models" "models" "modelss"] := by
    decide +kernel
  have hlast : modelsOf .naive [keyOnlySchema "Models"] =
      .ok [keyOnlyModel "Models" "models" "models" "modelss"] := by
    decide +kernel
  rcases render_layouts_agree .naive [keyOnlySchema "Main", keyOnlySchema "Models"] with
    ⟨cause,hrefused,_⟩ | ⟨combined,perModel,hc,hp,hagree⟩
  · rw [render_of_models hm] at hrefused
    cases hrefused
  · obtain ⟨m,router,halone,hrouter⟩ := hagree.last (keyOnlySchema "Models") rfl
    have hmodel := Except.ok.inj (halone.model.symm.trans hlast)
    refine ⟨combined,perModel,router,hc,hp,hagree,hrouter,?_⟩
    rw [halone.content, hmodel]

end RestScaffold
