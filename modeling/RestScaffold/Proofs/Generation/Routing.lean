import RestScaffold.Proofs.Generation.Paths
import RestScaffold.Proofs.Output.Router

/-! # Agreement of routers, indexes and handler files

The router refers to handlers by module and name, the index declares the modules, and the handler
files define the handlers. Read back from their texts, the three agree for every accepted batch.
-/
namespace RestScaffold
variable {m : Model} {models : List Model}

/-- The name of the file of a module, which does not have the mark of a name that is a keyword. -/
def unmarked (module : String) : String := (after? "r#" module).getD module

/-- The models whose groups stand in the same router file as that of a model. -/
def routedWith (layout : Layout) (models : List Model) (m : Model) : List Model :=
  match layout with
  | .combined => models
  | .perModel => [m]

/-- A router file with a group for each of some models, all of them nested once and in order. -/
structure RouterTies (models : List Model) (router : OutputFile) : Prop where
  place : router.path = mainPath
  functions : declared "fn " '(' (linesOf router.content) =
    "router" :: models.map Model.routesName
  functions_nodup : ("router" :: models.map Model.routesName).Nodup
  nested : bodyOf "fn router" (linesOf router.content) = routerLines models

/-- The group of a model leads to the handlers in its file, through a module of that file. -/
structure GroupTies (m : Model) (module : String) (router handlers : OutputFile) : Prop where
  place : handlers.path = ⟨"handlers/" ++ unmarked module ++ ".rs"⟩
  functions : declared "pub async fn " '(' (linesOf handlers.content) =
    Operation.all.map m.handlerName
  functions_nodup : (Operation.all.map m.handlerName).Nodup
  bodies : ∀ o, bodyOf ("pub async fn " ++ m.handlerName o) (linesOf handlers.content) =
    written (m.handler o).bodyLines
  group : bodyOf ("fn " ++ m.routesName) (linesOf router.content) =
    groupLines module m.handlerName

theorem handlerName_injective (m : Model) : Function.Injective m.handlerName := by
  intro a b h
  have hhead := congrArg (fun s : String => s.toList.head?) h
  revert hhead
  cases a <;> cases b <;> simp [Model.handlerName, String.toList_append]

theorem nodup_handlerNames (m : Model) : (Operation.all.map m.handlerName).Nodup :=
  List.Nodup.map (handlerName_injective m) (by decide)

theorem nodup_handlerHeaders (m : Model) :
    (m.handlerFunctions.map FunctionItem.header).Nodup := by
  have hheader : ∀ o, (m.handler o).header = "pub async fn " ++ m.handlerName o := fun _ => rfl
  have hinjective : Function.Injective fun o => (m.handler o).header := by
    intro a b h
    have h : (m.handler a).header = (m.handler b).header := h
    rw [hheader, hheader] at h
    exact handlerName_injective m ((String.append_right_inj _).mp h)
  rw [Model.handlerFunctions, List.map_cons, List.map_map, List.nodup_cons]
  refine ⟨?_,List.Nodup.map hinjective (by decide)⟩
  intro hin
  obtain ⟨o,_,ho⟩ := List.mem_map.mp hin
  have hhead := congrArg (fun s : String => s.toList.head?) ho
  have hleft : ("pub async fn " ++ m.handlerName o).toList.head? = some 'p' := by
    simp [String.toList_append]
  rw [Function.comp_apply, hheader] at hhead
  rw [hleft] at hhead
  exact absurd hhead (by decide)

theorem routesName_inj {a b : Model} (h : a.routesName = b.routesName) :
    a.varName = b.varName :=
  (String.append_left_inj "_routes").mp h

theorem routesName_ne {name : String} (h : name.toList.getLast? ≠ some 's') (m : Model) :
    m.routesName ≠ name := by
  have hlast := getLast?_toList_append (t := "_routes") (c := 's') (by decide) m.varName
  rintro rfl
  exact h hlast

theorem nodup_routesNames (h : (models.map Model.varName).Nodup) :
    ("router" :: models.map Model.routesName).Nodup := by
  rw [List.nodup_cons]
  constructor
  · intro hin
    obtain ⟨m,_,hm⟩ := List.mem_map.mp hin
    exact routesName_ne (by decide) m hm
  · rw [List.nodup_iff_pairwise_ne, List.pairwise_map] at h ⊢
    exact h.imp fun hne he => hne (routesName_inj he)

theorem nodup_routerHeaders (h : (models.map Model.varName).Nodup) :
    ((routerFunctions models).map FunctionItem.header).Nodup := by
  have hnames := nodup_routesNames h
  have hmap : (routerFunctions models).map FunctionItem.header =
      "async fn main" :: ("router" :: models.map Model.routesName).map ("fn " ++ ·) := by
    simp only [routerFunctions, List.map_cons, List.map_map]
    rfl
  have hinjective : Function.Injective fun name : String => "fn " ++ name :=
    fun _ _ he => (String.append_right_inj "fn ").mp he
  rw [hmap, List.nodup_cons]
  refine ⟨?_,hnames.map hinjective⟩
  intro hin
  obtain ⟨name,_,he⟩ := List.mem_map.mp hin
  have hhead := congrArg (fun s : String => s.toList.head?) he
  simp [String.toList_append] at hhead

theorem safeName_cases (v : String) : Convention.service.safeName v = v ∨
    Convention.service.safeName v = "r#" ++ v := by
  unfold Convention.safeName
  split
  · exact Or.inr rfl
  · exact Or.inl rfl

theorem after?_mark_eq_none {v : String} (h : '#' ∉ v.toList) : after? "r#" v = none := by
  cases ha : after? "r#" v with
  | none => rfl
  | some rest =>
    refine absurd ?_ h
    rw [after?_eq_some_iff.mp ha]
    simp [String.toList_append]

theorem unmarked_of_after?_eq_none {v : String} (h : after? "r#" v = none) : unmarked v = v := by
  rw [unmarked, h]
  rfl

/-- Only words without a mark of their own are escaped, so without marks an escape changes nothing. -/
theorem unmarked_safeName (v : String) :
    unmarked (Convention.service.safeName v) = unmarked v := by
  unfold Convention.safeName
  split
  · rename_i hreserved
    have hword : ∀ w ∈ reservedWords, '#' ∉ w.toList := by decide
    have hmark := after?_mark_eq_none (hword v (List.contains_iff_mem.mp hreserved))
    have hescape : unmarked ("r#" ++ v) = v := by
      rw [unmarked, after?_append]
      rfl
    exact hescape.trans (unmarked_of_after?_eq_none hmark).symm
  · rfl

/-- A name without the character of the mark is what is left of it once it is escaped. -/
theorem unmarked_safeName_of_notMem {v : String} (h : '#' ∉ v.toList) :
    unmarked (Convention.service.safeName v) = v :=
  (unmarked_safeName v).trans (unmarked_of_after?_eq_none (after?_mark_eq_none h))

theorem unmarked_varIdent (h : PlainNames m) : unmarked m.varIdent = m.varName := by
  rw [h.varIdent, unmarked_safeName_of_notMem (h.varName.notMem (by decide))]

theorem handlerFile_place (h : PlainNames m) (hi : isIdentifier m.varName = true) :
    m.handlerFile.finish.path = ⟨"handlers/" ++ unmarked m.varIdent ++ ".rs"⟩ := by
  rw [unmarked_varIdent h]
  exact below_handlerSteps hi

theorem declared_index (h : ∀ m ∈ models, PlainNames m) :
    declared "pub mod " ';' (linesOf (handlerIndex models).content) =
      models.map Model.varIdent := by
  have hnames : ∀ d ∈ (handlerIndex models).source.modules, OneLine d.name := by
    intro d hd
    obtain ⟨m,hm,rfl⟩ := List.mem_map.mp hd
    exact (h m hm).oneLine_varIdent
  have hu : Unbroken (handlerIndex models).source.codeLines :=
    Source.unbroken_codeLines hnames Imports.whole_empty fun _ hn => absurd hn List.not_mem_nil
  have hstop : ∀ m ∈ models, ';' ∉ m.varIdent.toList := by
    intro m hm
    have hv := (h m hm).varName.notMem (c := ';') (by decide)
    rw [(h m hm).varIdent]
    rcases safeName_cases m.varName with he | he
    · rwa [he]
    · rw [he, String.toList_append, List.mem_append]
      rintro (hin | hin)
      · exact absurd hin (by decide)
      · exact hv hin
  have hdeclared : ∀ m ∈ models, (after? "pub mod " (ModuleDeclaration.text ⟨m.varIdent,true⟩)).map
      (upTo ';') = some m.varIdent := by
    intro m hm
    have htext : ModuleDeclaration.text ⟨m.varIdent,true⟩ =
        "pub mod " ++ (m.varIdent ++ String.singleton ';' ++ "") := by
      rw [String.append_empty, ← String.append_assoc]
      rfl
    rw [htext, after?_append, Option.map_some, upTo_append (hstop m hm)]
  rw [declared_content rfl hu (by decide)]
  have hmodules : declared "pub mod " ';'
      ((handlerIndex models).source.modules.map ModuleDeclaration.text) =
        models.map Model.varIdent := by
    rw [handlerIndex, List.map_map, declared, List.filterMap_map, ← List.filterMap_eq_map]
    exact List.filterMap_congr fun m hm => hdeclared m hm
  have himports : (handlerIndex models).source.imports.groups = [] := rfl
  have hitems : (handlerIndex models).source.items = [] := rfl
  rw [hmodules, himports, hitems, List.flatMap_nil, List.append_nil]
  exact List.append_nil _

theorem routerTies (h : ∀ m ∈ models, PlainNames m) (hn : (models.map Model.varName).Nodup) :
    RouterTies models (routerFile models).finish := by
  have hf := functionFile_routerFile h
  have hlead : functionLead false false = "fn " := by decide
  have hheader : (routerFunction models).header = "fn router" := by
    rw [header_eq]
    exact (by decide : functionLead false false ++ "router" = "fn router")
  refine ⟨path_routerFile models,?_,nodup_routesNames hn,?_⟩
  · have hd := hf.declared_content false false
    rw [hlead, ← content_finish] at hd
    have hfilter : ((routerFunctions models).filter fun g =>
        (false,false) == (g.isPublic,g.isAsync)).map FunctionItem.name =
          "router" :: models.map Model.routesName := by
      have hgroups : (models.map Model.routesFunction).filter (fun g =>
          (false,false) == (g.isPublic,g.isAsync)) = models.map Model.routesFunction := by
        refine List.filter_eq_self.mpr ?_
        intro g hg
        obtain ⟨m,_,rfl⟩ := List.mem_map.mp hg
        rfl
      rw [routerFunctions, List.filter_cons_of_neg (by decide), List.filter_cons_of_pos rfl,
        hgroups, List.map_cons, List.map_map]
      rfl
    exact hd.trans hfilter
  · have hb := hf.bodyOf_content (nodup_routerHeaders hn) (g := routerFunction models)
      (List.mem_cons_of_mem _ List.mem_cons_self)
    rw [hheader, ← content_finish] at hb
    exact hb.trans (written_router models)

theorem groupTies (h : ∀ m ∈ models, PlainNames m) (hn : (models.map Model.varName).Nodup)
    (hm : m ∈ models) (hi : isIdentifier m.varName = true) :
    GroupTies m m.varIdent (routerFile models).finish m.handlerFile.finish := by
  have hf := functionFile_handlerFile (h m hm)
  have hlead : functionLead true true = "pub async fn " := by decide
  have hnames : (m.handlerFunctions.filter fun g =>
      (true,true) == (g.isPublic,g.isAsync)).map FunctionItem.name =
        Operation.all.map m.handlerName := rfl
  refine ⟨handlerFile_place (h m hm) hi,?_,nodup_handlerNames m,?_,?_⟩
  · have hd := hf.declared_content true true
    rw [hlead, hnames, ← content_finish] at hd
    exact hd
  · intro o
    have hin : m.handler o ∈ m.handlerFunctions := by
      refine List.mem_cons_of_mem _ (List.mem_map_of_mem ?_)
      cases o <;> decide
    have hheader : (m.handler o).header = "pub async fn " ++ m.handlerName o := by
      rw [header_eq, ← hlead]
      rfl
    rw [← hheader, content_finish]
    exact hf.bodyOf_content (nodup_handlerHeaders m) hin
  · have hin : m.routesFunction ∈ routerFunctions models :=
      List.mem_cons_of_mem _ (List.mem_cons_of_mem _ (List.mem_map_of_mem hm))
    have hheader : m.routesFunction.header = "fn " ++ m.routesName := by
      rw [header_eq, ← (by decide : functionLead false false = "fn ")]
      rfl
    rw [← hheader, content_finish,
      (functionFile_routerFile h).bodyOf_content (nodup_routerHeaders hn) hin]
    exact written_group m

theorem routedWith_sublist (layout : Layout) (hm : m ∈ models) :
    (routedWith layout models m).Sublist models := by
  cases layout with
  | combined => exact List.Sublist.refl models
  | perModel => exact List.singleton_sublist.mpr hm

theorem mem_routedWith (layout : Layout) (hm : m ∈ models) : m ∈ routedWith layout models m := by
  cases layout with
  | combined => exact hm
  | perModel => exact List.mem_cons_self

theorem handlerFile_mem {layout : Layout} (hm : m ∈ models) :
    m.handlerFile ∈ filesOf layout models := by
  refine List.mem_append_left _ (List.mem_append_right _ (List.mem_flatMap.mpr ⟨m,hm,?_⟩))
  cases layout <;> exact List.mem_cons_self

theorem routerFile_mem {layout : Layout} (hm : m ∈ models) :
    routerFile (routedWith layout models m) ∈ filesOf layout models := by
  cases layout with
  | combined => exact List.mem_append_right _ List.mem_cons_self
  | perModel =>
    refine List.mem_append_left _ (List.mem_append_right _ (List.mem_flatMap.mpr ⟨m,hm,?_⟩))
    exact List.mem_cons_of_mem _ List.mem_cons_self

/-- With all groups in one router, no other file of the batch goes where the router does. -/
theorem eq_routerFile_of_path {policy : PluralPolicy} {schemas : List Schema}
    (h : modelsOf policy schemas = .ok models) {f : GeneratedFile}
    (hf : f ∈ filesOf .combined models) (hp : f.finish.path = mainPath) : f = routerFile models := by
  have hrouter : routerFile models ∈ filesOf .combined models :=
    List.mem_append_right _ List.mem_cons_self
  have hmain := path_routerFile models
  have hsteps : f.steps = ["main.rs"] := by
    refine (finish_sameAs_finish policy.lowersNames h hf hrouter).mp ?_
    rw [hp, hmain]
    decide
  rcases List.mem_append.mp hf with hf | hf
  · rcases List.mem_append.mp hf with hf | hf
    · rcases List.mem_cons.mp hf with rfl | hf
      · exact absurd hsteps (by simp [recordsFile])
      · rw [List.mem_singleton.mp hf] at hsteps
        exact absurd hsteps (by simp [handlerIndex])
    · obtain ⟨m,_,hf⟩ := List.mem_flatMap.mp hf
      rw [List.mem_singleton.mp hf] at hsteps
      exact absurd hsteps (by simp [Model.handlerFile])
  · exact List.mem_singleton.mp hf

/-- Routers, handler index and handler files of an accepted batch agree: the index declares a module
for each model in turn, and the group of each model leads to the handlers of the file of that module,
each under its path and method. With all groups in one router, it nests them all, and each once. -/
theorem render_routing (policy : PluralPolicy) (layout : Layout) (schemas : List Schema)
    (models : List Model) (hp : ∀ q ∈ policy.overridePlurals, isIdentifier q = true)
    (h : modelsOf policy schemas = .ok models) :
    ∃ files index, (⟨schemas,policy,layout⟩ : Job).render = .ok files ∧
      index ∈ files ∧ index.path = ⟨"handlers/mod.rs"⟩ ∧
      List.Forall₂ (fun m module => ∃ router ∈ files, ∃ handlers ∈ files,
          RouterTies (routedWith layout models m) router ∧ GroupTies m module router handlers)
        models (declared "pub mod " ';' (linesOf index.content)) ∧
      (layout = .combined → ∃ router ∈ files, RouterTies models router ∧
        ∀ other ∈ files, other.path = mainPath → other = router) := by
  have hplain : ∀ m ∈ models, PlainNames m := by
    intro m hm
    obtain ⟨_,_,had⟩ := exists_admitted_of_mem h hm
    exact plainNames_of_ties hp had.ties
  have hnodup := varNames_nodup h
  have hindex : handlerIndex models ∈ filesOf layout models :=
    List.mem_append_left _ (List.mem_append_left _ (List.mem_cons_of_mem _ List.mem_cons_self))
  have hplace : ((⟨""⟩ : Path).join ⟨"handlers"⟩).join ⟨"mod.rs"⟩ = ⟨"handlers/mod.rs"⟩ := by decide
  refine ⟨_,(handlerIndex models).finish,render_of_models h,List.mem_map_of_mem hindex,hplace,?_,?_⟩
  · rw [content_finish, declared_index hplain, List.forall₂_map_right_iff, List.forall₂_same]
    intro m hm
    obtain ⟨_,_,had⟩ := exists_admitted_of_mem h hm
    have hsub := routedWith_sublist layout hm
    have hrouted : ∀ n ∈ routedWith layout models m, PlainNames n :=
      fun n hn => hplain n (hsub.subset hn)
    have hrouted_nodup := hnodup.sublist (hsub.map Model.varName)
    exact ⟨_,List.mem_map_of_mem (routerFile_mem hm),_,List.mem_map_of_mem (handlerFile_mem hm),
      routerTies hrouted hrouted_nodup, groupTies hrouted hrouted_nodup (mem_routedWith layout hm)
        (isIdentifier_varName policy.lowersNames had.ties)⟩
  · rintro rfl
    refine ⟨_,List.mem_map_of_mem (List.mem_append_right _ List.mem_cons_self),
      routerTies hplain hnodup,?_⟩
    intro other hother hpath
    obtain ⟨f,hf,rfl⟩ := List.mem_map.mp hother
    exact congrArg _ (eq_routerFile_of_path h hf hpath)

/-- The policy under which several persons are people. -/
def peoplePolicy : PluralPolicy := .irregular ⟨[("person","people")]⟩ .naive

/-- A name that is a keyword and an irregular plural leave the files of a batch in agreement. -/
theorem person_type_routing :
    (∀ q ∈ peoplePolicy.overridePlurals, isIdentifier q = true) ∧
      ∃ models files index, models = [keyOnlyModel "Person" "person" "person" "people",
          keyOnlyModel "Type" "type" "r#type" "types"] ∧
        (⟨[keyOnlySchema "Person", keyOnlySchema "Type"],peoplePolicy,.combined⟩ : Job).render =
          .ok files ∧
        index ∈ files ∧ index.path = ⟨"handlers/mod.rs"⟩ ∧
        List.Forall₂ (fun m module => ∃ router ∈ files, ∃ handlers ∈ files,
            RouterTies (routedWith .combined models m) router ∧
              GroupTies m module router handlers)
          models (declared "pub mod " ';' (linesOf index.content)) ∧
        ∃ router ∈ files, RouterTies models router ∧
          ∀ other ∈ files, other.path = mainPath → other = router := by
  have hp : ∀ q ∈ peoplePolicy.overridePlurals, isIdentifier q = true := by decide
  have hm : modelsOf peoplePolicy [keyOnlySchema "Person", keyOnlySchema "Type"] =
      .ok [keyOnlyModel "Person" "person" "person" "people",
        keyOnlyModel "Type" "type" "r#type" "types"] := by
    decide +kernel
  obtain ⟨files,index,hr,hi,hpath,hgroups,hrouter⟩ :=
    render_routing peoplePolicy .combined _ _ hp hm
  exact ⟨hp,_,files,index,rfl,hr,hi,hpath,hgroups,hrouter rfl⟩

end RestScaffold
