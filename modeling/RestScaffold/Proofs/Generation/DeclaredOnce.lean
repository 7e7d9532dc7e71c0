import RestScaffold.Proofs.Generation.Routing
import RestScaffold.Proofs.Output.Columns
import RestScaffold.Proofs.Output.Contents

/-! # Names that files declare once

Two models of a batch differ in their variables and in their paths. All other names that a file
declares are made from the name of the model, a variable or an operation, so they differ as well.

Modules are the exception. Each is named for a variable, with a mark if that is a keyword, and a
policy may give a variable that has the mark already.
-/
namespace RestScaffold
variable {policy : NamingPolicy} {schemas : List Schema} {models : List Model} {m : Model}

/-- The name that an item declares. -/
def Node.declaredName? : Node → Option String
  | function f => some f.name
  | record r => some r.name
  | caseSplit _ => none
  | chain _ => none
  | raw _ => none
  | fragments _ => none

/-- The names that the items of a source file declare, in order. -/
def Source.itemNames (s : Source) : List String := s.items.filterMap Node.declaredName?

def Source.moduleNames (s : Source) : List String := s.modules.map ModuleDeclaration.name

/-- The arguments under which a chain of calls nests something. -/
def Chain.nestedAt (c : Chain) : List String :=
  (c.calls.filter fun call => call.name == "nest").filterMap fun call => call.args.head?

theorem filterMap_function (functions : List FunctionItem) :
    (functions.map Node.function).filterMap Node.declaredName? =
      functions.map FunctionItem.name := by
  rw [List.filterMap_map, ← List.filterMap_eq_map]
  rfl

theorem itemNames_recordsFile (models : List Model) :
    (recordsFile models).source.itemNames = models.map Model.name := by
  have hitems : (recordsFile models).source.items = models.map fun m => .record m.record :=
    List.nil_append _
  rw [Source.itemNames, hitems, List.filterMap_map, ← List.filterMap_eq_map]
  rfl

theorem itemNames_routerFile (models : List Model) : (routerFile models).source.itemNames =
    "main" :: "router" :: models.map Model.routesName := by
  have hnames : (routerFunctions models).map FunctionItem.name =
      "main" :: "router" :: models.map Model.routesName := by
    rw [routerFunctions, List.map_cons, List.map_cons, List.map_map]
    rfl
  exact (filterMap_function (routerFunctions models)).trans hnames

theorem itemNames_handlerFile (m : Model) : m.handlerFile.source.itemNames =
    "error_response" :: Operation.all.map m.handlerName :=
  filterMap_function m.handlerFunctions

theorem nestedAt_routerChain (models : List Model) :
    (routerChain models).nestedAt = models.map fun m => "\"/" ++ m.pathPlural ++ "\"" := by
  have hnest : (models.map fun m => (⟨"nest",["\"/" ++ m.pathPlural ++ "\"",
      m.routesName ++ "()"]⟩ : Call)).filter (fun call => call.name == "nest") =
        models.map fun m => ⟨"nest",["\"/" ++ m.pathPlural ++ "\"", m.routesName ++ "()"]⟩ := by
    simp [List.filter_eq_self]
  rw [routerChain_eq, Chain.nestedAt, List.filter_append, hnest, List.filterMap_append,
    List.filterMap_map, ← List.filterMap_eq_map]
  exact List.append_nil _

theorem nodup_handlerItems (m : Model) : m.handlerFile.source.itemNames.Nodup := by
  rw [itemNames_handlerFile, List.nodup_cons]
  refine ⟨?_,nodup_handlerNames m⟩
  intro hin
  obtain ⟨o,_,ho⟩ := List.mem_map.mp hin
  have hhead := congrArg (fun s : String => s.toList.head?) ho
  cases o <;> simp [Model.handlerName, String.toList_append] at hhead

theorem nodup_routerItems (h : (models.map Model.varName).Nodup) :
    (routerFile models).source.itemNames.Nodup := by
  rw [itemNames_routerFile, List.nodup_cons]
  refine ⟨?_,nodup_routesNames h⟩
  rw [List.mem_cons, not_or]
  refine ⟨by decide,?_⟩
  intro hin
  obtain ⟨m,_,hm⟩ := List.mem_map.mp hin
  exact routesName_ne (by decide) m hm

theorem map_name_of_models (h : modelsOf policy schemas = .ok models) :
    models.map Model.name = schemas.map Schema.name :=
  map_eq_map_of_forall₂ (modelsOf_eq_ok_iff.mp h).1 fun _ _ had => had.ties.name

theorem map_varName_of_models (h : modelsOf policy schemas = .ok models) :
    models.map Model.varName = schemas.map fun s => policy.varName s.name :=
  map_eq_map_of_forall₂ (modelsOf_eq_ok_iff.mp h).1 fun _ _ had => had.ties.varName

/-- The name of a model decides its variable, so names differ as variables do. -/
theorem names_nodup (h : modelsOf policy schemas = .ok models) :
    (schemas.map Schema.name).Nodup := by
  have hvars : (schemas.map Schema.name).map policy.varName = models.map Model.varName := by
    rw [map_varName_of_models h, List.map_map]
    rfl
  have hnodup := varNames_nodup h
  rw [← hvars] at hnodup
  exact hnodup.of_map

theorem nodup_nestedAt (h : (models.map Model.pathPlural).Nodup) :
    (routerChain models).nestedAt.Nodup := by
  have hinjective : Function.Injective fun path : String => "\"/" ++ path ++ "\"" := by
    intro a b he
    exact (String.append_right_inj _).mp ((String.append_left_inj _).mp he)
  rw [nestedAt_routerChain]
  have hpaths := h.map hinjective
  rwa [List.map_map] at hpaths

/-- No variable has the mark of an escaped name of its own. -/
def NamingPolicy.LeavesUnmarked (p : NamingPolicy) (schemas : List Schema) : Prop :=
  ∀ s ∈ schemas, after? "r#" (p.varName s.name) = none

theorem leavesUnmarked_of_lowersNames (hl : policy.LowersNames)
    (h : modelsOf policy schemas = .ok models) : policy.LeavesUnmarked schemas := by
  intro s hs
  have hchars := isIdentifier_chars (isIdentifier_of_lowersNames hl h s hs)
  exact after?_mark_eq_none (hchars.notMem (by decide))

theorem nodup_unmarked (h : modelsOf policy schemas = .ok models)
    (hu : policy.LeavesUnmarked schemas) :
    (schemas.map fun s => unmarked (policy.varName s.name)).Nodup := by
  have hvars : (schemas.map fun s => unmarked (policy.varName s.name)) =
      schemas.map fun s => policy.varName s.name :=
    List.map_congr_left fun s hs => unmarked_of_after?_eq_none (hu s hs)
  rw [hvars, ← map_varName_of_models h]
  exact varNames_nodup h

theorem unmarked_moduleNames (h : modelsOf policy schemas = .ok models) :
    (handlerIndex models).source.moduleNames.map unmarked =
      schemas.map fun s => unmarked (policy.varName s.name) := by
  have hnames : (handlerIndex models).source.moduleNames = models.map Model.varIdent :=
    List.map_map
  rw [hnames, List.map_map]
  refine map_eq_map_of_forall₂ (modelsOf_eq_ok_iff.mp h).1 ?_
  intro s m had
  rw [Function.comp_apply, had.ties.varIdent, unmarked_safeName, had.ties.varName]

theorem itemNames_nodup (h : modelsOf policy schemas = .ok models) {layout : Layout}
    {f : GeneratedFile} (hf : f ∈ filesOf layout models) : f.source.itemNames.Nodup := by
  rcases mem_filesOf_cases hf with rfl | rfl | ⟨m,_,rfl⟩ | ⟨routed,hsub,rfl⟩
  · rw [itemNames_recordsFile, map_name_of_models h]
    exact names_nodup h
  · exact List.nodup_nil
  · exact nodup_handlerItems m
  · exact nodup_routerItems ((varNames_nodup h).sublist (hsub.map _))

/-- All modules but those of the index have fixed names. -/
theorem moduleNames_nodup_iff (h : modelsOf policy schemas = .ok models) (layout : Layout) :
    (∀ f ∈ filesOf layout models, (f.source.moduleNames.map unmarked).Nodup) ↔
      (schemas.map fun s => unmarked (policy.varName s.name)).Nodup := by
  rw [← unmarked_moduleNames h]
  constructor
  · intro hall
    exact hall _ (List.mem_append_left _ (List.mem_append_left _
      (List.mem_cons_of_mem _ List.mem_cons_self)))
  · intro hindex f hf
    rcases mem_filesOf_cases hf with rfl | rfl | ⟨m,_,rfl⟩ | ⟨routed,_,rfl⟩
    · exact List.nodup_nil
    · exact hindex
    · exact List.nodup_nil
    · exact (by decide : (["handlers", "models"].map unmarked).Nodup)

/-- The names that a router declares and the paths under which it nests its groups. -/
structure RouterNames (routed : List Model) : Prop where
  items : (routerFile routed).source.itemNames =
    "main" :: "router" :: routed.map Model.routesName
  nested : (routerChain routed).nestedAt = routed.map fun m => "\"/" ++ m.pathPlural ++ "\""
  nested_nodup : (routerChain routed).nestedAt.Nodup
  written : ∀ m ∈ routed, Occurs (nestLine m.pathPlural m.routesName) (routerFile routed).content

/-- What the files of a batch declare. No item is declared twice. -/
structure DeclaresOnce (policy : NamingPolicy) (schemas : List Schema) (models : List Model)
    (layout : Layout) : Prop where
  items : ∀ f ∈ filesOf layout models, f.source.itemNames.Nodup
  records : (recordsFile models).source.itemNames = schemas.map Schema.name
  handlers : ∀ m ∈ models, m.handlerFile.source.itemNames =
    "error_response" :: Operation.all.map m.handlerName
  routers : ∀ m ∈ models, RouterNames (routedWith layout models m)
  index : (handlerIndex models).source.moduleNames.map unmarked =
    schemas.map fun s => unmarked (policy.varName s.name)

/-- No file of an accepted batch declares an item twice or nests two groups at one path. Modules
lead to files of their own exactly if the variables differ without their marks, as those do that
have none; a policy that makes variables by lower case gives them none. -/
theorem modelsOf_declares_once (policy : NamingPolicy) (layout : Layout) (schemas : List Schema)
    (models : List Model) (h : modelsOf policy schemas = .ok models) :
    DeclaresOnce policy schemas models layout ∧
    ((∀ f ∈ filesOf layout models, (f.source.moduleNames.map unmarked).Nodup) ↔
      (schemas.map fun s => unmarked (policy.varName s.name)).Nodup) ∧
    (policy.LeavesUnmarked schemas →
      (schemas.map fun s => unmarked (policy.varName s.name)).Nodup) ∧
    (policy.LowersNames → policy.LeavesUnmarked schemas) := by
  refine ⟨⟨?_,?_,?_,?_,?_⟩,moduleNames_nodup_iff h layout,nodup_unmarked h,
    fun hl => leavesUnmarked_of_lowersNames hl h⟩
  · exact fun f hf => itemNames_nodup h hf
  · rw [itemNames_recordsFile, map_name_of_models h]
  · exact fun m _ => itemNames_handlerFile m
  · intro m hm
    have hsub := routedWith_sublist layout hm
    have hpaths := (pathPlurals_nodup h).sublist (hsub.map _)
    exact ⟨itemNames_routerFile _,nestedAt_routerChain _,nodup_nestedAt hpaths,
      fun _ hn => occurs_nest hn⟩
  · exact unmarked_moduleNames h

/-- A name that is a keyword gets a module that differs from all others without its mark. -/
theorem person_type_declared_once : ∃ models,
    modelsOf peoplePolicy [keyOnlySchema "Person", keyOnlySchema "Type"] = .ok models ∧
    models.map Model.varIdent = ["person", "r#type"] ∧
    DeclaresOnce peoplePolicy [keyOnlySchema "Person", keyOnlySchema "Type"] models .combined ∧
    ∀ f ∈ filesOf .combined models, (f.source.moduleNames.map unmarked).Nodup := by
  have hm : modelsOf peoplePolicy [keyOnlySchema "Person", keyOnlySchema "Type"] =
      .ok [keyOnlyModel "Person" "person" "person" "people",
        keyOnlyModel "Type" "type" "r#type" "types"] := by
    decide +kernel
  obtain ⟨hdeclares,hmodules,hnodup,hunmarked⟩ :=
    modelsOf_declares_once peoplePolicy .combined _ _ hm
  exact ⟨_,hm,rfl,hdeclares,hmodules.mpr (hnodup (hunmarked peoplePolicy.lowersNames))⟩

/-- A policy that marks a variable itself. -/
def markingPolicy : NamingPolicy :=
  { NamingPolicy.naive with varName := fun name => if name = "Mark" then "r#type" else lowercase name }

/-- A variable with a mark and a keyword that gets one lead to the same module. And a record declares
one field twice where the schema has it in two spellings. -/
theorem type_module_declared_twice :
    (∃ models, modelsOf markingPolicy [keyOnlySchema "Type", keyOnlySchema "Mark"] = .ok models ∧
      (handlerIndex models).source.moduleNames = ["r#type", "r#type"]) ∧
    modelsOf NamingPolicy.naive [ticketSchema] = .ok [ticketModel] ∧
    ticketModel.record.fields.map RecordField.name = ["id", "created_at", "created_at"] := by
  have hmarked : modelsOf markingPolicy [keyOnlySchema "Type", keyOnlySchema "Mark"] =
      .ok [keyOnlyModel "Type" "type" "r#type" "types",
        keyOnlyModel "Mark" "r#type" "r#type" "marks"] := by
    decide +kernel
  have hticket : modelsOf NamingPolicy.naive [ticketSchema] = .ok [ticketModel] := by
    decide +kernel
  exact ⟨⟨_,hmarked,rfl⟩,hticket,rfl⟩

end RestScaffold
