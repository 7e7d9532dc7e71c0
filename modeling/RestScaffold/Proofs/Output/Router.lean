import RestScaffold.Output.Router
import RestScaffold.Proofs.Output.Handlers

/-! # The lines of router files

A group has a line for each of its two paths, and the router has one for each group, in the order
of the models. The functions of a router file are told apart by their names, and the file holds them
and nothing else besides its modules and imports.
-/
namespace RestScaffold
open Fragment
variable {m : Model} {models : List Model}

/-- The lines of a group whose handlers stand in a module under these names. -/
def groupLines (module : String) (handler : Operation → String) : List String := [
  "    Router::new()",
  "        .route(\"/\", get(handlers::" ++ module ++ "::" ++ handler .list ++ ").post(handlers::"
    ++ module ++ "::" ++ handler .create ++ "))",
  "        .route(\"/\x7bid\x7d\", get(handlers::" ++ module ++ "::" ++ handler .get
    ++ ").put(handlers::" ++ module ++ "::" ++ handler .update ++ ").delete(handlers::" ++ module
    ++ "::" ++ handler .delete ++ "))"]

/-- The line that nests a group, given by its path and its function. -/
def nestLine (path function : String) : String :=
  "        .nest(\"/" ++ path ++ "\", " ++ function ++ "())"

/-- The lines of a router that nests the groups of some models. -/
def routerLines (models : List Model) : List String :=
  "    Router::new()" :: (models.map fun m => nestLine m.pathPlural m.routesName) ++
    ["        .with_state(pool)"]

theorem written_group (m : Model) :
    written (linesOfAll 1 m.groupChain.fragments) = groupLines m.varIdent m.handlerName := by
  have hne : m.groupChain.calls ≠ [] := List.cons_ne_nil _ _
  have hlines : m.groupChain.callLines = m.groupChain.calls.map Call.text := by
    have hending : m.groupChain.ending = "" := rfl
    rw [Chain.callLines, hending, Chain.endLast_empty]
    exact List.append_nil _
  rw [Chain.linesOfAll_fragments 1 _ hne, hlines, groupLines, written]
  simp only [Model.groupChain, groupRoutes, List.foldl_cons, List.foldl_nil, Chain.callArgs,
    Chain.new, Chain.head, List.nil_append, List.cons_append, List.map_cons, List.map_nil,
    List.cons.injEq, and_true]
  refine ⟨rfl,?_,?_⟩
  all_goals
    rw [written_text_two, ← String.toList_inj]
    simp [Call.text, Chain.inline, Model.routeChain, Chain.callArg, Chain.callArgs, Chain.new,
      Chain.head, Chain.awaitText, Chain.ending, Model.handlerPath, String.toList_append]

theorem foldl_nest (c : Chain) (models : List Model) : models.foldl
    (fun c m => c.callArgs "nest" ["\"/" ++ m.pathPlural ++ "\"", m.routesName ++ "()"]) c =
      { c with calls := c.calls ++ models.map fun m =>
          ⟨"nest",["\"/" ++ m.pathPlural ++ "\"", m.routesName ++ "()"]⟩ } := by
  induction models generalizing c with
  | nil => simp
  | cons m rest ih =>
    rw [List.foldl_cons, ih]
    simp [Chain.callArgs]

/-- The router nests each group once and in order, before it takes its state. -/
theorem routerChain_eq (models : List Model) : routerChain models =
    { Chain.new "Router::new()" with calls := (models.map fun m =>
        ⟨"nest",["\"/" ++ m.pathPlural ++ "\"", m.routesName ++ "()"]⟩) ++
          [⟨"with_state",["pool"]⟩] } := by
  rw [routerChain, foldl_nest]
  rfl

theorem written_router (models : List Model) :
    written (linesOfAll 1 (routerChain models).fragments) = routerLines models := by
  have hcalls : (routerChain models).calls = (models.map fun m =>
      ⟨"nest",["\"/" ++ m.pathPlural ++ "\"", m.routesName ++ "()"]⟩) ++
        [⟨"with_state",["pool"]⟩] := by
    rw [routerChain_eq]
  have hhead : (routerChain models).head = "Router::new()" := by
    rw [routerChain_eq]
    rfl
  have hlines : (routerChain models).callLines = (routerChain models).calls.map Call.text := by
    have hending : (routerChain models).ending = "" := by
      rw [routerChain_eq]
      rfl
    have hawait : (routerChain models).awaited = false := by
      rw [routerChain_eq]
      rfl
    rw [Chain.callLines, hending, Chain.endLast_empty, hawait]
    exact List.append_nil _
  have hne : (routerChain models).calls ≠ [] := by
    rw [hcalls]
    simp
  have hnest : ∀ m : Model, (CodeLine.text 2 (Call.text
      ⟨"nest",["\"/" ++ m.pathPlural ++ "\"", m.routesName ++ "()"]⟩)).written .standard =
        nestLine m.pathPlural m.routesName := by
    intro m
    unfold nestLine
    rw [written_text_two, ← String.toList_inj]
    simp [Call.text, String.toList_append]
  have hstate : (CodeLine.text 2 (Call.text ⟨"with_state",["pool"]⟩)).written .standard =
      "        .with_state(pool)" := by
    rw [written_text_two, ← String.toList_inj]
    simp [Call.text]
  have hnew : (CodeLine.text 1 "Router::new()").written .standard = "    Router::new()" :=
    written_text_one _
  rw [Chain.linesOfAll_fragments 1 _ hne, hlines, hcalls, hhead, written_cons, hnew, routerLines]
  simp only [written, List.map_append, List.map_map, List.map_cons, List.map_nil, hstate,
    List.cons_append]
  refine congrArg _ (congrArg (· ++ _) ?_)
  exact List.map_congr_left fun m _ => hnest m

theorem routesName_chars (h : PlainNames m) : IdentifierChars m.routesName :=
  h.varName.append (by decide)

theorem unbroken_routesFunction (h : PlainNames m) :
    Unbroken (linesOfAll 0 m.routesFunction.fragments) := by
  refine FunctionItem.unbroken (routesName_chars h).oneLine ?_ (by simp [Model.routesFunction])
    (by simp [Model.routesFunction]) ?_ ?_
  · intro text ht
    rw [← Option.some.inj ht]
    simp only [oneLine_append]
    exact ⟨⟨⟨⟨by decide,h.name.oneLine⟩,by decide⟩,h.pathPlural.oneLine⟩,by decide⟩
  · intro type ht
    rw [← Option.some.inj ht]
    decide
  · have hident := h.oneLine_varIdent
    have hname := fun o => (h.handlerName_chars o).oneLine
    refine unbroken_of_written ?_
    change ∀ line ∈ written (linesOfAll 1 m.groupChain.fragments), OneLine line
    rw [written_group]
    simp only [groupLines, List.forall_mem_cons, oneLine_append]
    refine ⟨by decide,?_,?_,fun _ hl => absurd hl List.not_mem_nil⟩
    · exact ⟨⟨⟨⟨⟨⟨⟨⟨by decide,hident⟩,by decide⟩,hname _⟩,by decide⟩,hident⟩,by decide⟩,hname _⟩,
        by decide⟩
    · exact ⟨⟨⟨⟨⟨⟨⟨⟨⟨⟨⟨⟨by decide,hident⟩,by decide⟩,hname _⟩,by decide⟩,hident⟩,by decide⟩,
        hname _⟩,by decide⟩,hident⟩,by decide⟩,hname _⟩,by decide⟩

theorem unbroken_routerFunction (h : ∀ m ∈ models, PlainNames m) :
    Unbroken (linesOfAll 0 (routerFunction models).fragments) := by
  have hname : OneLine (routerFunction models).name := (by decide : OneLine "router")
  have hresult : ∀ type ∈ (routerFunction models).result, OneLine type := by
    intro type ht
    rw [← Option.some.inj ht]
    decide
  have hpool : OneLine (Parameter.text ⟨"pool","PgPool"⟩) := by decide
  refine FunctionItem.unbroken hname (by simp [routerFunction]) (by simp [routerFunction])
    (by simpa [routerFunction] using hpool) hresult ?_
  refine unbroken_of_written ?_
  change ∀ line ∈ written (linesOfAll 1 (routerChain models).fragments), OneLine line
  rw [written_router]
  unfold routerLines
  rw [List.forall_mem_append, List.forall_mem_cons]
  refine ⟨⟨by decide,?_⟩,by decide⟩
  intro line hline
  obtain ⟨m,hm,rfl⟩ := List.mem_map.mp hline
  unfold nestLine
  rw [oneLine_append, oneLine_append, oneLine_append, oneLine_append]
  exact ⟨⟨⟨⟨by decide,(h m hm).pathPlural.oneLine⟩,by decide⟩,(routesName_chars (h m hm)).oneLine⟩,
    by decide⟩

theorem unbroken_mainFunction : Unbroken (linesOfAll 0 mainFunction.fragments) := by
  refine FunctionItem.unbroken (by decide) (by decide) (by decide) (by decide) (by decide) ?_
  have hlines : mainFunction.bodyLines = [
      .text 1 "let database_url = std::env::var(\"DATABASE_URL\")?;",
      .text 1 "let pool = PgPool::connect(&database_url).await?;",
      .blank,
      .text 1 ("let listener = TcpListener::bind(\"" ++ listenAddress ++ "\").await?;"),
      .text 1 "axum::serve(listener, router(pool)).await?;",
      .blank,
      .text 1 "Ok(())"] := by
    simp [FunctionItem.bodyLines, mainFunction, linesOfAll, linesAt]
  rw [hlines]
  decide

/-- A router file can be read back function by function. -/
theorem functionFile_routerFile (h : ∀ m ∈ models, PlainNames m) :
    FunctionFile (routerFile models) (routerFunctions models) := by
  have himports : routerImports.Whole := by
    unfold routerImports
    exact (((Imports.whole_empty.addPath (by decide)).addPath (by decide)).addPath
      (by decide)).addPath (by decide)
  refine ⟨rfl,rfl,?_,?_⟩
  · refine Source.unbroken_codeLines ?_ himports ?_
    · change ∀ d ∈ [⟨"handlers",false⟩, ⟨"models",false⟩], OneLine (ModuleDeclaration.name d)
      decide
    intro n hn
    obtain ⟨g,hg,rfl⟩ := List.mem_map.mp hn
    rcases List.mem_cons.mp hg with rfl | hg
    · exact unbroken_mainFunction
    rcases List.mem_cons.mp hg with rfl | hg
    · exact unbroken_routerFunction h
    · obtain ⟨m,hm,rfl⟩ := List.mem_map.mp hg
      exact unbroken_routesFunction (h m hm)
  · intro g hg
    rcases List.mem_cons.mp hg with rfl | hg
    · decide
    rcases List.mem_cons.mp hg with rfl | hg
    · exact (by decide : '(' ∉ "router".toList)
    · obtain ⟨m,hm,rfl⟩ := List.mem_map.mp hg
      exact (routesName_chars (h m hm)).notMem (by decide)

/-- The lines in front of the router: modules, imports and the entry point. -/
def routerFront : List String := [
  "mod handlers;",
  "mod models;",
  "",
  "use axum::Router;",
  "use axum::routing::get;",
  "use sqlx::PgPool;",
  "use tokio::net::TcpListener;",
  "",
  "#[tokio::main]",
  "async fn main() -> Result<(), Box<dyn std::error::Error>> \x7b",
  "    let database_url = std::env::var(\"DATABASE_URL\")?;",
  "    let pool = PgPool::connect(&database_url).await?;",
  "",
  "    let listener = TcpListener::bind(\"0.0.0.0:8080\").await?;",
  "    axum::serve(listener, router(pool)).await?;",
  "",
  "    Ok(())",
  "\x7d"]

/-- The lines of the function that nests the groups of some models. -/
def routerItem (models : List Model) : List String :=
  "fn router(pool: PgPool) -> Router \x7b" :: (routerLines models ++ ["\x7d"])

/-- A signature that is too wide has its end on a line of its own. -/
def groupSignature (m : Model) : List String :=
  if ("fn " ++ m.routesName ++ "() -> Router<PgPool> \x7b").utf8ByteSize ≤
      FunctionItem.maxSignatureWidth then
    ["fn " ++ m.routesName ++ "() -> Router<PgPool> \x7b"]
  else ["fn " ++ m.routesName ++ "(", ") -> Router<PgPool> \x7b"]

/-- The lines of the function of a group. -/
def groupItem (m : Model) : List String :=
  ("/// Routes for `" ++ m.name ++ "`, nested at `/" ++ m.pathPlural ++ "`.") ::
    (groupSignature m ++ (groupLines m.varIdent m.handlerName ++ ["\x7d"]))

theorem written_routerFunction (models : List Model) :
    written (linesOfAll 0 (routerFunction models).fragments) = routerItem models := by
  have hsignature : linesOfAll 0 (routerFunction models).signature =
      [.text 0 "fn router(pool: PgPool) -> Router \x7b"] :=
    (by decide +kernel : linesOfAll 0 (routerFunction []).signature = _)
  have hbody : written (routerFunction models).bodyLines = routerLines models :=
    written_router models
  have hintro : (routerFunction models).introLines = [] := rfl
  rw [FunctionItem.linesOfAll_fragments, hintro, List.nil_append, ← List.cons_append,
    ← FunctionItem.linesOfAll_signature, hsignature, List.singleton_append, written_cons,
    written_append, hbody, written_text_zero]
  rfl

theorem written_groupSignature (m : Model) :
    written (linesOfAll 0 m.routesFunction.signature) = groupSignature m := by
  have hinline : m.routesFunction.inlineSignature =
      "fn " ++ m.routesName ++ "() -> Router<PgPool> \x7b" := by
    rw [← String.toList_inj]
    simp [FunctionItem.inlineSignature, FunctionItem.header, FunctionItem.resultText,
      Model.routesFunction, String.toList_append]
  unfold groupSignature
  rw [← hinline]
  split
  · rw [FunctionItem.linesOfAll_signature_of_narrow 0 ‹_›, written_cons, written_text_zero]
    rfl
  · have hheader : m.routesFunction.header = "fn " ++ m.routesName := by
      rw [header_eq, ← (by decide : functionLead false false = "fn ")]
      rfl
    have hend : written [.text 0 (")" ++ m.routesFunction.resultText ++ " \x7b")] =
        [") -> Router<PgPool> \x7b"] :=
      (by decide : written [.text 0 (")" ++ " -> Router<PgPool>" ++ " \x7b")] = _)
    rw [FunctionItem.linesOfAll_signature_of_wide 0 ‹_›, written_cons, written_text_zero,
      written_append, hheader, hend]
    rfl

theorem written_routesFunction (m : Model) :
    written (linesOfAll 0 m.routesFunction.fragments) = groupItem m := by
  have hintro : written m.routesFunction.introLines =
      ["/// Routes for `" ++ m.name ++ "`, nested at `/" ++ m.pathPlural ++ "`."] := by
    refine congrArg (· :: []) ((written_text_zero _).trans ?_)
    rw [← String.toList_inj]
    simp [commentLine, String.toList_append]
  have hbody : written m.routesFunction.bodyLines = groupLines m.varIdent m.handlerName :=
    written_group m
  rw [FunctionItem.linesOfAll_fragments, ← List.cons_append,
    ← FunctionItem.linesOfAll_signature, written_append, written_append, written_append, hintro,
    written_groupSignature, hbody]
  rfl

/-- The source of a router file in front of the router. -/
def frontSource : Source :=
  ⟨[⟨"handlers", false⟩, ⟨"models", false⟩], routerImports, [.function mainFunction]⟩

theorem written_frontSource : written frontSource.codeLines = routerFront := by
  decide +kernel

/-- The text of a router file: what all of them have in front, the function that nests the groups of
some models, and these groups one after the other. -/
def routerText (models : List Model) : String :=
  generatedHeader ++ "\n\n" ++ unlines (routerFront ++ "" :: routerItem models ++
    models.flatMap fun m => "" :: groupItem m)

theorem content_routerFile (models : List Model) :
    (routerFile models).content = routerText models := by
  have hsource : (routerFile models).source = frontSource.addAll
      ((routerFunction models :: models.map Model.routesFunction).map .function) := rfl
  have hrouter : written (.blank :: linesOfAll 0 (Node.function (routerFunction models)).toFragments)
      = "" :: routerItem models :=
    congrArg ("" :: ·) (written_routerFunction models)
  have hgroups : written (((models.map Model.routesFunction).map Node.function).flatMap
      fun n => .blank :: linesOfAll 0 n.toFragments) = models.flatMap fun m => "" :: groupItem m := by
    rw [List.map_map, List.flatMap_map, written, List.map_flatMap]
    exact congrArg models.flatMap
      (funext fun m => congrArg ("" :: ·) (written_routesFunction m))
  have hlines : written (routerFile models).source.codeLines =
      routerFront ++ "" :: routerItem models ++ models.flatMap fun m => "" :: groupItem m := by
    rw [hsource, Source.codeLines_addAll (by decide), written_append, written_frontSource,
      List.map_cons, List.flatMap_cons, written_append, hrouter, hgroups, List.append_assoc]
  have hne : (routerFile models).source.codeLines ≠ [] := by
    intro he
    rw [he] at hlines
    cases hlines
  rw [content_of_generated rfl hne, hlines, routerText]

end RestScaffold
