import RestScaffold.Output.Handlers
import RestScaffold.Proofs.Model.Names
import RestScaffold.Proofs.Output.File

/-! # The lines of handler files

A query is its call, a binding for each value, and the call that sends it off. If the names of a
model are plain, no line of its handler file is broken.
-/
namespace RestScaffold
open Fragment
variable {m : Model}

namespace Model

theorem query_eq (m : Model) (o : Operation) : m.query o =
    ⟨some "let result =",m.queryCall o,
      (m.boundValues o).map (fun value => ⟨"bind",[value]⟩) ++ [⟨o.fetch,["&pool"]⟩],
      true,false,some .semicolon⟩ := by
  unfold query
  rw [Chain.callEach_eq]
  rfl

/-- One line for each value of the query, between its call and the call that sends it off. -/
theorem linesOfAll_query (depth : Nat) (m : Model) (o : Operation) :
    linesOfAll depth (m.query o).fragments =
      .text depth ("let result = " ++ m.queryCall o) ::
        ((m.boundValues o).map (fun value => .text (depth + 1) (".bind(" ++ value ++ ")")) ++
          [.text (depth + 1) ("." ++ o.fetch ++ "(&pool)"), .text (depth + 1) ".await;"]) := by
  have hne : (m.query o).calls ≠ [] := by
    rw [query_eq]
    simp
  have hlines : (m.query o).callLines =
      (m.boundValues o).map (fun value => ".bind(" ++ value ++ ")") ++
        ["." ++ o.fetch ++ "(&pool)", ".await;"] := by
    have hbind : (m.boundValues o).map (Call.text ∘ fun value => ⟨"bind",[value]⟩) =
        (m.boundValues o).map fun value => ".bind(" ++ value ++ ")" := by
      refine List.map_congr_left fun value _ => ?_
      simp [Call.text]
    have hfetch : (⟨o.fetch,["&pool"]⟩ : Call).text = "." ++ o.fetch ++ "(&pool)" := by
      rw [← String.toList_inj]
      simp [Call.text, String.toList_append]
    rw [query_eq]
    simp only [Chain.callLines, List.map_append, List.map_map, hbind, List.map_cons, List.map_nil,
      hfetch, ↓reduceIte, Chain.endLast_concat]
    simp [Chain.ending, Terminator.text]
  rw [Chain.linesOfAll_fragments depth _ hne, hlines, query_eq]
  simp [Chain.head]

end Model

theorem oneLine_placeholder (n : Nat) : OneLine (Model.placeholder n) := by
  refine oneLine_append.mpr ⟨by decide,?_⟩
  intro c hc
  have hdigit : c.isDigit = true := by
    rw [Nat.toString_eq_repr, Nat.toList_repr] at hc
    exact Nat.isDigit_of_mem_toDigits (by decide) (by decide) hc
  constructor
  · rintro rfl
    exact absurd hdigit (by decide)
  · rintro rfl
    exact absurd hdigit (by decide)

namespace PlainNames

theorem oneLine_varIdent (h : PlainNames m) : OneLine m.varIdent :=
  h.varIdent ▸ oneLine_safeName h.varName.oneLine

theorem oneLine_varIdentPlural (h : PlainNames m) : OneLine m.varIdentPlural :=
  h.varIdentPlural ▸ oneLine_safeName h.varNamePlural.oneLine

theorem handlerName_chars (h : PlainNames m) (o : Operation) :
    IdentifierChars (m.handlerName o) := by
  cases o
  case list => exact IdentifierChars.append (by decide) h.varNamePlural
  all_goals exact IdentifierChars.append (by decide) h.varName

theorem oneLine_collectionRoute (h : PlainNames m) : OneLine m.collectionRoute :=
  oneLine_append.mpr ⟨by decide,h.pathPlural.oneLine⟩

theorem oneLine_memberRoute (h : PlainNames m) : OneLine m.memberRoute :=
  oneLine_append.mpr ⟨h.oneLine_collectionRoute,by decide⟩

theorem oneLine_handlerDoc (h : PlainNames m) (o : Operation) : OneLine (m.handlerDoc o) := by
  cases o
  case list => exact oneLine_append.mpr ⟨by decide,h.oneLine_collectionRoute⟩
  case create => exact oneLine_append.mpr ⟨by decide,h.oneLine_collectionRoute⟩
  all_goals exact oneLine_append.mpr ⟨by decide,h.oneLine_memberRoute⟩

theorem oneLine_parameter (h : PlainNames m) (o : Operation) :
    ∀ p ∈ m.handlerParameters o, OneLine p.text := by
  have htype : ∀ t : FieldType, OneLine t.targetType := by
    intro t
    cases t <;> decide
  have hstate : OneLine Model.stateParameter.text := by decide
  have hpath : OneLine m.pathParameter.text := by
    simp only [Parameter.text, Model.pathParameter, oneLine_append]
    exact ⟨⟨by decide,by decide⟩,⟨by decide,htype _⟩,by decide⟩
  have hpayload : OneLine m.payloadParameter.text := by
    simp only [Parameter.text, Model.payloadParameter, oneLine_append]
    exact ⟨⟨by decide,by decide⟩,⟨by decide,h.name.oneLine⟩,by decide⟩
  cases o <;> simp [Model.handlerParameters, hstate, hpath, hpayload]

theorem oneLine_statement (h : PlainNames m) (o : Operation) : OneLine (m.statement o) := by
  have hcolumn := (h.fields _ h.identifier).1
  have hcolumns : ∀ column ∈ m.columns, OneLine column := by
    intro column hc
    obtain ⟨f,hf,rfl⟩ := List.mem_map.mp hc
    exact (h.fields f hf).1
  have hplaceholders : ∀ value ∈ m.placeholders, OneLine value := by
    intro value hv
    obtain ⟨i,_,rfl⟩ := List.mem_map.mp hv
    exact oneLine_placeholder (i + 1)
  have hset : ∀ part ∈ m.updateSet, OneLine part := by
    intro part hp
    rw [Model.updateSet, ← List.map_uncurry_zip_eq_zipWith] at hp
    obtain ⟨⟨column,value⟩,hz,rfl⟩ := List.mem_map.mp hp
    obtain ⟨hc,hv⟩ := List.of_mem_zip hz
    simp only [Function.uncurry, oneLine_append]
    exact ⟨⟨hcolumns column hc,by decide⟩,hplaceholders value hv⟩
  have hcolumnsList : OneLine m.columnsList := OneLine.intercalate (by decide) hcolumns
  have hplaceholdersList : OneLine m.placeholdersList :=
    OneLine.intercalate (by decide) hplaceholders
  have hsetList : OneLine m.updateSetList := OneLine.intercalate (by decide) hset
  unfold Model.statement
  cases o <;> simp only [oneLine_append]
  case get => exact ⟨⟨⟨⟨by decide,h.table⟩,by decide⟩,hcolumn⟩,by decide⟩
  case list => exact ⟨by decide,h.table⟩
  case create =>
    exact ⟨⟨⟨⟨⟨⟨by decide,h.table⟩,by decide⟩,hcolumnsList⟩,by decide⟩,hplaceholdersList⟩,
      by decide⟩
  case update =>
    exact ⟨⟨⟨⟨⟨⟨⟨by decide,h.table⟩,by decide⟩,hsetList⟩,by decide⟩,hcolumn⟩,by decide⟩,
      oneLine_placeholder _⟩
  case delete => exact ⟨⟨⟨⟨by decide,h.table⟩,by decide⟩,hcolumn⟩,by decide⟩

theorem oneLine_queryCall (h : PlainNames m) (o : Operation) : OneLine (m.queryCall o) := by
  unfold Model.queryCall
  split
  · simp only [oneLine_append]
    exact ⟨⟨⟨⟨by decide,h.name.oneLine⟩,by decide⟩,h.oneLine_statement o⟩,by decide⟩
  · simp only [oneLine_append]
    exact ⟨⟨by decide,h.oneLine_statement o⟩,by decide⟩

theorem oneLine_bindingText (h : PlainNames m) {b : Binding}
    (hb : b ∈ m.updateValues) : OneLine (m.bindingText b) := by
  rcases List.mem_append.mp hb with hb | hb
  · obtain ⟨f,hf,rfl⟩ := List.mem_map.mp hb
    simp only [Model.bindingText, oneLine_append]
    exact ⟨⟨⟨by decide,h.oneLine_varIdent⟩,by decide⟩,(h.fields f hf).2⟩
  · have hid : OneLine "&id" := by decide
    rw [List.mem_singleton.mp hb]
    exact hid

theorem oneLine_boundValues (h : PlainNames m) (o : Operation) :
    ∀ value ∈ m.boundValues o, OneLine value := by
  cases o <;> simp only [Model.boundValues, List.forall_mem_singleton, List.forall_mem_map]
  case get => decide
  case list => exact fun _ hv => absurd hv List.not_mem_nil
  case create => exact fun b hb => h.oneLine_bindingText (List.mem_append_left _ hb)
  case update => exact fun b hb => h.oneLine_bindingText hb
  case delete => decide

theorem oneLine_response {status value : String} (hs : OneLine status) (hv : OneLine value) :
    OneLine (Model.response status value) := by
  unfold Model.response
  simp only [oneLine_append]
  exact ⟨⟨⟨⟨by decide,hs⟩,by decide⟩,hv⟩,by decide⟩

theorem oneLine_outcomeArms (h : PlainNames m) (o : Operation) :
    ∀ a ∈ m.outcomeArms o, OneLine a.pattern ∧ OneLine a.value := by
  have hok : ∀ {ident : String}, OneLine ident → OneLine ("Ok(" ++ ident ++ ")") :=
    fun hi => oneLine_append.mpr ⟨oneLine_append.mpr ⟨by decide,hi⟩,by decide⟩
  have hvar := h.oneLine_varIdent
  have hplural := h.oneLine_varIdentPlural
  have hOK : OneLine "OK" := by decide
  have hCREATED : OneLine "CREATED" := by decide
  have hfailure : OneLine Model.failureArm.pattern ∧ OneLine Model.failureArm.value := by decide
  have hnotFound : OneLine m.notFoundArm.pattern ∧ OneLine m.notFoundArm.value := by
    simp only [Model.notFoundArm, oneLine_append]
    exact ⟨by decide,⟨by decide,h.name.oneLine⟩,by decide⟩
  have hdeleted : OneLine m.deletedMessage := by
    unfold Model.deletedMessage
    rw [oneLine_append, oneLine_append]
    exact ⟨⟨by decide,h.name.oneLine⟩,by decide⟩
  have hdone : OneLine "Ok(_)" := by decide
  cases o <;> simp only [Model.outcomeArms, List.forall_mem_cons, List.not_mem_nil,
    false_imp_iff, implies_true, and_true]
  case get => exact ⟨⟨hok hvar,oneLine_response hOK hvar⟩,hnotFound,hfailure⟩
  case list => exact ⟨⟨hok hplural,oneLine_response hOK hplural⟩,hfailure⟩
  case create => exact ⟨⟨hok hvar,oneLine_response hCREATED hvar⟩,hfailure⟩
  case update => exact ⟨⟨hdone,oneLine_response hOK hvar⟩,hfailure⟩
  case delete => exact ⟨⟨hdone,oneLine_response hOK hdeleted⟩,hfailure⟩

theorem unbroken_extractPayload {pattern : String} (hp : OneLine pattern) (depth : Nat) :
    Unbroken (linesOfAll depth (Model.extractPayload pattern).fragments) := by
  have hscrutinee : OneLine "payload" := by decide
  have harms : ∀ a ∈ (Model.extractPayload "").arms, OneLine a.pattern ∧ OneLine a.value := by
    decide
  refine CaseSplit.unbroken depth ?_ hscrutinee harms
  intro target ht
  rw [← Option.some.inj ht]
  exact oneLine_append.mpr ⟨oneLine_append.mpr ⟨by decide,hp⟩,by decide⟩

theorem unbroken_preamble (h : PlainNames m) (o : Operation) (depth : Nat) :
    Unbroken (linesOfAll depth (m.preamble o)) := by
  have hblank : Unbroken [.blank] := unbroken_cons.mpr ⟨by decide,unbroken_nil⟩
  cases o with
  | get => exact linesOfAll.eq_1 depth ▸ unbroken_nil
  | list => exact linesOfAll.eq_1 depth ▸ unbroken_nil
  | create =>
    rw [Model.preamble, linesOfAll_append]
    refine unbroken_append.mpr ⟨unbroken_extractPayload h.oneLine_varIdent depth,?_⟩
    simpa [linesOfAll, linesAt] using hblank
  | update =>
    have hmut : OneLine ("mut " ++ m.varIdent) :=
      oneLine_append.mpr ⟨by decide,h.oneLine_varIdent⟩
    have hassign : OneLine m.assignIdentifier := by
      simp only [Model.assignIdentifier, oneLine_append]
      refine ⟨⟨⟨⟨⟨h.oneLine_varIdent,by decide⟩,(h.fields _ h.identifier).2⟩,by decide⟩,?_⟩,
        by decide⟩
      split <;> decide
    rw [Model.preamble, linesOfAll_append]
    refine unbroken_append.mpr ⟨unbroken_extractPayload hmut depth,?_⟩
    simpa [linesOfAll, linesAt] using unbroken_text_cons.mpr ⟨hassign,hblank⟩
  | delete => exact linesOfAll.eq_1 depth ▸ unbroken_nil

theorem unbroken_query (h : PlainNames m) (o : Operation) (depth : Nat) :
    Unbroken (linesOfAll depth (m.query o).fragments) := by
  rw [Model.linesOfAll_query]
  refine unbroken_text_cons.mpr ⟨oneLine_append.mpr ⟨by decide,h.oneLine_queryCall o⟩,?_⟩
  refine unbroken_append.mpr ⟨?_,?_⟩
  · intro line hline
    obtain ⟨value,hv,rfl⟩ := List.mem_map.mp hline
    simp only [CodeLine.content, oneLine_append]
    exact ⟨⟨by decide,h.oneLine_boundValues o value hv⟩,by decide⟩
  · have hfetch : OneLine ("." ++ o.fetch ++ "(&pool)") := by
      cases o <;> decide
    exact unbroken_text_cons.mpr ⟨hfetch,unbroken_text_cons.mpr ⟨by decide,unbroken_nil⟩⟩

theorem unbroken_handler (h : PlainNames m) (o : Operation) :
    Unbroken (linesOfAll 0 (m.handler o).fragments) := by
  refine FunctionItem.unbroken (h.handlerName_chars o).oneLine ?_ (by simp [Model.handler])
    (h.oneLine_parameter o) ?_ ?_
  · intro text ht
    rw [← Option.some.inj ht]
    exact h.oneLine_handlerDoc o
  · intro type ht
    rw [← Option.some.inj ht]
    decide
  · unfold FunctionItem.bodyLines Model.handler
    simp only [linesOfAll_append]
    refine unbroken_append.mpr ⟨unbroken_append.mpr ⟨unbroken_append.mpr
      ⟨h.unbroken_preamble o 1,h.unbroken_query o 1⟩,?_⟩,?_⟩
    · rw [linesOfAll_singleton, linesAt]
      exact unbroken_cons.mpr ⟨by decide,unbroken_nil⟩
    · exact CaseSplit.unbroken 1 (by simp [Model.outcome]) (by simp [Model.outcome]; decide)
        (h.oneLine_outcomeArms o)

theorem whole_handlerImports (h : PlainNames m) : m.handlerImports.Whole := by
  have hname : OneLine ("crate::models::" ++ m.name) :=
    oneLine_append.mpr ⟨by decide,h.name.oneLine⟩
  unfold Model.handlerImports
  exact ((((((((Imports.whole_empty.addPath (by decide)).addPath (by decide)).addAll (by decide)
    (by decide)).addPath (by decide)).addAll (by decide) (by decide)).addPath (by decide)).addPath
    (by decide)).addPath hname)

end PlainNames

theorem unbroken_errorResponse : Unbroken (linesOfAll 0 Model.errorResponse.fragments) := by
  refine FunctionItem.unbroken (by decide) (by simp [Model.errorResponse])
    (by simp [Model.errorResponse]) (by decide) (by decide) ?_
  unfold FunctionItem.bodyLines Model.errorResponse
  rw [linesOfAll_singleton, linesAt]
  exact unbroken_cons.mpr ⟨by decide,unbroken_nil⟩

/-- The handler file of a model with plain names can be read back function by function. -/
theorem functionFile_handlerFile (h : PlainNames m) :
    FunctionFile m.handlerFile m.handlerFunctions := by
  refine ⟨rfl,rfl,?_,?_⟩
  · refine Source.unbroken_codeLines (by simp [Model.handlerFile]) h.whole_handlerImports ?_
    intro n hn
    obtain ⟨g,hg,rfl⟩ := List.mem_map.mp hn
    rcases List.mem_cons.mp hg with rfl | hg
    · exact unbroken_errorResponse
    · obtain ⟨o,_,rfl⟩ := List.mem_map.mp hg
      exact h.unbroken_handler o
  · intro g hg
    rcases List.mem_cons.mp hg with rfl | hg
    · decide
    · obtain ⟨o,_,rfl⟩ := List.mem_map.mp hg
      exact (h.handlerName_chars o).notMem (by decide)

end RestScaffold
