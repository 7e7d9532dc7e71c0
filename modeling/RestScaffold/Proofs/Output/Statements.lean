import RestScaffold.Proofs.Output.Contents

/-! # Statements and what is bound to them

The placeholders of a statement are counted by the columns of the schema, and the values that are
bound to them are the fields of the record in the same order. An update has one placeholder more,
for the identifier in the path, which the record has taken over by then.
-/
namespace RestScaffold
open Fragment
variable {m : Model} {policy : NamingPolicy} {schema : Schema}

/-- The statement that stores a record with these columns, a placeholder for each. -/
def insertText (table : String) (columns : List String) : String :=
  "INSERT INTO " ++ table ++ " (" ++ String.intercalate ", " columns ++ ") VALUES ("
    ++ String.intercalate ", " ((List.range columns.length).map fun i => "$" ++ toString (i + 1))
    ++ ") RETURNING *"

/-- The statement that sets each column to its placeholder where the key is the one after them. -/
def updateText (table : String) (columns : List String) (key : String) : String :=
  "UPDATE " ++ table ++ " SET "
    ++ String.intercalate ", " (columns.mapIdx fun i column => column ++ " = $" ++ toString (i + 1))
    ++ " WHERE " ++ key ++ " = $" ++ toString (columns.length + 1)

/-- The lines of a query that binds these values in turn. -/
def queryLines (call : String) (values : List String) (fetch : String) : List String :=
  ("    let result = " ++ call) :: (values.map fun value => "        .bind(" ++ value ++ ")") ++
    ["        ." ++ fetch ++ "(&pool)", "        .await;"]

/-- The lines of a function in front of its body. -/
def FunctionItem.signatureLines (f : FunctionItem) : List String :=
  written f.introLines ++ f.opening :: written f.parameterLines

/-- A handler sends a statement with these values bound to it and no others, after some lines. -/
structure Sends (m : Model) (o : Operation) (prior : List String) (call : String)
    (values : List String) : Prop where
  base : (m.query o).base = call
  calls : (m.query o).calls =
    values.map (fun value => ⟨"bind",[value]⟩) ++ [⟨o.fetch,["&pool"]⟩]
  text : ∃ before front back after, m.handlerFile.content = before ++
      unlines ((m.handler o).signatureLines ++ (front ++ prior ++ queryLines call values o.fetch ++
        back)) ++ after ∧
    ∀ line ∈ front ++ back, after? "        .bind(" line = none

theorem zipWith_range_eq_mapIdx {α β γ : Type} (f : α → β → γ) (g : Nat → β) (xs : List α) :
    List.zipWith f xs ((List.range xs.length).map g) = xs.mapIdx fun i x => f x (g i) := by
  refine List.ext_getElem (by simp) ?_
  intro i hi _
  simp

theorem statement_create (m : Model) : m.statement .create = insertText m.tableName m.columns := by
  have hlength : m.fields.length = m.columns.length := (List.length_map _).symm
  unfold Model.statement insertText
  rw [Model.columnsList, Model.placeholdersList, Model.placeholders, hlength]
  rfl

theorem statement_update (m : Model) :
    m.statement .update = updateText m.tableName m.columns m.identifier.column := by
  have hlength : m.fields.length = m.columns.length := (List.length_map _).symm
  have hset : m.updateSet =
      m.columns.mapIdx fun i column => column ++ " = $" ++ toString (i + 1) := by
    rw [Model.updateSet, Model.placeholders, hlength,
      zipWith_range_eq_mapIdx _ fun i => Model.placeholder (i + 1)]
    refine congrArg (fun f => m.columns.mapIdx f) (funext fun i => funext fun column => ?_)
    rw [Model.placeholder, ← String.toList_inj]
    simp [String.toList_append]
  have hwhere : m.updateWherePlaceholder = "$" ++ toString (m.columns.length + 1) := by
    rw [Model.updateWherePlaceholder, Model.updateValues, Model.placeholderValues,
      List.length_append, List.length_map, ← hlength]
    rfl
  have hkey : " = $" = " = " ++ "$" := by decide
  unfold Model.statement updateText
  rw [Model.updateSetList, hset, hwhere, hkey]
  simp only [String.append_assoc]

theorem written_query (m : Model) (o : Operation) :
    written (linesOfAll 1 (m.query o).fragments) =
      queryLines (m.queryCall o) (m.boundValues o) o.fetch := by
  rw [Model.linesOfAll_query, written_cons, written_text_one, written_append, queryLines]
  have hbinds : written ((m.boundValues o).map fun value => .text 2 (".bind(" ++ value ++ ")")) =
      (m.boundValues o).map fun value => "        .bind(" ++ value ++ ")" := by
    rw [written, List.map_map]
    refine List.map_congr_left fun value _ => ?_
    rw [Function.comp_apply, written_text_two, ← String.toList_inj]
    simp [String.toList_append]
  have hcall : "    " ++ ("let result = " ++ m.queryCall o) =
      "    let result = " ++ m.queryCall o := by
    rw [← String.toList_inj]
    simp [String.toList_append]
  have hfetch : "        " ++ ("." ++ o.fetch ++ "(&pool)") =
      "        ." ++ o.fetch ++ "(&pool)" := by
    rw [← String.toList_inj]
    simp [String.toList_append]
  have hawait : "        " ++ ".await;" = "        .await;" := by decide
  rw [hbinds, written_cons, written_cons, written_text_two, written_text_two, hcall, hfetch, hawait]
  rfl

/-- The lines of a case split bind nothing unless a pattern starts with a dot. -/
theorem binds_nothing (s : CaseSplit) (hh : s.header.toList.head? ≠ some ' ')
    (ha : ∀ a ∈ s.arms, a.pattern.toList.head? ≠ some '.' ∧ a.pattern ≠ "") :
    ∀ line ∈ written (linesOfAll 1 s.fragments), after? "        .bind(" line = none := by
  have hfour : "        .bind(" = "    " ++ "    .bind(" := by decide
  have height : "        .bind(" = "        " ++ ".bind(" := by decide
  rw [CaseSplit.linesOfAll_fragments, written_cons, written_append, written_text_one,
    List.forall_mem_cons, List.forall_mem_append]
  refine ⟨?_,?_,?_⟩
  · rw [hfour, after?_append_append]
    exact after?_eq_none_of_head hh (by decide)
  · intro line hline
    obtain ⟨l,hl,rfl⟩ := List.mem_map.mp hline
    obtain ⟨a,harm,rfl⟩ := List.mem_map.mp hl
    obtain ⟨hdot,hne⟩ := ha a harm
    obtain ⟨c,cs,hc⟩ := List.exists_cons_of_ne_nil (mt String.toList_eq_nil_iff.mp hne)
    rw [written_text_two, height, after?_append_append]
    refine after?_eq_none_of_head ?_ (by decide)
    rw [hc] at hdot
    rw [String.append_assoc, String.append_assoc, String.toList_append, hc]
    exact hdot
  · rw [written_cons, written_text_one, List.forall_mem_cons]
    refine ⟨?_,fun _ hl => absurd hl List.not_mem_nil⟩
    rw [hfour, after?_append_append]
    unfold CaseSplit.close
    split <;> decide

/-- Where the text of a handler stands in the file of its model. -/
theorem handler_in_content (m : Model) (o : Operation) : ∃ before after,
    m.handlerFile.content = before ++
      unlines ((m.handler o).signatureLines ++ written (m.handler o).bodyLines) ++ after := by
  have hlines : linesOfAll 0 (Node.function (m.handler o)).toFragments = _ :=
    (m.handler o).linesOfAll_fragments
  refine Occurs.trans (Occurs.unlines ⟨[],["\x7d"],?_⟩) (occurs_item rfl (handler_mem m o))
  rw [hlines, FunctionItem.signatureLines]
  simp only [written_append, written_cons, written_text_zero, List.append_assoc, List.cons_append,
    List.nil_append]
  rfl

theorem binds_nothing_outcome (m : Model) (o : Operation) :
    ∀ line ∈ written (linesOfAll 1 (m.outcome o).fragments),
      after? "        .bind(" line = none := by
  have hok : ∀ ident : String, ("Ok(" ++ ident ++ ")").toList.head? ≠ some '.' ∧
      "Ok(" ++ ident ++ ")" ≠ "" := by
    intro ident
    constructor
    · simp [String.toList_append]
    · simp [String.append_eq_empty_iff]
  have hfailure : Model.failureArm.pattern.toList.head? ≠ some '.' ∧
      Model.failureArm.pattern ≠ "" := by decide
  have hnotFound : m.notFoundArm.pattern.toList.head? ≠ some '.' ∧ m.notFoundArm.pattern ≠ "" :=
    (by decide : "Err(sqlx::Error::RowNotFound)".toList.head? ≠ some '.' ∧
      "Err(sqlx::Error::RowNotFound)" ≠ "")
  have hdone : "Ok(_)".toList.head? ≠ some '.' ∧ "Ok(_)" ≠ "" := by decide
  refine binds_nothing _ (by decide : "match result \x7b".toList.head? ≠ some ' ') ?_
  cases o <;> simp only [Model.outcome, Model.outcomeArms, List.forall_mem_cons, List.not_mem_nil,
    false_imp_iff, implies_true, and_true]
  case get => exact ⟨hok _,hnotFound,hfailure⟩
  case list => exact ⟨hok _,hfailure⟩
  case create => exact ⟨hok _,hfailure⟩
  case update => exact ⟨hdone,hfailure⟩
  case delete => exact ⟨hdone,hfailure⟩

theorem binds_nothing_extractPayload (pattern : String) :
    ∀ line ∈ written (linesOfAll 1 (Model.extractPayload pattern).fragments),
      after? "        .bind(" line = none := by
  have harms : ∀ a ∈ (Model.extractPayload "").arms,
      a.pattern.toList.head? ≠ some '.' ∧ a.pattern ≠ "" := by decide
  refine binds_nothing _ ?_ harms
  simp [CaseSplit.header, Model.extractPayload, String.toList_append]

theorem sends_of_preamble {o : Operation} {front prior : List String}
    (hp : written (linesOfAll 1 (m.preamble o)) = front ++ prior)
    (hfront : ∀ line ∈ front, after? "        .bind(" line = none) :
    Sends m o prior (m.queryCall o) (m.boundValues o) := by
  obtain ⟨before,after,hcontent⟩ := handler_in_content m o
  refine ⟨?_,?_,before,front,"" :: written (linesOfAll 1 (m.outcome o).fragments),after,?_,?_⟩
  · rw [Model.query_eq]
  · rw [Model.query_eq]
  · rw [hcontent, bodyLines_handler, written_append, written_append, written_append, hp,
      written_query]
    simp only [List.append_assoc]
    rfl
  · rw [List.forall_mem_append, List.forall_mem_cons]
    exact ⟨hfront,by decide,binds_nothing_outcome m o⟩

theorem sends_create (m : Model) :
    Sends m .create [] (m.queryCall .create) (m.boundValues .create) := by
  have hblank : linesOfAll 1 [.blank] = [.blank] := by rw [linesOfAll_singleton, linesAt]
  have hpreamble : written (linesOfAll 1 (m.preamble .create)) =
      (written (linesOfAll 1 (Model.extractPayload m.varIdent).fragments) ++ [""]) ++ [] := by
    rw [Model.preamble, linesOfAll_append, written_append, hblank, List.append_nil]
    rfl
  refine sends_of_preamble hpreamble ?_
  rw [List.forall_mem_append]
  exact ⟨binds_nothing_extractPayload m.varIdent,by decide⟩

theorem written_preamble_update (m : Model) : written (linesOfAll 1 (m.preamble .update)) =
    written (linesOfAll 1 (Model.extractPayload ("mut " ++ m.varIdent)).fragments) ++
      ["    " ++ m.assignIdentifier, ""] := by
  have hlast : linesOfAll 1 [.line m.assignIdentifier, .blank] =
      [.text 1 m.assignIdentifier, .blank] := by
    simp [linesOfAll, linesAt]
  rw [Model.preamble, linesOfAll_append, written_append, hlast, written_cons, written_text_one]
  rfl

theorem sends_update (m : Model) : Sends m .update ["    " ++ m.assignIdentifier, ""]
    (m.queryCall .update) (m.boundValues .update) :=
  sends_of_preamble (written_preamble_update m) (binds_nothing_extractPayload ("mut " ++ m.varIdent))

/-- The columns of a schema, in the order of its fields. -/
def Schema.columns (s : Schema) : List String :=
  s.fields.map fun f => Convention.service.columnName f.name

/-- References to the fields of a record, in the order of the schema. -/
def Schema.references (s : Schema) (record : String) : List String :=
  s.fields.map fun f => "&" ++ record ++ "." ++ Convention.service.fieldName f.name

/-- The line by which a record takes over the identifier in the path. -/
def Field.takeover (key : Field) (record : String) : String :=
  "    " ++ (record ++ "." ++ Convention.service.fieldName key.name ++ " = "
    ++ (if key.type.isCopy then "id" else "id.clone()") ++ ";")

/-- The statements of a composed model list the columns of its schema in order, with as many
placeholders, and bind the fields of the record in the same order. An update has the identifier
bound once more, after the record has taken it over, and finds its row by the first field that is
named `id` in any case. -/
theorem ofSchema_sends (policy : NamingPolicy) (schema : Schema) (m : Model)
    (h : Model.ofSchema policy .service schema = .ok m) :
    0 < schema.fields.length ∧ ∃ earlier key later,
      schema.fields = earlier ++ key :: later ∧ isIdName key.name = true ∧
      (∀ f ∈ earlier, isIdName f.name = false) ∧ schema.identifier? = some key ∧
      Sends m .create [] ("sqlx::query_as::<_, " ++ schema.name ++ ">(\"" ++
        insertText m.tableName schema.columns ++ "\")") (schema.references m.varIdent) ∧
      Sends m .update [key.takeover m.varIdent, ""] ("sqlx::query(\"" ++
        updateText m.tableName schema.columns (Convention.service.columnName key.name) ++ "\")")
        (schema.references m.varIdent ++ ["&id"]) := by
  have ht := ofSchema_eq_ok_iff.mp h
  have hcolumns : m.columns = schema.columns :=
    map_eq_map_of_forall₂ ht.fields fun _ _ hf => hf.column
  have hvalues : m.placeholderValues.map m.bindingText = schema.references m.varIdent := by
    rw [Model.placeholderValues, List.map_map]
    refine map_eq_map_of_forall₂ ht.fields ?_
    intro f mf hf
    rw [Function.comp_apply, Model.bindingText, hf.ident]
  obtain ⟨key,hkey,hties⟩ := find?_of_forall₂ (p := Field.isIdentifier) ht.fields
    (fun f mf hf => by rw [hf.name, Field.isIdentifier]) ht.identifier
  obtain ⟨hid,earlier,later,hsplit,hearlier⟩ := List.find?_eq_some_iff_append.mp hkey
  have htakeover : "    " ++ m.assignIdentifier = key.takeover m.varIdent := by
    rw [Model.assignIdentifier, hties.ident, hties.type, Field.takeover]
  have hcreate := sends_create m
  have hupdate := sends_update m
  rw [Model.queryCall, statement_create, hcolumns, ht.name, Model.boundValues, hvalues] at hcreate
  rw [Model.queryCall, statement_update, hcolumns, hties.column, htakeover, Model.boundValues,
    Model.updateValues, List.map_append, hvalues] at hupdate
  refine ⟨List.length_pos_iff.mpr ht.fields_ne_nil,earlier,key,later,hsplit,hid,?_,hkey,?_,?_⟩
  · intro f hf
    simpa [Field.isIdentifier] using hearlier f hf
  · exact hcreate
  · exact hupdate

/-- A schema whose identifier is not the first field and which has a keyword for a field. -/
def parcelSchema : Schema :=
  ⟨"Parcel",none,[⟨"Weight",.float,"weight"⟩, ⟨"ID",.uuid,"id"⟩, ⟨"type",.string,"type"⟩]⟩

def parcelModel : Model where
  name := "Parcel"
  varName := "parcel"
  varNamePlural := "parcels"
  varIdent := "parcel"
  varIdentPlural := "parcels"
  pathPlural := "parcels"
  tableName := "parcels"
  fields := [⟨"Weight","weight","weight",.float,"weight"⟩, ⟨"ID","id","id",.uuid,"id"⟩,
    ⟨"type","r#type","type",.string,"type"⟩]
  identifier := ⟨"ID","id","id",.uuid,"id"⟩

/-- A column is named after its field, and the reference to it is escaped. -/
theorem parcel_sends :
    Model.ofSchema NamingPolicy.naive .service parcelSchema = .ok parcelModel ∧
      Sends parcelModel .create [] ("sqlx::query_as::<_, Parcel>(\"INSERT INTO parcels " ++
          "(weight, id, type) VALUES ($1, $2, $3) RETURNING *\")")
        ["&parcel.weight", "&parcel.id", "&parcel.r#type"] ∧
      Sends parcelModel .update ["    parcel.id = id;", ""] ("sqlx::query(\"UPDATE parcels SET " ++
          "weight = $1, id = $2, type = $3 WHERE id = $4\")")
        ["&parcel.weight", "&parcel.id", "&parcel.r#type", "&id"] := by
  have hm : Model.ofSchema NamingPolicy.naive .service parcelSchema = .ok parcelModel := by
    decide +kernel
  obtain ⟨_,_,key,_,_,_,_,hkey,hcreate,hupdate⟩ := ofSchema_sends .naive parcelSchema _ hm
  have hid : key = ⟨"ID",.uuid,"id"⟩ := by
    rw [show parcelSchema.identifier? = some ⟨"ID",.uuid,"id"⟩ by decide +kernel] at hkey
    exact (Option.some.inj hkey).symm
  subst hid
  refine ⟨hm,?_,?_⟩
  · convert hcreate using 1 <;> decide +kernel
  · convert hupdate using 1 <;> decide +kernel

end RestScaffold
