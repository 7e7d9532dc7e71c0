import RestScaffold.Proofs.Generation.Routing
import RestScaffold.Proofs.Output.Statements

/-! # Records read back

The lines between the braces of a record declare a name in code, a key and a type for each field. Read
back, the names without their marks are the columns of the statements, the keys are the tags of the
fields, and the type of the first field named `id` is the one that the path is read as.
-/
namespace RestScaffold
variable {policy : NamingPolicy} {schema : Schema} {m : Model}

/-- What a literal holds that is written without escapes, from after its opening quote on. -/
def plainLiteral? : List Char → Option (List Char)
  | [] => none
  | c :: rest =>
    if c = '"' then some []
    else if c = '\\' ∨ Unicode.isControl c = true then none
    else (plainLiteral? rest).map (c :: ·)

/-- A field as a record declares it. -/
structure FieldDeclaration where
  ident : String
  /-- The key that an attribute spells out, if there is one. -/
  rename : Option String
  type : String
  deriving DecidableEq, Repr

namespace FieldDeclaration

/-- The name without the mark of a keyword. -/
def bareName (d : FieldDeclaration) : String := unmarked d.ident

/-- The key under which the value of the field is exchanged. -/
def key (d : FieldDeclaration) : String := d.rename.getD d.bareName

end FieldDeclaration

/-- The fields that the lines of a record declare, `rename` being the key that the attribute in front
of them spells out. Nothing is read from lines of any other form. -/
def readFields : Option String → List String → Option (List FieldDeclaration)
  | none, [] => some []
  | some _, [] => none
  | rename, line :: rest =>
    match after? "    #[serde(rename = \"" line with
    | some literal => do
      let key ← plainLiteral? literal.toList
      readFields (some (String.ofList key)) rest
    | none => do
      let declaration ← after? "    pub " line
      let type ← after? (upTo ':' declaration ++ ": ") declaration
      let more ← readFields none rest
      return ⟨upTo ':' declaration,rename,upTo ',' type⟩ :: more

theorem plainLiteral?_append {cs : List Char} (h : ∀ c ∈ cs, breaksLiteral c = false)
    (rest : List Char) : plainLiteral? (cs ++ '"' :: rest) = some cs := by
  induction cs with
  | nil => rfl
  | cons c cs ih =>
    obtain ⟨hc,hcs⟩ := List.forall_mem_cons.mp h
    simp only [breaksLiteral, Bool.or_eq_false_iff, beq_eq_false_iff_ne, ne_eq] at hc
    obtain ⟨⟨hquote,hslash⟩,hcontrol⟩ := hc
    have hplain : ¬ (c = '\\' ∨ Unicode.isControl c = true) := by simp [hslash, hcontrol]
    rw [List.cons_append, plainLiteral?, if_neg hquote, if_neg hplain, ih hcs]
    rfl

section Reading
variable (rename : Option String) (rest : List String)

theorem readFields_attribute {tag : String} (h : tag.toList.any breaksLiteral = false) :
    readFields rename (("    #[serde(rename = \"" ++ (tag ++ "\")]")) :: rest) =
      readFields (some tag) rest := by
  have hplain : plainLiteral? (tag ++ "\")]").toList = some tag.toList := by
    rw [String.toList_append]
    exact plainLiteral?_append (by simpa using h) _
  rw [readFields, after?_append]
  simp only [hplain, Option.bind_eq_bind, Option.bind_some, String.ofList_toList]

theorem readFields_declaration {ident type : String} (hi : ':' ∉ ident.toList)
    (ht : ',' ∉ type.toList) :
    readFields rename (("    pub " ++ (ident ++ ": " ++ (type ++ ","))) :: rest) =
      (readFields none rest).map (⟨ident,rename,type⟩ :: ·) := by
  have hnone : after? "    #[serde(rename = \"" ("    pub " ++ (ident ++ ": " ++ (type ++ ","))) =
      none := by
    have hattribute : "    #[serde(rename = \"" = "    " ++ "#[serde(rename = \"" := by decide
    have hpub : "    pub " = "    " ++ "pub " := by decide
    rw [hattribute, hpub, String.append_assoc, after?_append_append]
    exact after?_eq_none_of_head (by simp [String.toList_append]) (by decide)
  have hident : upTo ':' (ident ++ ": " ++ (type ++ ",")) = ident := by
    have hcolon : ": " = String.singleton ':' ++ " " := by decide
    have hsplit : ident ++ (String.singleton ':' ++ " ") ++ (type ++ ",") =
        ident ++ String.singleton ':' ++ (" " ++ (type ++ ",")) := by
      simp only [String.append_assoc]
    rw [hcolon, hsplit, upTo_append hi]
  have htype : upTo ',' (type ++ ",") = type := by
    have hcomma : type ++ "," = type ++ String.singleton ',' ++ "" := by
      rw [String.append_empty]
      rfl
    rw [hcomma, upTo_append ht]
  rw [readFields, hnone]
  simp only [after?_append, hident, Option.bind_eq_bind, Option.bind_some, htype]
  cases readFields none rest <;> rfl

end Reading

/-- The declaration of a field in the record of its model. -/
def ModelField.declaration (f : ModelField) : FieldDeclaration :=
  ⟨f.ident,if f.needsRename then some f.tag else none,f.type.targetType⟩

/-- The lines between the braces of the record of a model. -/
def Model.recordLines (m : Model) : List String :=
  written (m.record.fields.flatMap (RecordField.lines 1))

theorem comma_notMem_targetType (t : FieldType) : ',' ∉ t.targetType.toList := by
  cases t <;> decide

theorem readFields_lines {mf : ModelField} {rest : List String} (hi : ':' ∉ mf.ident.toList)
    (ht : mf.tag.toList.any breaksLiteral = false) :
    readFields none (written (mf.recordField.lines 1) ++ rest) =
      (readFields none rest).map (mf.declaration :: ·) := by
  have hdeclaration : "    " ++ ("pub " ++ mf.ident ++ ": " ++ mf.type.targetType ++ ",") =
      "    pub " ++ (mf.ident ++ ": " ++ (mf.type.targetType ++ ",")) := by
    have hpub : "    pub " = "    " ++ "pub " := by decide
    rw [hpub]
    simp only [String.append_assoc]
  have hattribute : "    " ++ ("#[" ++ ("serde(rename = \"" ++ mf.tag ++ "\")") ++ "]") =
      "    #[serde(rename = \"" ++ (mf.tag ++ "\")]") := by
    have hopen : "    #[serde(rename = \"" = "    " ++ ("#[" ++ "serde(rename = \"") := by decide
    have hclose : "\")]" = "\")" ++ "]" := by decide
    rw [hopen, hclose]
    simp only [String.append_assoc]
  have hread := fun rename =>
    readFields_declaration rename rest hi (comma_notMem_targetType mf.type)
  unfold ModelField.declaration
  by_cases hr : mf.needsRename = true
  · have hlines : written (mf.recordField.lines 1) =
        ["    #[serde(rename = \"" ++ (mf.tag ++ "\")]"),
          "    pub " ++ (mf.ident ++ ": " ++ (mf.type.targetType ++ ","))] := by
      rw [← hattribute, ← hdeclaration, ← written_text_one, ← written_text_one,
        RecordField.lines, ModelField.recordField, ModelField.attributes, if_pos hr]
      rfl
    rw [hlines, if_pos hr, List.cons_append, readFields_attribute none _ ht]
    exact hread (some mf.tag)
  · have hlines : written (mf.recordField.lines 1) =
        ["    pub " ++ (mf.ident ++ ": " ++ (mf.type.targetType ++ ","))] := by
      rw [← hdeclaration, ← written_text_one, RecordField.lines, ModelField.recordField,
        ModelField.attributes, if_neg hr]
      rfl
    rw [hlines, if_neg hr]
    exact hread none

/-- The fields of a record are read back one by one. -/
theorem readFields_recordLines (h : ∀ mf ∈ m.fields, ':' ∉ mf.ident.toList ∧
    mf.tag.toList.any breaksLiteral = false) :
    readFields none m.recordLines = some (m.fields.map ModelField.declaration) := by
  unfold Model.recordLines Model.record
  generalize m.fields = fields at h
  induction fields with
  | nil => rfl
  | cons mf rest ih =>
    obtain ⟨⟨hi,ht⟩,hrest⟩ := List.forall_mem_cons.mp h
    rw [List.map_cons, List.flatMap_cons, written_append, readFields_lines hi ht, ih hrest]
    rfl

/-- A declaration that is about a field: its name is the column, its key the tag. -/
structure FaithfulField (f : Field) (d : FieldDeclaration) : Prop where
  column : d.bareName = Convention.service.columnName f.name
  key : d.key = f.tag
  type : d.type = f.type.targetType

/-- A handler reads the path as an identifier of some type. -/
structure KeyedBy (m : Model) (o : Operation) (type : String) : Prop where
  parameter : (m.handler o).parameters.filter (·.name == "Path(id)") =
    [⟨"Path(id)","Path<" ++ type ++ ">"⟩]
  signature : Occurs ("Path(id): Path<" ++ type ++ ">") (unlines (m.handler o).signatureLines)
  handler : Occurs (unlines (m.handler o).signatureLines) m.handlerFile.content

/-- The statements store the fields of a record under their names, and find it by one of them. -/
structure StoresRecord (m : Model) (declarations : List FieldDeclaration) (key : FieldDeclaration) :
    Prop where
  create : m.statement .create =
    insertText m.tableName (declarations.map FieldDeclaration.bareName)
  update : m.statement .update =
    updateText m.tableName (declarations.map FieldDeclaration.bareName) key.bareName
  sent : ∀ o, Occurs ("\"" ++ m.statement o ++ "\"") m.handlerFile.content
  keyed : ∀ o ∈ [Operation.get, .update, .delete], KeyedBy m o key.type

theorem FieldTies.bareName {f : Field} {mf : ModelField} (h : FieldTies .service f mf) :
    mf.declaration.bareName = mf.column := by
  have hmark : '#' ∉ mf.column.toList :=
    (isIdentifier_chars h.column_identifier).notMem (by decide)
  rw [FieldDeclaration.bareName, ModelField.declaration, h.ident, Convention.fieldName, ← h.column,
    unmarked_safeName_of_notMem hmark]

theorem FieldTies.faithful {f : Field} {mf : ModelField} (h : FieldTies .service f mf) :
    FaithfulField f mf.declaration := by
  refine ⟨h.bareName.trans h.column,?_,congrArg FieldType.targetType h.type⟩
  rw [FieldDeclaration.key, h.bareName, ModelField.declaration, ← h.tag]
  unfold ModelField.needsRename
  by_cases hrename : mf.tag = mf.column
  · simp [hrename]
  · simp [hrename]

theorem FieldTies.colon_notMem {f : Field} {mf : ModelField} (h : FieldTies .service f mf) :
    ':' ∉ mf.ident.toList := by
  have hcolumn : ':' ∉ mf.column.toList :=
    (isIdentifier_chars h.column_identifier).notMem (by decide)
  rw [h.ident, Convention.fieldName, ← h.column]
  rcases safeName_cases mf.column with he | he
  · rwa [he]
  · rw [he, String.toList_append, List.mem_append, not_or]
    exact ⟨by decide,hcolumn⟩

theorem keyedBy {o : Operation} (ho : o ∈ [Operation.get, .update, .delete]) :
    KeyedBy m o m.identifier.type.targetType := by
  have hin : m.pathParameter ∈ (m.handler o).parameters := by
    fin_cases ho <;> exact List.mem_cons_of_mem _ List.mem_cons_self
  refine ⟨?_,?_,?_⟩
  · fin_cases ho <;> rfl
  · rw [← pathParameter_text, FunctionItem.signatureLines, unlines_append]
    exact (occurs_in_signature hin).append_left _
  · refine Occurs.trans ⟨"",unlines (written (m.handler o).bodyLines),?_⟩ (handler_in_content m o)
    rw [unlines_append, String.empty_append]

/-- Without their marks, the names that a record declares are the columns. -/
theorem ModelTies.map_bareName (h : ModelTies policy .service schema m) :
    (m.fields.map ModelField.declaration).map FieldDeclaration.bareName = m.columns := by
  rw [List.map_map, Model.columns]
  refine List.map_congr_left fun mf hmf => ?_
  obtain ⟨f,_,hties⟩ := exists_of_mem_right h.fields hmf
  exact hties.bareName

theorem storesRecord (h : ModelTies policy .service schema m) :
    StoresRecord m (m.fields.map ModelField.declaration) m.identifier.declaration := by
  have hcolumns := h.map_bareName
  obtain ⟨f,_,hties⟩ := exists_of_mem_right h.fields (List.mem_of_find?_eq_some h.identifier)
  refine ⟨?_,?_,occurs_statement m,fun o ho => keyedBy ho⟩
  · rw [hcolumns, statement_create]
  · rw [hcolumns, hties.bareName, statement_update]

/-- The record of a composed model stands in the file of records, under the name of the schema. -/
theorem ModelTies.occurs_recordLines {models : List Model} (h : ModelTies policy .service schema m)
    (hm : m ∈ models) : Occurs (unlines (("pub struct " ++ schema.name ++ " \x7b") ::
      (m.recordLines ++ ["\x7d"]))) (recordsFile models).content :=
  h.name ▸ occurs_record hm (List.ne_nil_of_mem (List.mem_of_find?_eq_some h.identifier))

theorem ModelTies.readFields (h : ModelTies policy .service schema m) :
    readFields none m.recordLines = some (m.fields.map ModelField.declaration) := by
  refine readFields_recordLines fun mf hmf => ?_
  obtain ⟨f,_,hties⟩ := exists_of_mem_right h.fields hmf
  exact ⟨hties.colon_notMem,hties.tag ▸ hties.tag_literal⟩

/-- The record of a composed model has a field for each field of its schema in turn. Its name without
a mark is the column in the statements, its key is the tag, which its literal holds as it is, and the
handlers of single records take the path for a value of the type of the identifier. -/
theorem ofSchema_record_faithful (policy : NamingPolicy) (schema : Schema) (m : Model)
    (h : Model.ofSchema policy .service schema = .ok m) :
    (∀ models, m ∈ models → Occurs (unlines (("pub struct " ++ schema.name ++ " \x7b") ::
      (m.recordLines ++ ["\x7d"]))) (recordsFile models).content) ∧
    ∃ declarations d, readFields none m.recordLines = some declarations ∧
      List.Forall₂ FaithfulField schema.fields declarations ∧
      declarations[schema.fields.findIdx Field.isIdentifier]? = some d ∧
      StoresRecord m declarations d := by
  have ht := ofSchema_eq_ok_iff.mp h
  refine ⟨fun models => ht.occurs_recordLines,m.fields.map ModelField.declaration,
    m.identifier.declaration,ht.readFields,?_,?_,storesRecord ht⟩
  · rw [List.forall₂_map_right_iff]
    exact ht.fields.imp fun _ _ hf => hf.faithful
  · have hfind := getElem?_findIdx_forall₂ (p := Field.isIdentifier) ht.fields
      (fun f mf hf => by rw [hf.name, Field.isIdentifier]) ht.identifier
    rw [List.getElem?_map, hfind]
    rfl

/-- A schema with a keyword for a field, tags that are no names, and an identifier in the middle. -/
def letterSchema : Schema :=
  ⟨"Letter",none,[⟨"Type",.string,"type"⟩, ⟨"ID",.uuid,"letter id"⟩, ⟨"SentAt",.timestamp,"sent-at"⟩]⟩

def letterModel : Model where
  name := "Letter"
  varName := "letter"
  varNamePlural := "letters"
  varIdent := "letter"
  varIdentPlural := "letters"
  pathPlural := "letters"
  tableName := "letters"
  fields := [⟨"Type","r#type","type",.string,"type"⟩, ⟨"ID","id","id",.uuid,"letter id"⟩,
    ⟨"SentAt","sent_at","sent_at",.timestamp,"sent-at"⟩]
  identifier := ⟨"ID","id","id",.uuid,"letter id"⟩

/-- The keyword is marked and keeps its key, and a key with a space is spelled out. -/
theorem letter_record_faithful :
    Model.ofSchema NamingPolicy.naive .service letterSchema = .ok letterModel ∧
    readFields none letterModel.recordLines = some [⟨"r#type",none,"String"⟩,
      ⟨"id",some "letter id","uuid::Uuid"⟩,
      ⟨"sent_at",some "sent-at","chrono::DateTime<chrono::Utc>"⟩] ∧
    StoresRecord letterModel [⟨"r#type",none,"String"⟩, ⟨"id",some "letter id","uuid::Uuid"⟩,
      ⟨"sent_at",some "sent-at","chrono::DateTime<chrono::Utc>"⟩]
      ⟨"id",some "letter id","uuid::Uuid"⟩ := by
  have hm : Model.ofSchema NamingPolicy.naive .service letterSchema = .ok letterModel := by
    decide +kernel
  have hread : readFields none letterModel.recordLines = some [⟨"r#type",none,"String"⟩,
      ⟨"id",some "letter id","uuid::Uuid"⟩,
      ⟨"sent_at",some "sent-at","chrono::DateTime<chrono::Utc>"⟩] := by
    decide +kernel
  obtain ⟨_,declarations,d,hdeclarations,_,hd,hstores⟩ := ofSchema_record_faithful .naive _ _ hm
  cases hread.symm.trans hdeclarations
  have hindex : letterSchema.fields.findIdx Field.isIdentifier = 1 := by decide
  rw [hindex] at hd
  cases hd
  exact ⟨hm,hread,hstores⟩

end RestScaffold
