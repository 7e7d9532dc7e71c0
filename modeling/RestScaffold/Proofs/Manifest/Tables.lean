import RestScaffold.Proofs.Manifest.Safety
import RestScaffold.Proofs.Output.Contents

/-! # Tables that a manifest leads to

A table that a model declares is checked, and one that is derived is not. A derived table is the
snake case of a plural, or the plural of the snake case of a name, and snake case drops the
underscores in front. So it is no name where the plural is nothing but underscores, and where a
digit is the first of the other characters.
-/
namespace RestScaffold
variable {m : Manifest} {s : Schema} {model : Model}

/-- What a statement says in front of its table. -/
def Operation.tableLead : Operation → String
  | get => "SELECT * FROM "
  | list => "SELECT * FROM "
  | create => "INSERT INTO "
  | update => "UPDATE "
  | delete => "DELETE FROM "

/-- The table that a statement names, which goes on to the next space. -/
def Operation.tableNamed (o : Operation) (statement : String) : Option String :=
  (after? o.tableLead statement).map (upTo ' ')

/-- The table is the last thing in a statement, or a space follows it. -/
theorem statement_eq (m : Model) (o : Operation) :
    m.statement o = o.tableLead ++ m.tableName ∨
      ∃ rest, m.statement o = o.tableLead ++ (m.tableName ++ String.singleton ' ' ++ rest) := by
  have hwhere : " WHERE " = String.singleton ' ' ++ "WHERE " := by decide
  have hset : " SET " = String.singleton ' ' ++ "SET " := by decide
  have hopen : " (" = String.singleton ' ' ++ "(" := by decide
  cases o with
  | list => exact Or.inl rfl
  | get =>
    refine Or.inr ⟨"WHERE " ++ m.identifier.column ++ " = $1",?_⟩
    unfold Model.statement Operation.tableLead
    rw [hwhere]
    simp only [String.append_assoc]
  | create =>
    refine Or.inr ⟨"(" ++ m.columnsList ++ ") VALUES (" ++ m.placeholdersList ++ ") RETURNING *",?_⟩
    unfold Model.statement Operation.tableLead
    rw [hopen]
    simp only [String.append_assoc]
  | update =>
    refine Or.inr ⟨"SET " ++ m.updateSetList ++ " WHERE " ++ m.identifier.column ++ " = " ++
      m.updateWherePlaceholder,?_⟩
    unfold Model.statement Operation.tableLead
    rw [hset]
    simp only [String.append_assoc]
  | delete =>
    refine Or.inr ⟨"WHERE " ++ m.identifier.column ++ " = $1",?_⟩
    unfold Model.statement Operation.tableLead
    rw [hwhere]
    simp only [String.append_assoc]

theorem tableNamed_statement {model : Model} (h : ' ' ∉ model.tableName.toList) (o : Operation) :
    o.tableNamed (model.statement o) = some model.tableName := by
  rw [Operation.tableNamed]
  rcases statement_eq model o with he | ⟨rest,he⟩
  · rw [he, after?_append, Option.map_some, upTo_of_notMem h]
  · rw [he, after?_append, Option.map_some, upTo_append h]

/-- A schema that declares its table, or whose plural or name makes one. -/
def Manifest.FitsTable (m : Manifest) (s : Schema) : Prop :=
  s.table.isSome ∨ MakesTable s.name (m.pluralOf? s.name)

/-- The table of a model and what its statements make of it. -/
structure TableTies (m : Manifest) (s : Schema) (model : Model) : Prop where
  qualified_iff : Qualified model.tableName ↔ m.FitsTable s
  named : ∀ o : Operation, o.tableNamed (model.statement o) = some model.tableName
  sent : ∀ o, Occurs ("\"" ++ model.statement o ++ "\"") model.handlerFile.content

theorem tableTies (hq : ∀ q ∈ m.policy.override? s.name, isIdentifier q = true)
    (h : ModelTies m.policy .service s model) : TableTies m s model := by
  have hname := isIdentifier_chars h.name_identifier
  have htable := h.table
  unfold Model.tableOf at htable
  cases hdeclared : s.table with
  | some table =>
    rw [hdeclared] at htable
    have hqualified := qualified_of_tableSlot htable
    have hspace : ' ' ∉ model.tableName.toList := by
      intro hin
      have hother := hqualified.forall_mem (P := fun c => c ≠ ' ') (by decide)
        fun c hc => by rintro rfl; cases hc
      exact hother ' ' hin rfl
    refine ⟨?_,tableNamed_statement hspace,occurs_statement model⟩
    exact iff_of_true hqualified (Or.inl (by rw [hdeclared]; rfl))
  | none =>
    rw [hdeclared] at htable
    have hderived : m.policy.tableName s.name = model.tableName := Except.ok.inj htable
    have hchars := PluralPolicy.tableName_chars hq hname
    have hiff := PluralPolicy.isIdentifier_tableName_iff h.name_identifier hq
    rw [hderived] at hchars hiff
    rw [m.override?_policy] at hiff
    refine ⟨?_,tableNamed_statement (hchars.notMem (by decide)),occurs_statement model⟩
    rw [hchars.qualified_iff, hiff, Manifest.FitsTable, hdeclared, Option.isSome_none]
    exact (or_iff_right Bool.false_ne_true).symm

/-- The table of a model is a qualified name exactly if it is declared or its name or plural makes
one, and in any case the statements of the model name that table. -/
theorem tables_qualified_iff (m : Manifest) (hnames : m.checkNames = .ok ()) (schemas : List Schema)
    (models : List Model) (hmodels : modelsOf m.policy schemas = .ok models) :
    List.Forall₂ (TableTies m) schemas models := by
  have hpass := checkNames_eq_ok_iff.mp hnames
  refine (modelsOf_eq_ok_iff.mp hmodels).1.imp ?_
  intro s model hadmitted
  exact tableTies (Manifest.override_identifier hpass s.name) hadmitted.ties

/-- A body that declares its table. -/
def auditBody : Toml.Value :=
  .table [("table", .text "audit.entries"), ("fields", .array
    [.table [("name", .text "ID"), ("type", .text "int")]])]

/-- Tables from a plural, from a name and from a declaration. -/
def tablesManifest : Manifest :=
  ⟨.default,[("person", "People")],
    [("Person", keyOnlyBody), ("_Log2", keyOnlyBody), ("_9", auditBody)]⟩

def tablesSchemas : List Schema :=
  [keyOnlySchema "Person", keyOnlySchema "_Log2", (keyOnlySchema "_9").withTable "audit.entries"]

def tablesModels : List Model :=
  [keyOnlyModel "Person" "person" "person" "people",
    { keyOnlyModel "_Log2" "_log2" "_log2" "_log2s" with tableName := "log2s" },
    { keyOnlyModel "_9" "_9" "_9" "_9s" with tableName := "audit.entries" }]

theorem tables_named : tablesManifest.checkNames = .ok () ∧
    tablesManifest.schemas = .ok tablesSchemas ∧
    modelsOf tablesManifest.policy tablesSchemas = .ok tablesModels ∧
    List.Forall₂ (TableTies tablesManifest) tablesSchemas tablesModels ∧
    ∀ model ∈ tablesModels, Qualified model.tableName := by
  have hnames : tablesManifest.checkNames = .ok () := by decide +kernel
  have hschemas : tablesManifest.schemas = .ok tablesSchemas := by decide +kernel
  have hmodels : modelsOf tablesManifest.policy tablesSchemas = .ok tablesModels := by
    decide +kernel
  exact ⟨hnames,hschemas,hmodels,
    tables_qualified_iff tablesManifest hnames tablesSchemas tablesModels hmodels,
    by decide +kernel⟩

/-- A plural without a letter or digit, and a name whose first one is a digit. -/
def blankManifest : Manifest :=
  ⟨.default,[("Item", "__")],[("Item", keyOnlyBody), ("_1", keyOnlyBody)]⟩

/-- The first of two models that are accepted has no table, and the other one's starts with a
digit. -/
theorem blank_plural_leaves_no_table : ∃ schemas first second, blankManifest.checkNames = .ok () ∧
    blankManifest.schemas = .ok schemas ∧
    modelsOf blankManifest.policy schemas = .ok [first, second] ∧
    first.statement .list = "SELECT * FROM " ∧ second.statement .list = "SELECT * FROM 1s" ∧
    ¬ Qualified first.tableName ∧ ¬ Qualified second.tableName := by
  refine ⟨[keyOnlySchema "Item", keyOnlySchema "_1"],
    { keyOnlyModel "Item" "item" "item" "__" with tableName := "" },
    { keyOnlyModel "_1" "_1" "_1" "_1s" with tableName := "1s" },?_⟩
  decide +kernel

end RestScaffold
