import RestScaffold.Proofs.Output.Records

/-! # Columns of a record

Composition looks at the fields of a schema one by one, so it takes two fields whose names are the
same in snake case. These have one column and one name in the record; all other fields are told
apart.
-/
namespace RestScaffold
variable {policy : NamingPolicy} {s : Schema} {m : Model}

/-- No two fields of a schema have the same name in snake case. -/
def Schema.FieldsApart (s : Schema) : Prop :=
  s.fields.Pairwise fun f g => snakeCase f.name ≠ snakeCase g.name

instance : DecidablePred Schema.FieldsApart := fun s =>
  inferInstanceAs (Decidable (s.fields.Pairwise fun f g : Field =>
    snakeCase f.name ≠ snakeCase g.name))

theorem ModelTies.columns_nodup_iff (h : ModelTies policy .service s m) :
    m.columns.Nodup ↔ s.FieldsApart := by
  have hcolumns : m.columns = s.fields.map fun f => snakeCase f.name :=
    map_eq_map_of_forall₂ h.fields fun _ _ hf => hf.column
  rw [hcolumns, List.nodup_iff_pairwise_ne, List.pairwise_map, Schema.FieldsApart]

/-- Names in the record are columns with marks on some, so they differ exactly if the columns do. -/
theorem ModelTies.idents_nodup_iff (h : ModelTies policy .service s m) :
    ((m.fields.map ModelField.declaration).map FieldDeclaration.ident).Nodup ↔ m.columns.Nodup := by
  have hmarked : (m.fields.map ModelField.declaration).map FieldDeclaration.ident =
      m.columns.map Convention.service.safeName := by
    simp only [Model.columns, List.map_map]
    refine List.map_congr_left fun mf hmf => ?_
    obtain ⟨f,_,hties⟩ := exists_of_mem_right h.fields hmf
    have hident : mf.ident = Convention.service.safeName mf.column := by
      rw [hties.ident, hties.column]
      rfl
    exact hident
  have hbare : ((m.fields.map ModelField.declaration).map FieldDeclaration.ident).map unmarked =
      m.columns := by
    rw [← h.map_bareName, List.map_map]
    rfl
  constructor
  · intro hn
    rw [hmarked] at hn
    exact hn.of_map
  · intro hn
    rw [← hbare] at hn
    exact hn.of_map

/-- The columns and the names of the record of a schema, as they are written. -/
structure WritesColumns (models : List Model) (s : Schema) (m : Model) : Prop where
  record : Occurs (unlines (("pub struct " ++ s.name ++ " \x7b") :: (m.recordLines ++ ["\x7d"])))
    (recordsFile models).content
  insert : m.statement .create = insertText m.tableName m.columns
  sent : Occurs ("\"" ++ m.statement .create ++ "\"") m.handlerFile.content
  columns_nodup_iff : m.columns.Nodup ↔ s.FieldsApart
  idents_nodup_iff : ∃ declarations, readFields none m.recordLines = some declarations ∧
    ((declarations.map FieldDeclaration.ident).Nodup ↔ s.FieldsApart)

/-- Records and statements of an accepted batch name no field twice exactly if the fields of each
schema differ in snake case, and nothing in composition sees to that. -/
theorem modelsOf_columns_nodup_iff (policy : NamingPolicy) (schemas : List Schema)
    (models : List Model) (h : modelsOf policy schemas = .ok models) :
    List.Forall₂ (WritesColumns models) schemas models := by
  refine (forall₂_admitted_mem h).imp ?_
  rintro s m ⟨had,hm⟩
  have ht := had.ties
  exact ⟨ht.occurs_recordLines hm,statement_create m,occurs_statement m .create,
    ht.columns_nodup_iff,_,ht.readFields,ht.idents_nodup_iff.trans ht.columns_nodup_iff⟩

/-- A keyword and two words in one name make three columns. -/
theorem letter_columns_nodup :
    modelsOf NamingPolicy.naive [letterSchema] = .ok [letterModel] ∧
    WritesColumns [letterModel] letterSchema letterModel ∧
    letterModel.columns = ["type", "id", "sent_at"] ∧ letterModel.columns.Nodup := by
  have hm : modelsOf NamingPolicy.naive [letterSchema] = .ok [letterModel] := by
    decide +kernel
  have hapart : letterSchema.FieldsApart := by
    decide +kernel
  obtain ⟨hwrites,_⟩ := List.forall₂_cons.mp (modelsOf_columns_nodup_iff .naive _ _ hm)
  exact ⟨hm,hwrites,rfl,hwrites.columns_nodup_iff.mpr hapart⟩

/-- A schema with one name in two spellings. -/
def ticketSchema : Schema :=
  ⟨"Ticket",none,[⟨"ID",.int,"id"⟩, ⟨"CreatedAt",.timestamp,"createdat"⟩,
    ⟨"created_at",.timestamp,"created_at"⟩]⟩

def ticketModel : Model where
  name := "Ticket"
  varName := "ticket"
  varNamePlural := "tickets"
  varIdent := "ticket"
  varIdentPlural := "tickets"
  pathPlural := "tickets"
  tableName := "tickets"
  fields := [⟨"ID","id","id",.int,"id"⟩,
    ⟨"CreatedAt","created_at","created_at",.timestamp,"createdat"⟩,
    ⟨"created_at","created_at","created_at",.timestamp,"created_at"⟩]
  identifier := ⟨"ID","id","id",.int,"id"⟩

/-- Both spellings are taken, and the record gets two fields of one name. -/
theorem ticket_columns_repeated :
    modelsOf NamingPolicy.naive [ticketSchema] = .ok [ticketModel] ∧
    ticketModel.columns = ["id", "created_at", "created_at"] ∧ ¬ ticketModel.columns.Nodup ∧
    ∃ declarations, readFields none ticketModel.recordLines = some declarations ∧
      ¬ (declarations.map FieldDeclaration.ident).Nodup := by
  have hm : modelsOf NamingPolicy.naive [ticketSchema] = .ok [ticketModel] := by
    decide +kernel
  obtain ⟨_,had,hmodel⟩ := modelsOf_singleton_iff.mp hm
  obtain rfl := List.cons.inj hmodel |>.1
  have hrepeated : ¬ ticketModel.columns.Nodup := by
    decide
  exact ⟨hm,rfl,hrepeated,_,had.ties.readFields,mt had.ties.idents_nodup_iff.mp hrepeated⟩

end RestScaffold
