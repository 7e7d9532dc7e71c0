import RestScaffold.Schema.Basic

/-! # Models

A schema with every name worked out that the generated files need.
-/
namespace RestScaffold

structure ModelField where
  name : String
  /-- The name in code, escaped if need be. -/
  ident : String
  /-- The name in storage. -/
  column : String
  type : FieldType
  tag : String
  deriving DecidableEq, Repr

/-- The exchanged key has to be given where it is not the column. -/
def ModelField.needsRename (f : ModelField) : Bool := f.tag != f.column

/-- What a placeholder of a statement is bound to. -/
inductive Binding where
  | field (ident : String)
  /-- The identifier taken from the request path. -/
  | identifier
  deriving DecidableEq, Repr

structure Model where
  name : String
  varName : String
  varNamePlural : String
  varIdent : String
  varIdentPlural : String
  pathPlural : String
  tableName : String
  fields : List ModelField
  identifier : ModelField
  deriving DecidableEq, Repr

namespace Model

def columns (m : Model) : List String := m.fields.map (·.column)

/-- The n-th value of a statement is written `$n`, counted from one. -/
def placeholder (n : Nat) : String := "$" ++ toString n

def placeholders (m : Model) : List String :=
  (List.range m.fields.length).map fun i => placeholder (i + 1)

def placeholderValues (m : Model) : List Binding := m.fields.map fun f => .field f.ident

def updateSet (m : Model) : List String :=
  List.zipWith (fun column value => column ++ " = " ++ value) m.columns m.placeholders

/-- The values of an update: those of the fields, then the identifier of the record. -/
def updateValues (m : Model) : List Binding := m.placeholderValues ++ [.identifier]

def updateWherePlaceholder (m : Model) : String := placeholder m.updateValues.length

def columnsList (m : Model) : String := String.intercalate ", " m.columns

def placeholdersList (m : Model) : String := String.intercalate ", " m.placeholders

def updateSetList (m : Model) : String := String.intercalate ", " m.updateSet

end Model
end RestScaffold
