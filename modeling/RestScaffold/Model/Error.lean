/-! # Why a schema is no model

Each value that ends up in generated code has a slot, and a schema is refused for the first slot
that its value does not fit.
-/
namespace RestScaffold

inductive Slot where
  | name | tableName | field | tag | varName | varNamePlural | pathPlural
  deriving DecidableEq, Repr

def Slot.label : Slot → String
  | name => "name"
  | tableName => "table_name"
  | field => "field"
  | tag => "tag"
  | varName => "var_name"
  | varNamePlural => "var_name_plural"
  | pathPlural => "path_plural"

inductive ModelError where
  | noFields
  | missingIdentifier
  | emptySlot (slot : Slot)
  | invalidIdentifier (slot : Slot) (value : String)
  | invalidLiteral (slot : Slot) (value : String)
  /-- The generated code uses the name itself. -/
  | reservedName (slot : Slot) (value : String)
  /-- Another model of the batch has the name already. -/
  | duplicateName (slot : Slot) (value : String) (other : String)
  deriving DecidableEq, Repr

namespace ModelError

def aboutSlot (slot : Slot) (rest : String) : String :=
  "template slot `" ++ slot.label ++ "` " ++ rest

def message : ModelError → String
  | noFields => "model has no fields"
  | missingIdentifier => "model has no identifier field (a field named `id`)"
  | emptySlot slot => aboutSlot slot "is empty"
  | invalidIdentifier slot value =>
    aboutSlot slot ("is not a valid identifier: '" ++ value ++ "'")
  | invalidLiteral slot value => aboutSlot slot ("is not a valid literal: '" ++ value ++ "'")
  | reservedName slot value =>
    aboutSlot slot ("clashes with a name the generated code uses: '" ++ value ++ "'")
  | duplicateName slot value other =>
    aboutSlot slot ("is already taken by model '" ++ other ++ "': '" ++ value ++ "'")

end ModelError
end RestScaffold
