import RestScaffold.Schema.Basic
import RestScaffold.Text.Words
import RestScaffold.Toml.Value

/-! # Bodies of models

The body of a model is a table with the fields of its schema, each of which is a table of its own.
A body that is none gives the first thing that is wrong with it.
-/
namespace RestScaffold
open Toml

/-- What is wrong with the entry of one field, or with where it stands. -/
inductive FieldFault where
  | notTable (kind : String)
  | unknownKey (key : String)
  | notString (key kind : String)
  | noName
  | noType (name : String)
  | unknownType (name type : String)
  deriving DecidableEq, Repr

inductive BodyFault where
  | unknownKey (key : String)
  | tableNotString
  | noFields
  | fieldsNotArray
  /-- Fields are counted from one. -/
  | field (number : Nat) (fault : FieldFault)
  /-- In snake case the name is that of a field before it. -/
  | duplicateField (name : String)
  deriving DecidableEq, Repr

/-- What is wrong with a model. -/
inductive ModelFault where
  | notTable (kind : String)
  | body (fault : BodyFault)
  deriving DecidableEq, Repr

def FieldFault.message (number : Nat) : FieldFault → String
  | notTable kind => "field #" ++ toString number ++ " must be a table, found " ++ kind
  | unknownKey key => "field #" ++ toString number ++ " has unknown key '" ++ key ++ "'"
  | notString key kind =>
    "`" ++ key ++ "` of field #" ++ toString number ++ " must be a string, found " ++ kind
  | noName => "field #" ++ toString number ++ " has no `name`"
  | noType name => "field '" ++ name ++ "' has no `type`"
  | unknownType name type => "field '" ++ name ++ "' has " ++ unknownFieldType type

def BodyFault.message : BodyFault → String
  | unknownKey key => "unknown key '" ++ key ++ "'"
  | tableNotString => "`table` must be a string"
  | noFields => "missing `fields` array"
  | fieldsNotArray => "`fields` must be an array"
  | field number fault => fault.message number
  | duplicateField name => "duplicate field '" ++ name ++ "'"

def bodyKeys : List String := ["table", "fields"]

def fieldKeys : List String := ["name", "type", "tag"]

/-- The first key of a table that is none of the known ones. -/
def strayKey? (known : List String) (entries : List (String × Value)) : Option String :=
  (entries.map (·.1)).find? fun key => !known.contains key

/-- The text under a key, if there is anything. -/
def textUnder (key : String) (entries : List (String × Value)) :
    Except FieldFault (Option String) :=
  match entries.lookup key with
  | none => .ok none
  | some (.scalar (.string s)) => .ok (some s)
  | some value => .error (.notString key value.kind)

def fieldOfEntries (entries : List (String × Value)) : Except FieldFault Field := do
  if let some key := strayKey? fieldKeys entries then throw (.unknownKey key)
  let some name ← textUnder "name" entries | throw .noName
  let some typeName ← textUnder "type" entries | throw (.noType name)
  let some type := FieldType.ofName? typeName | throw (.unknownType name typeName)
  return .declared name type (← textUnder "tag" entries)

def fieldOf : Value → Except FieldFault Field
  | .table entries => fieldOfEntries entries
  | value => .error (.notTable value.kind)

/-- Fields that come after some others. -/
def fieldsAfter : List Field → List Value → Except BodyFault (List Field)
  | before, [] => return before
  | before, value :: rest => do
    let f ← (fieldOf value).mapError (.field (before.length + 1))
    if before.any fun g => snakeCase g.name == snakeCase f.name then
      throw (.duplicateField f.name)
    fieldsAfter (before ++ [f]) rest

def tableUnder (entries : List (String × Value)) : Except BodyFault (Option String) :=
  match entries.lookup "table" with
  | none => .ok none
  | some (.scalar (.string s)) => .ok (some s)
  | some _ => .error .tableNotString

def fieldsUnder (entries : List (String × Value)) : Except BodyFault (List Value) :=
  match entries.lookup "fields" with
  | none => .error .noFields
  | some (.array items) => .ok items
  | some _ => .error .fieldsNotArray

def schemaOfEntries (name : String) (entries : List (String × Value)) :
    Except BodyFault Schema := do
  if let some key := strayKey? bodyKeys entries then throw (.unknownKey key)
  let table ← tableUnder entries
  return ⟨name, table, ← fieldsAfter [] (← fieldsUnder entries)⟩

/-- The schema of a model with a name and a body. -/
def schemaOf (name : String) : Value → Except ModelFault Schema
  | .table entries => (schemaOfEntries name entries).mapError .body
  | value => .error (.notTable value.kind)

end RestScaffold
