import RestScaffold.Model.Basic
import RestScaffold.Model.Error
import RestScaffold.Naming.Convention
import RestScaffold.Naming.Plural
import RestScaffold.Text.Identifier
import RestScaffold.Text.Split

/-! # From a schema to a model

The slots are checked in a fixed order, so a schema with several faults is refused for the first.
-/
namespace RestScaffold

def identifierSlot (slot : Slot) (value : String) : Except ModelError String :=
  if value.isEmpty then .error (.emptySlot slot)
  else if isIdentifier value then .ok value
  else .error (.invalidIdentifier slot value)

/-- Refuses the words that the target language cannot use at all. -/
def usableSlot (c : Convention) (slot : Slot) (value : String) : Except ModelError Unit :=
  if c.isForbidden value then .error (.invalidIdentifier slot value) else .ok ()

/-- A table may be qualified: identifiers with dots between them. -/
def tableSlot (value : String) : Except ModelError String :=
  if value.isEmpty then .error (.emptySlot .tableName)
  else if (splitOnChar '.' value).all isIdentifier then .ok value
  else .error (.invalidIdentifier .tableName value)

/-- A character that a string literal could not hold as it is. -/
def breaksLiteral (c : Char) : Bool := c == '"' || c == '\\' || Unicode.isControl c

def literalSlot (slot : Slot) (value : String) : Except ModelError String :=
  if value.isEmpty then .error (.emptySlot slot)
  else if value.toList.any breaksLiteral then .error (.invalidLiteral slot value)
  else .ok value

def ModelField.ofField (c : Convention) (f : Field) : Except ModelError ModelField := do
  let _ ← identifierSlot .field f.name
  let column ← identifierSlot .field (c.columnName f.name)
  usableSlot c .field column
  let tag ← literalSlot .tag f.tag
  return { name := f.name, ident := c.fieldName f.name, column, type := f.type, tag }

namespace Model

/-- The table that a schema names, or else the one that the policy derives. -/
def tableOf (policy : NamingPolicy) (schema : Schema) : Except ModelError String :=
  match schema.table with
  | some table => tableSlot table
  | none => .ok (policy.tableName schema.name)

def ofSchema (policy : NamingPolicy) (c : Convention) (schema : Schema) :
    Except ModelError Model := do
  let name ← identifierSlot .name schema.name
  let tableName ← tableOf policy schema
  if schema.fields.isEmpty then throw .noFields
  let fields ← schema.fields.mapM (ModelField.ofField c)
  let some identifier := fields.find? fun f => isIdName f.name | throw .missingIdentifier
  let varName := policy.varName name
  let varNamePlural := policy.varNamePlural name
  usableSlot c .varName varName
  usableSlot c .varNamePlural varNamePlural
  return {
    name, varName, varNamePlural, tableName, fields, identifier
    varIdent := c.safeName varName
    varIdentPlural := c.safeName varNamePlural
    pathPlural := policy.pathSegment name }

/-- Refuses a model whose name the generated code uses for something else. -/
def checkNames (m : Model) : Except ModelError Unit :=
  if generatedTypes.contains m.name then .error (.reservedName .name m.name)
  else if handlerLocals.contains m.varName then .error (.reservedName .varName m.varName)
  else .ok ()

/-- The variable names the handler file and the path names the route group, so no two models of a
batch may agree on either. -/
def clash (m other : Model) : Option ModelError :=
  if other.varName = m.varName then some (.duplicateName .varName m.varName other.name)
  else if other.pathPlural = m.pathPlural then
    some (.duplicateName .pathPlural m.pathPlural other.name)
  else none

end Model
end RestScaffold
