import RestScaffold.Unicode.Blank

/-! # Field types

The scalar types a model can store, each with the names a manifest may give it.
-/
namespace RestScaffold

inductive FieldType where
  | string | int | uint | float | bool | timestamp | uuid | json
  deriving DecidableEq, Repr

namespace FieldType

/-- Every type, in the order in which they are shown. -/
def all : List FieldType := [string, int, uint, float, bool, timestamp, uuid, json]

def name : FieldType → String
  | string => "string"
  | int => "int"
  | uint => "uint"
  | float => "float"
  | bool => "bool"
  | timestamp => "timestamp"
  | uuid => "uuid"
  | json => "json"

/-- The names a manifest may use, the canonical one first. -/
def aliases : FieldType → List String
  | string => ["string", "str", "text"]
  | int => ["int", "integer", "i32", "i64", "bigint"]
  | uint => ["uint", "unsigned", "u32", "u64", "uint64"]
  | float => ["float", "double", "f32", "f64", "float64"]
  | bool => ["bool", "boolean"]
  | timestamp => ["timestamp", "datetime", "time.time", "timestamptz"]
  | uuid => ["uuid"]
  | json => ["json", "jsonb"]

/-- Surrounding white space and ASCII case do not matter. -/
def normalName (s : String) : String :=
  String.ofList ((Unicode.trimBlank s.toList).map Char.toLower)

def ofName? (s : String) : Option FieldType :=
  all.find? fun t => t.aliases.contains (normalName s)

end FieldType

/-- What is said of a name that no field type has. -/
def unknownFieldType (s : String) : String := "unknown field type '" ++ s ++ "'"

end RestScaffold
