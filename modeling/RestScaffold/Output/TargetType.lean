import RestScaffold.Schema.FieldType

/-! # Types of the generated service

There is no unsigned integer in the database, so both integer types are signed.
-/
namespace RestScaffold.FieldType

def targetType : FieldType → String
  | string => "String"
  | int => "i64"
  | uint => "i64"
  | float => "f64"
  | bool => "bool"
  | timestamp => "chrono::DateTime<chrono::Utc>"
  | uuid => "uuid::Uuid"
  | json => "serde_json::Value"

/-- Whether a value can be used again after it has been passed on. -/
def isCopy : FieldType → Bool
  | string => false
  | json => false
  | _ => true

end RestScaffold.FieldType
