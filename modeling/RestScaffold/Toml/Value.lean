import RestScaffold.Toml.Binary64
import RestScaffold.Toml.Datetime

/-! # TOML values -/
namespace RestScaffold.Toml

inductive Scalar where
  | string (s : String)
  | integer (i : Int)
  | float (x : Binary64)
  | boolean (b : Bool)
  | datetime (d : Datetime)
  deriving DecidableEq, Repr

/-- A table keeps its entries in their order. -/
inductive Value where
  | scalar (s : Scalar)
  | array (items : List Value)
  | table (entries : List (String × Value))
  deriving Repr

def Scalar.kind : Scalar → String
  | string _ => "string"
  | integer _ => "integer"
  | float _ => "float"
  | boolean _ => "boolean"
  | datetime _ => "datetime"

/-- What an error calls a value. -/
def Value.kind : Value → String
  | scalar s => s.kind
  | array _ => "array"
  | table _ => "table"

end RestScaffold.Toml
