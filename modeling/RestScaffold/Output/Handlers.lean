import RestScaffold.Model.Basic
import RestScaffold.Output.File
import RestScaffold.Output.TargetType

/-! # The handlers of a model

Five operations on the records of one model, each a query followed by a case split on its outcome.
-/
namespace RestScaffold

inductive Operation where
  | get | list | create | update | delete
  deriving DecidableEq, Repr

namespace Operation

def all : List Operation := [get, list, create, update, delete]

/-- Whether the rows of the answer are records of the model. -/
def yieldsRecords : Operation → Bool
  | get => true
  | list => true
  | create => true
  | update => false
  | delete => false

/-- The call that sends a statement off. -/
def fetch : Operation → String
  | get => "fetch_one"
  | list => "fetch_all"
  | create => "fetch_one"
  | update => "execute"
  | delete => "execute"

end Operation

namespace Model

/-- The name of the handler of an operation. -/
def handlerName (m : Model) : Operation → String
  | .get => "get_" ++ m.varName
  | .list => "list_" ++ m.varNamePlural
  | .create => "create_" ++ m.varName
  | .update => "update_" ++ m.varName
  | .delete => "delete_" ++ m.varName

/-- The route of all records of the model. -/
def collectionRoute (m : Model) : String := "/" ++ m.pathPlural

/-- The route of one record. -/
def memberRoute (m : Model) : String := m.collectionRoute ++ "/\x7bid\x7d"

def handlerDoc (m : Model) : Operation → String
  | .get => "GET " ++ m.memberRoute
  | .list => "GET " ++ m.collectionRoute
  | .create => "POST " ++ m.collectionRoute
  | .update => "PUT " ++ m.memberRoute
  | .delete => "DELETE " ++ m.memberRoute

def stateParameter : Parameter := ⟨"State(pool)", "State<PgPool>"⟩

def pathParameter (m : Model) : Parameter :=
  ⟨"Path(id)", "Path<" ++ m.identifier.type.targetType ++ ">"⟩

def payloadParameter (m : Model) : Parameter :=
  ⟨"payload", "Result<Json<" ++ m.name ++ ">, JsonRejection>"⟩

def handlerParameters (m : Model) : Operation → List Parameter
  | .get => [stateParameter, m.pathParameter]
  | .list => [stateParameter]
  | .create => [stateParameter, m.payloadParameter]
  | .update => [stateParameter, m.pathParameter, m.payloadParameter]
  | .delete => [stateParameter, m.pathParameter]

/-- The statement that an operation sends to the database. -/
def statement (m : Model) : Operation → String
  | .get => "SELECT * FROM " ++ m.tableName ++ " WHERE " ++ m.identifier.column ++ " = $1"
  | .list => "SELECT * FROM " ++ m.tableName
  | .create =>
    "INSERT INTO " ++ m.tableName ++ " (" ++ m.columnsList ++ ") VALUES (" ++ m.placeholdersList
      ++ ") RETURNING *"
  | .update =>
    "UPDATE " ++ m.tableName ++ " SET " ++ m.updateSetList ++ " WHERE " ++ m.identifier.column
      ++ " = " ++ m.updateWherePlaceholder
  | .delete => "DELETE FROM " ++ m.tableName ++ " WHERE " ++ m.identifier.column ++ " = $1"

/-- The call that prepares the statement. -/
def queryCall (m : Model) (o : Operation) : String :=
  if o.yieldsRecords then "sqlx::query_as::<_, " ++ m.name ++ ">(\"" ++ m.statement o ++ "\")"
  else "sqlx::query(\"" ++ m.statement o ++ "\")"

/-- A value as an argument of a call. -/
def bindingText (m : Model) : Binding → String
  | .field ident => "&" ++ m.varIdent ++ "." ++ ident
  | .identifier => "&id"

/-- The values of the placeholders of a statement, in order. -/
def boundValues (m : Model) : Operation → List String
  | .get => ["id"]
  | .list => []
  | .create => m.placeholderValues.map m.bindingText
  | .update => m.updateValues.map m.bindingText
  | .delete => ["id"]

def query (m : Model) (o : Operation) : Chain :=
  ((((Chain.new (m.queryCall o)).assign "let result =").callEach "bind" (m.boundValues o)).callArg
    o.fetch "&pool").await.statement

/-- Takes the record out of the request, or answers that there is none. -/
def extractPayload (pattern : String) : CaseSplit where
  target := some ("let Json(" ++ pattern ++ ") =")
  scrutinee := "payload"
  arms := [
    ⟨"Ok(payload)", "payload"⟩,
    ⟨"Err(rejection)",
      "return error_response(StatusCode::BAD_REQUEST, rejection.body_text())"⟩]

/-- The identifier in the path wins over the one in the payload. -/
def assignIdentifier (m : Model) : String :=
  m.varIdent ++ "." ++ m.identifier.ident ++ " = "
    ++ (if m.identifier.type.isCopy then "id" else "id.clone()") ++ ";"

/-- What a handler does before its query. -/
def preamble (m : Model) : Operation → List Fragment
  | .get => []
  | .list => []
  | .create => (extractPayload m.varIdent).fragments ++ [.blank]
  | .update =>
    (extractPayload ("mut " ++ m.varIdent)).fragments ++ [.line m.assignIdentifier, .blank]
  | .delete => []

/-- An answer with a status and a value. -/
def response (status value : String) : String :=
  "(StatusCode::" ++ status ++ ", Json(" ++ value ++ ")).into_response()"

def notFoundArm (m : Model) : Arm :=
  ⟨"Err(sqlx::Error::RowNotFound)",
    "error_response(StatusCode::NOT_FOUND, \"" ++ m.name ++ " not found\")"⟩

def failureArm : Arm :=
  ⟨"Err(err)", "error_response(StatusCode::INTERNAL_SERVER_ERROR, err)"⟩

def deletedMessage (m : Model) : String :=
  "json!(\x7b \"message\": \"" ++ m.name ++ " deleted successfully\" \x7d)"

def outcomeArms (m : Model) : Operation → List Arm
  | .get => [⟨"Ok(" ++ m.varIdent ++ ")", response "OK" m.varIdent⟩, m.notFoundArm, failureArm]
  | .list => [⟨"Ok(" ++ m.varIdentPlural ++ ")", response "OK" m.varIdentPlural⟩, failureArm]
  | .create => [⟨"Ok(" ++ m.varIdent ++ ")", response "CREATED" m.varIdent⟩, failureArm]
  | .update => [⟨"Ok(_)", response "OK" m.varIdent⟩, failureArm]
  | .delete => [⟨"Ok(_)", response "OK" m.deletedMessage⟩, failureArm]

def outcome (m : Model) (o : Operation) : CaseSplit := ⟨none, "result", m.outcomeArms o⟩

def handler (m : Model) (o : Operation) : FunctionItem where
  name := m.handlerName o
  doc := some (m.handlerDoc o)
  attributes := []
  isPublic := true
  isAsync := true
  parameters := m.handlerParameters o
  result := some "Response"
  body := m.preamble o ++ (m.query o).fragments ++ [.blank] ++ (m.outcome o).fragments

/-- The answer to a request that failed. -/
def errorResponse : FunctionItem where
  name := "error_response"
  doc := none
  attributes := []
  isPublic := false
  isAsync := false
  parameters := [⟨"status", "StatusCode"⟩, ⟨"message", "impl std::fmt::Display"⟩]
  result := some "Response"
  body := [.line "(status, Json(json!(\x7b \"error\": message.to_string() \x7d))).into_response()"]

def handlerImports (m : Model) : Imports :=
  ((((((((Imports.empty.addPath "axum::Json").addPath
    "axum::extract::rejection::JsonRejection").addAll
    "axum::extract" ["Path", "State"]).addPath
    "axum::http::StatusCode").addAll
    "axum::response" ["IntoResponse", "Response"]).addPath
    "serde_json::json").addPath
    "sqlx::PgPool").addPath
    ("crate::models::" ++ m.name))

def handlerFunctions (m : Model) : List FunctionItem :=
  errorResponse :: Operation.all.map m.handler

def handlerFile (m : Model) : GeneratedFile where
  steps := ["handlers", m.varName ++ ".rs"]
  rules := .generated
  source := ⟨[], m.handlerImports, m.handlerFunctions.map .function⟩

end Model

/-- The file that declares the module of each model. -/
def handlerIndex (models : List Model) : GeneratedFile where
  steps := ["handlers", "mod.rs"]
  rules := .generated
  source := ⟨models.map fun m => ⟨m.varIdent, true⟩, .empty, []⟩

end RestScaffold
