import RestScaffold.Output.Handlers

/-! # The router and the entry point of the service

Each model has a group of routes, and the router nests the groups under the paths of the models.
-/
namespace RestScaffold

/-- The address the service listens on. -/
def listenAddress : String := "0.0.0.0:8080"

/-- A handler under the method of the requests it answers. -/
structure Endpoint where
  method : String
  operation : Operation
  deriving DecidableEq, Repr

/-- One path of a group and what answers there, the first endpoint leading the chain. -/
structure Route where
  path : String
  first : Endpoint
  others : List Endpoint
  deriving DecidableEq, Repr

/-- The routes of every group, relative to the path of its model. -/
def groupRoutes : List Route := [
  ⟨"/", ⟨"get", .list⟩, [⟨"post", .create⟩]⟩,
  ⟨"/\x7bid\x7d", ⟨"get", .get⟩, [⟨"put", .update⟩, ⟨"delete", .delete⟩]⟩]

namespace Model

/-- How the router refers to a handler. -/
def handlerPath (m : Model) (o : Operation) : String :=
  "handlers::" ++ m.varIdent ++ "::" ++ m.handlerName o

def routeChain (m : Model) (r : Route) : Chain :=
  r.others.foldl (fun c e => c.callArg e.method (m.handlerPath e.operation))
    (Chain.new (r.first.method ++ "(" ++ m.handlerPath r.first.operation ++ ")"))

def routesName (m : Model) : String := m.varName ++ "_routes"

def groupChain (m : Model) : Chain :=
  groupRoutes.foldl
    (fun c r => c.callArgs "route" ["\"" ++ r.path ++ "\"", (m.routeChain r).inline])
    (Chain.new "Router::new()")

def routesFunction (m : Model) : FunctionItem where
  name := m.routesName
  doc := some ("Routes for `" ++ m.name ++ "`, nested at `/" ++ m.pathPlural ++ "`.")
  attributes := []
  isPublic := false
  isAsync := false
  parameters := []
  result := some "Router<PgPool>"
  body := m.groupChain.fragments

end Model

def routerChain (models : List Model) : Chain :=
  (models.foldl
    (fun c m => c.callArgs "nest" ["\"/" ++ m.pathPlural ++ "\"", m.routesName ++ "()"])
    (Chain.new "Router::new()")).callArg "with_state" "pool"

def routerFunction (models : List Model) : FunctionItem where
  name := "router"
  doc := none
  attributes := []
  isPublic := false
  isAsync := false
  parameters := [⟨"pool", "PgPool"⟩]
  result := some "Router"
  body := (routerChain models).fragments

def mainFunction : FunctionItem where
  name := "main"
  doc := none
  attributes := ["tokio::main"]
  isPublic := false
  isAsync := true
  parameters := []
  result := some "Result<(), Box<dyn std::error::Error>>"
  body := [
    .line "let database_url = std::env::var(\"DATABASE_URL\")?;",
    .line "let pool = PgPool::connect(&database_url).await?;",
    .blank,
    .line ("let listener = TcpListener::bind(\"" ++ listenAddress ++ "\").await?;"),
    .line "axum::serve(listener, router(pool)).await?;",
    .blank,
    .line "Ok(())"]

def routerImports : Imports :=
  (((Imports.empty.addPath "axum::Router").addPath "axum::routing::get").addPath
    "sqlx::PgPool").addPath "tokio::net::TcpListener"

def routerFunctions (models : List Model) : List FunctionItem :=
  mainFunction :: routerFunction models :: models.map Model.routesFunction

def routerFile (models : List Model) : GeneratedFile where
  steps := ["main.rs"]
  rules := .generated
  source := ⟨[⟨"handlers", false⟩, ⟨"models", false⟩], routerImports,
    (routerFunctions models).map .function⟩

end RestScaffold
