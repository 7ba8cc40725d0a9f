import ModuleGraph.Text.Basic

/-!
# Routes

A path leads to a route, or is told to do without its final slashes, or leads nowhere.

## Main definitions

- `Route`, `Route.methods` — what a path leads to, and the methods that it answers to
- `Route.ofPath?` — the route of a path
- `Destination`, `Destination.ofPath` — what becomes of a path
-/

namespace ModuleGraph.Api

/-- What a path leads to. -/
inductive Route where
  | health
  | modules
  | graph
  | nodes
  | start
  | node (id : String)
  | connections
  | connection (id : String)
  | undo
  | redo
  | validate
  | analyze
  | generate
  /-- A page about the server itself. -/
  | page
  deriving DecidableEq, Repr

def Route.methods : Route → List Text
  | health | modules | graph => ["GET"]
  | node _ | connection _ => ["DELETE"]
  | nodes | start | connections | undo | redo | validate | analyze | generate => ["POST"]
  | page => ["GET", "HEAD"]

/-! ### Paths -/

/-- The routes whose paths are fixed. -/
def fixedRoutes : List (String × Route) :=
  [("/health", .health), ("/api/modules", .modules), ("/api/graph", .graph),
    ("/api/graph/nodes", .nodes), ("/api/graph/start", .start),
    ("/api/graph/connections", .connections), ("/api/graph/undo", .undo),
    ("/api/graph/redo", .redo), ("/api/validate", .validate), ("/api/analyze", .analyze),
    ("/api/generate", .generate), ("/docs", .page), ("/docs/oauth2-redirect", .page),
    ("/openapi.json", .page), ("/redoc", .page)]

def withoutLineEnd (path : String) : String :=
  let cs := path.toList
  if cs.getLast? = some '\n' then String.ofList cs.dropLast else path

/-- The single segment that a path has after the given beginning. -/
def segmentAfter? (start path : String) : Option String :=
  let cs := path.toList
  let rest := cs.drop start.length
  if start.toList.isPrefixOf cs && !rest.isEmpty && !rest.contains '/' then
    some (String.ofList rest)
  else
    none

/-- The route of a path. -/
def Route.ofPath? (path : String) : Option Route :=
  -- a fixed path may end a line; an identifier is a single segment, whatever it holds
  fixedRoutes.lookup (withoutLineEnd path) <|>
    (segmentAfter? "/api/graph/nodes/" path).map .node <|>
    (segmentAfter? "/api/graph/connections/" path).map .connection

def withoutFinalSlashes (path : String) : String :=
  String.ofList (path.toList.reverse.dropWhile (· = '/')).reverse

/-- What becomes of a path. -/
inductive Destination where
  | found (route : Route)
  /-- The path leads somewhere without its final slashes. -/
  | redirect
  | nowhere
  deriving DecidableEq, Repr

def Destination.ofPath (path : String) : Destination :=
  match Route.ofPath? path with
  | some route => .found route
  | none =>
    if path.toList.getLast? = some '/' && (Route.ofPath? (withoutFinalSlashes path)).isSome then
      .redirect
    else
      .nowhere

end ModuleGraph.Api
