/-!
# Routes

The paths that the service knows, and by which methods each of them can be reached.  A path has
to be given exactly.
-/

namespace HadithService

/-- What a request can be for. -/
inductive Route where
  | health
  | search
  | explain
  | chat
  | metrics
deriving DecidableEq, Repr

namespace Route

/-- The path of a route. -/
def path : Route → String
  | .health => "/health"
  | .search => "/api/search"
  | .explain => "/api/explain"
  | .chat => "/api/chat"
  | .metrics => "/api/metrics"

/-- All routes. -/
def all : List Route :=
  [.health, .search, .explain, .chat, .metrics]

/-- The route with a path. -/
def ofPath? (path : String) : Option Route :=
  all.find? fun r => r.path == path

/-- The methods by which a route is reached. -/
def methods : Route → List String
  | .explain => ["POST"]
  | .chat => ["POST"]
  | _ => ["GET", "HEAD"]

/-- The methods as a header names them. -/
def allowed (r : Route) : String :=
  String.intercalate "," r.methods

end Route

end HadithService
