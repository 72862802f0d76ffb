import DepGraph.Http.Failure

/-!
# Routing

A **route** leads a method and a path to an endpoint. A path that no route has, but one with or
without slashes at its end has, is redirected there; a path whose routes want another method is
refused with that method.
-/

namespace DepGraph.Http

/-- What a request can be led to. -/
inductive Endpoint
  /-- A sign of life of the service. -/
  | health
  /-- The health of the store. -/
  | storeHealth
  /-- Ingesting a repository. -/
  | ingest
  /-- Reading the graph. -/
  | graph
deriving DecidableEq, Repr

/-- A **route**. -/
structure Route where
  /-- The method. -/
  method : String
  /-- The path. -/
  path : String
  /-- The endpoint. -/
  endpoint : Endpoint
deriving DecidableEq, Repr

namespace Route

/-- The routes that every application has. -/
def base : List Route := [⟨"GET", "/health", .health⟩]

/-- The route of an application that has a store. -/
def ofStore : List Route := [⟨"GET", "/health/neo4j", .storeHealth⟩]

/-- The routes of the service. -/
def ofService : List Route := [⟨"POST", "/ingest", .ingest⟩, ⟨"GET", "/graph", .graph⟩]

/-- The path with the slashes at its end changed: dropped, or one put there if there is none. -/
def otherPath (path : String) : String :=
  if path.toList.getLast? == some '/' then String.ofList (Path.dropEndSlashes path.toList)
  else path ++ "/"

/-- The place of another path on the host of a request, with the query of the request. -/
def location (r : Request) (path : String) : String :=
  "http://" ++ (r.headers.get? "host").getD "localhost" ++ path ++
    if r.query == "" then "" else "?" ++ r.query

/-- Where a request is **led**: to an endpoint, or to a response. -/
def lead (routes : List Route) (r : Request) : Endpoint ⊕ Response :=
  match routes.filter (·.path == r.path) with
  | [] =>
    let other := otherPath r.path
    if r.path != "/" && routes.any (·.path == other) then .inr (.redirect (location r other))
    else .inr (Failure.plainDetail 404 "Not Found" [])
  | first :: rest =>
    match (first :: rest).find? (·.method == r.method) with
    | some route => .inl route.endpoint
    | none => .inr (Failure.plainDetail 405 "Method Not Allowed" [("allow", first.method)])

end Route

end DepGraph.Http
