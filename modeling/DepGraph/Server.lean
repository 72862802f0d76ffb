import DepGraph.Health
import DepGraph.Http.Routing
import DepGraph.Http.Sharing
import DepGraph.Ingestion
import DepGraph.Store.Client

/-!
# The server

A **server** leads requests to the endpoints of the service and answers faults. It starts and stops
with its client of the store: a store that cannot be reached keeps it from starting, and a client
that cannot be closed does not keep it from stopping.
-/

namespace DepGraph

open Http

/-- A **server**. -/
structure Server where
  /-- The routes. -/
  routes : List Route
  /-- Whether other origins may use the responses. -/
  isShared : Bool := true
  /-- The settings of the store. -/
  storeSettings : StoreSettings := {}
  /-- The service. -/
  service : Service
  /-- The directories of the runs. -/
  directories : RunDirectories
  /-- The store. -/
  store : Store := {}

namespace Server

/-! ### Endpoints -/

/-- The repository that a request to ingest names: by either name, the first of which counts if both
are there. -/
def repository? (j : Json) : Option String :=
  (j.field? "repoUrl" <|> j.field? "repo_url").bind fun v => v.string?.filter (· != "")

/-- An object with a status. -/
def statusObject (status : String) : Json := .obj [(Text.ofString "status", .ofString status)]

/-- The server after an ingestion, and its answer. -/
def ingestRepository (failures : Failures) (outcome : CloneOutcome) (repoUrl : String)
    (s : Server) : Server × Except Fault Response :=
  let r := ingest s.service failures outcome repoUrl s.directories s.store
  ({ s with store := r.store, directories := r.directories },
    r.outcome.map fun _ => .json 200 (statusObject "Ingestion complete") [])

/-- The server after a request to ingest, and its answer. -/
def answerIngest (failures : Failures) (outcome : CloneOutcome) (r : Request) (s : Server) :
    Server × Except Fault Response :=
  match r.payload with
  | .unreadable => (s, .ok (Failure.plainDetail 400 "There was an error parsing the body" []))
  | .value j =>
    match repository? j with
    | some repoUrl => s.ingestRepository failures outcome repoUrl
    | none => (s, .ok Failure.ofForm)
  | _ => (s, .ok Failure.ofForm)

/-- The server after a request that was led to an endpoint, and its answer. -/
def answerAt (failures : Failures) (outcome : CloneOutcome) (r : Request) (s : Server) :
    Endpoint → Server × Except Fault Response
  | .health => (s, .ok (.json 200 (statusObject "ok") []))
  | .storeHealth =>
    (s, (Health.check s.storeSettings failures Health.usualComponent s.store).map fun fields =>
      .json 200 (Settings.shown fields) [])
  | .ingest => s.answerIngest failures outcome r
  | .graph =>
    (s, (readSnapshot failures s.service.settings.rowLimit s.store).map fun (snapshot, _) =>
      .json 200 snapshot.toJson [])

/-! ### Requests -/

/-- The response as other origins may use it, if they may at all. -/
def shareIf (s : Server) (r : Request) (response : Response) : Response :=
  if s.isShared then Sharing.share r response else response

/-- The server after a request that is no question of another origin, and its response. -/
def dispatch (failures : Failures) (outcome : CloneOutcome) (r : Request) (s : Server) :
    Server × Response :=
  match Route.lead s.routes r with
  | .inr response => (s, s.shareIf r response)
  | .inl endpoint =>
    match s.answerAt failures outcome r endpoint with
    | (s, .ok response) => (s, s.shareIf r response)
    | (s, .error f) =>
      (s, if Failure.isUnexpected f then Failure.ofFault f else s.shareIf r (Failure.ofFault f))

/-- The server after a request, and its **response**. -/
def respond (failures : Failures) (outcome : CloneOutcome) (r : Request) (s : Server) :
    Server × Response :=
  match if s.isShared then Sharing.answer? r else none with
  | some response => (s, response)
  | none =>
    let (s, response) := s.dispatch failures outcome r
    (s, response.sent r.method)

/-! ### Starting and stopping -/

/-- Whether a server may **start**: its client, if it has one and it is to be checked, can reach the
store. -/
def start (failures : Failures) (isChecked : Bool) (client : Option Client) : Except Fault Unit :=
  match client with
  | some c => if isChecked then c.verify failures else .ok ()
  | none => .ok ()

/-- The client of a server after it **stopped**. -/
def stop (failures : Failures) (client : Option Client) : Option Client :=
  client.map fun c => (c.tryClose failures).1

end Server

end DepGraph
