import DepGraph.Fault
import DepGraph.Http.Message
import DepGraph.Redaction

/-!
# Responses to failures

A request that fails is answered with a JSON object that says so in a `detail`. A failed ingestion
says nothing else; what the store, the request itself or any other part says is redacted, and told
after a label for where it came from.
-/

namespace DepGraph.Http.Failure

/-- The body of an answer to a failure. -/
def body (detail : String) : Json :=
  .obj [(Text.ofString "status", .ofString "error"), (Text.ofString "detail", .ofString detail)]

/-- An answer to a failure. -/
def respond (status : Nat) (detail : String) (headers : Headers) : Response :=
  .json status (body detail) headers

/-- A label, and after it what there is to say, if that is more than blanks. -/
def labelled (label context : String) : String :=
  if Text.hasInk context.toList then label ++ ": " ++ context else label

/-! ### Labels -/

/-- The labels for faults of the store, by their kinds; the first that fits counts. -/
def labels : List (StoreKind × String) :=
  [(.serviceUnavailable, "Neo4j service unavailable"), (.sessionExpired, "Neo4j session expired"),
    (.authentication, "Neo4j authentication failed"), (.client, "Neo4j client error"),
    (.transient, "Neo4j transient error"), (.server, "Neo4j error"),
    (.driver, "Neo4j driver error")]

/-- The label for anything else. -/
def unexpected : String := "Unexpected error"

/-- The **label** of a fault. -/
def label (f : Fault) : String :=
  match f with
  | .store kind _ => ((labels.find? fun l => kind.upwards.contains l.1).map (·.2)).getD unexpected
  | _ => unexpected

/-! ### Answers -/

/-- The answer to a failed ingestion. -/
def ofIngestion : Response := respond 500 "Ingestion failed" []

/-- The answer to a fault of the store. -/
def ofStore (f : Fault) : Response :=
  respond 500 (labelled (label f) (Redaction.redact f.message)) []

/-- The answer to any other fault. -/
def ofOther (f : Fault) : Response :=
  respond 500 (labelled unexpected (Redaction.redact f.message)) []

/-- The answer to a fault that brings its own status. -/
def ofAnswer (status : Nat) (detail : Json) (headers : Headers) : Response :=
  respond status (labelled "HTTP error" (Redaction.redact detail.display)) headers

/-- The answer to a request that does not have the form it needs. -/
def ofForm : Response := respond 422 "Validation error: Request validation failed" []

/-- The **answer** to a fault. -/
def ofFault (f : Fault) : Response :=
  match f with
  | .answer status detail headers => ofAnswer status detail headers
  | .store _ _ => ofStore f
  | f => if f.isIngestion then ofIngestion else ofOther f

/-- Whether a fault is one that no part of the service expects: it is answered outside of everything
else that the service does with a response. -/
def isUnexpected : Fault → Bool
  | .answer _ _ _ | .store _ _ => false
  | f => !f.isIngestion

/-- An answer that the routing gives, in its own form. -/
def plainDetail (status : Nat) (detail : String) (headers : Headers) : Response :=
  .json status (.obj [(Text.ofString "detail", .ofString detail)]) headers

/-- A failed ingestion tells nothing about its fault. -/
theorem ofFault_of_isIngestion {f : Fault} (h : f.isIngestion = true) :
    ofFault f = ofIngestion := by
  cases f <;> simp_all [Fault.isIngestion, ofFault]

end DepGraph.Http.Failure
