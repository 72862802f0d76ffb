import DepGraph.Ignore.Rules
import DepGraph.Json.Printer
import DepGraph.Json.Reader
import DepGraph.Run.State
import DepGraph.Text.Utf8
import DepGraph.Tree

/-!
# Faults

A **fault** is what keeps an operation from returning. Faults are causes: what a fault is called in
reports (`DepGraph.Fault.kind`), what it says (`DepGraph.Fault.message`) and which larger kinds it
belongs to (`DepGraph.Fault.lineage`) follow from the constructor. The faults that an ingestion is
meant to fail with form a family of their own (`DepGraph.Fault.isIngestion`).
-/

namespace DepGraph

/-! ### Kinds -/

/-- The kinds of fault that the driver of the graph store reports. -/
inductive StoreKind
  /-- The server cannot be reached. -/
  | serviceUnavailable
  /-- The session is no longer valid. -/
  | sessionExpired
  /-- The driver was set up wrongly. -/
  | configuration
  /-- Any other fault on the side of the driver. -/
  | driver
  /-- The credentials were refused. -/
  | authentication
  /-- The user may not do this. -/
  | forbidden
  /-- A query is malformed. -/
  | statement
  /-- Any other fault of a request. -/
  | client
  /-- The server asks for another try. -/
  | transient
  /-- The database failed. -/
  | database
  /-- Any other fault on the side of the server. -/
  | server
deriving DecidableEq, Repr

namespace StoreKind

/-- The name of a kind. -/
def name : StoreKind → String
  | serviceUnavailable => "ServiceUnavailable"
  | sessionExpired => "SessionExpired"
  | configuration => "ConfigurationError"
  | driver => "DriverError"
  | authentication => "AuthError"
  | forbidden => "Forbidden"
  | statement => "CypherSyntaxError"
  | client => "ClientError"
  | transient => "TransientError"
  | database => "DatabaseError"
  | server => "Neo4jError"

/-- The kinds that a kind belongs to, itself first. -/
def upwards : StoreKind → List StoreKind
  | serviceUnavailable => [serviceUnavailable, driver]
  | sessionExpired => [sessionExpired, driver]
  | configuration => [configuration, driver]
  | driver => [driver]
  | authentication => [authentication, client, server]
  | forbidden => [forbidden, client, server]
  | statement => [statement, client, server]
  | client => [client, server]
  | transient => [transient, server]
  | database => [database, server]
  | server => [server]

end StoreKind

/-- The kinds of fault that other parts of the system raise. -/
inductive ForeignKind
  /-- Something went wrong at run time. -/
  | runtime
  /-- A value does not fit. -/
  | value
  /-- The operating system refused. -/
  | system
  /-- Something that was looked up by a key is missing. -/
  | key
  /-- Something that was looked up is missing. -/
  | lookup
  /-- The operating system denied access. -/
  | permission
  /-- A value has the wrong type. -/
  | type
  /-- A value lacks a part. -/
  | part
  /-- A list is too short. -/
  | index
deriving DecidableEq, Repr

namespace ForeignKind

/-- The names of a kind and of the kinds that it belongs to. -/
def names : ForeignKind → List String
  | runtime => ["RuntimeError"]
  | value => ["ValueError"]
  | system => ["OSError"]
  | key => ["KeyError", "LookupError"]
  | lookup => ["LookupError"]
  | permission => ["PermissionError", "OSError"]
  | type => ["TypeError"]
  | part => ["AttributeError"]
  | index => ["IndexError", "LookupError"]

/-- Whether the operating system refused. -/
def isSystem (k : ForeignKind) : Bool := k.names.contains "OSError"

end ForeignKind

/-! ### Faults -/

/-- A **fault**. -/
inductive Fault where
  /-- The driver of the store reports a fault. -/
  | store (kind : StoreKind) (message : String)
  /-- Another part of the system raises a fault. -/
  | foreign (kind : ForeignKind) (message : String)
  /-- A place on disk is not as it should be. -/
  | place (flaw : PlaceFlaw) (place : String)
  /-- A file is not UTF-8. -/
  | undecodable (u : Utf8.Undecodable)
  /-- A text cannot be written as UTF-8. -/
  | unencodable (u : Utf8.Unencodable)
  /-- Data is nested too deeply. -/
  | tooDeep
  /-- An ignore pattern is refused. -/
  | pattern (refusal : Ignore.Refusal)
  /-- A directory holds no repository. -/
  | noRepository (place : String)
  /-- A run may not go from one state to another. -/
  | badStep (current next : RunState)
  /-- A request is answered with a status of its own. -/
  | answer (status : Nat) (detail : Json) (headers : List (String × String))
  /-- An ingestion fails, for no reason that is told apart. -/
  | ingestion (message : String)
  /-- A repository could not be acquired. -/
  | acquisition (repoUrl reason : String)
  /-- A repository holds more files than are ingested. -/
  | tooManyFiles (count limit : Int)
  /-- A checkout could not be walked. -/
  | unwalkable (root : Json) (reason : String)
  /-- A rebuild was rolled back because of another fault. -/
  | rolledBack (message : String) (cause : Option Fault)
  /-- The store could not be reached at the start. -/
  | unreachable (message : String)

namespace Fault

instance : Inhabited Fault := ⟨.tooDeep⟩

/-- The names of a fault's kind and of the kinds that it belongs to, without the last one, which all
faults share. -/
def kinds : Fault → List String
  | store kind _ => kind.upwards.map StoreKind.name ++ ["GqlError"]
  | foreign kind _ => kind.names
  | place flaw _ => flaw.names
  | undecodable _ => ["UnicodeDecodeError", "UnicodeError", "ValueError"]
  | unencodable _ => ["UnicodeEncodeError", "UnicodeError", "ValueError"]
  | tooDeep => ["RecursionError", "RuntimeError"]
  | pattern (.malformed _) => ["GitIgnorePatternError", "ValueError"]
  | pattern (.badRange _) => ["error"]
  | noRepository _ => ["NotGitRepository"]
  | badStep _ _ => ["InvalidStateTransition", "RuntimeError"]
  | answer _ _ _ => ["HTTPException", "HTTPException"]
  | ingestion _ => ["IngestionError"]
  | acquisition _ _ => ["AcquisitionFailure", "IngestionError"]
  | tooManyFiles _ _ => ["DiscoveryLimitExceeded", "IngestionError"]
  | unwalkable _ _ => ["DiscoveryFailure", "IngestionError"]
  | rolledBack _ _ => ["TransactionFailure", "IngestionError"]
  | unreachable _ => ["StoreConnectivityFailure", "IngestionError"]

/-- The kind that all faults share. -/
def anyKind : String := "Exception"

/-- The names of all kinds that a fault belongs to, its own first. -/
def lineage (f : Fault) : List String := f.kinds ++ [anyKind]

/-- The name of a fault's **kind**. -/
def kind (f : Fault) : String := f.lineage.headD anyKind

/-- The text of the detail that a status comes with. -/
def detailText (detail : Json) : String := detail.display

/-- What a fault **says**. -/
def message : Fault → String
  | store _ m => m
  | foreign _ m => m
  | place flaw p => flaw.words ++ ": " ++ Text.quoteString p
  | undecodable u => u.message
  | unencodable u => u.message
  | tooDeep => "maximum recursion depth exceeded"
  | pattern r => r.message
  | noRepository p => "No git repository was found at " ++ p
  | badStep current next => current.word ++ " -> " ++ next.word
  | answer status detail _ => toString status ++ ": " ++ detailText detail
  | ingestion m => m
  | acquisition repoUrl reason =>
    "Failed to acquire repository " ++ Text.quoteString repoUrl ++ ": " ++ reason
  | tooManyFiles count limit =>
    "Repository too large to ingest: " ++ toString count ++ " files found, limit is " ++
      toString limit
  | unwalkable root reason =>
    "Failed to walk checkout " ++ Text.quoteString root.display ++ ": " ++ reason
  | rolledBack m _ => m
  | unreachable m => m

/-- Whether a fault belongs to the **family** that an ingestion is meant to fail with. -/
def isIngestion : Fault → Bool
  | ingestion _ | acquisition _ _ | tooManyFiles _ _ | unwalkable _ _ | rolledBack _ _
  | unreachable _ => true
  | _ => false

/-- Whether a fault comes from the driver of the store. -/
def isStore : Fault → Bool
  | store _ _ => true
  | _ => false

/-- Whether a fault comes from the operating system. -/
def isSystem : Fault → Bool
  | foreign kind _ => kind.isSystem
  | place _ _ => true
  | _ => false

/-- A fault as reports name it: its kind and what it says. -/
def summary (f : Fault) : String := f.kind ++ ": " ++ f.message

/-- The fault that nothing is kept under a name. -/
def absent (name : String) : Fault := .foreign .key (Text.quoteString name)

/-- A rebuild that was rolled back because of a fault. -/
def rollingBack (cause : Fault) : Fault :=
  .rolledBack ("Graph rebuild rolled back: " ++ cause.message) (some cause)

end Fault

end DepGraph
