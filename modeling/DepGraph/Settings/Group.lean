import DepGraph.Settings.Origin
import DepGraph.Settings.Types

/-!
# The groups of settings

Each group of settings is built from its origins in one pass over its fields, and shown with the
same names. The settings of the process contain those of the store, which are built from the same
environment and file, with what is given for them in front.
-/

namespace DepGraph

open Settings

/-- The value of a text field, shown. -/
def Settings.shown (fields : List (String × Json)) : Json :=
  .obj (fields.map fun f => (Text.ofString f.1, f.2))

/-! ### Ingesting and reading -/

namespace ServiceSettings

/-- The name of the group. -/
def group : String := "CodeGraphSettings"

/-- The fields. -/
def fields : List Field :=
  [⟨"WORKSPACE_ROOT", false⟩, ⟨"MAX_DISCOVERED_FILES", false⟩, ⟨"GRAPH_ROW_LIMIT", false⟩,
    ⟨"SNIPPET_LENGTH", false⟩, ⟨"CLONE_DEPTH", false⟩, ⟨"EXTRA_IGNORE_PATTERNS", true⟩]

/-- The settings that values make. -/
def ofValues (values : Json.Fields) : Checked ServiceSettings :=
  let usual : ServiceSettings := {}
  ServiceSettings.mk
    <$> take values "WORKSPACE_ROOT" usual.workspaceRoot Check.string
    <*> take values "MAX_DISCOVERED_FILES" usual.maxFiles (Check.integerFrom 1)
    <*> take values "GRAPH_ROW_LIMIT" usual.rowLimit (Check.integerFrom 1)
    <*> take values "SNIPPET_LENGTH" usual.snippetLength (Check.integerFrom 0)
    <*> take values "CLONE_DEPTH" usual.cloneDepth (Check.optional (Check.integerFrom 1))
    <*> take values "EXTRA_IGNORE_PATTERNS" usual.ignoreLines (Check.list Check.string)

/-- **Builds** the settings from their origins. -/
def build (o : Origins) : Except Refusal ServiceSettings := do
  (ofValues (← o.values fields)).orRefuse group

/-- The settings, shown. -/
def toJson (s : ServiceSettings) : Json :=
  shown [("WORKSPACE_ROOT", .ofString s.workspaceRoot), ("MAX_DISCOVERED_FILES", .int s.maxFiles),
    ("GRAPH_ROW_LIMIT", .int s.rowLimit), ("SNIPPET_LENGTH", .int s.snippetLength),
    ("CLONE_DEPTH", (s.cloneDepth.map Json.int).getD .null),
    ("EXTRA_IGNORE_PATTERNS", .arr (s.ignoreLines.map Json.ofString))]

end ServiceSettings

/-! ### The store -/

namespace StoreSettings

/-- The name of the group. -/
def group : String := "Neo4jSettings"

/-- The fields. -/
def fields : List Field :=
  [⟨"NEO4J_URI", false⟩, ⟨"NEO4J_USERNAME", false⟩, ⟨"NEO4J_PASSWORD", false⟩,
    ⟨"NEO4J_DATABASE", false⟩, ⟨"NEO4J_CONNECTION_TIMEOUT", false⟩,
    ⟨"NEO4J_MAX_CONNECTION_POOL_SIZE", false⟩, ⟨"NEO4J_MAX_TRANSACTION_RETRY_TIME", false⟩]

/-- A positive number among the values. -/
def takePositive (values : Json.Fields) (name : String) (usual : Float) : Checked Float :=
  take values name usual (Check.positiveNumber name)

/-- The settings that values make. -/
def ofValues (values : Json.Fields) : Checked StoreSettings :=
  let usual : StoreSettings := {}
  StoreSettings.mk
    <$> take values "NEO4J_URI" usual.uri Check.address
    <*> take values "NEO4J_USERNAME" usual.username Check.string
    <*> take values "NEO4J_PASSWORD" usual.password Check.string
    <*> take values "NEO4J_DATABASE" usual.database Check.string
    <*> takePositive values "NEO4J_CONNECTION_TIMEOUT" usual.connectionTimeout
    <*> take values "NEO4J_MAX_CONNECTION_POOL_SIZE" usual.poolSize
      (Check.positiveInteger "NEO4J_MAX_CONNECTION_POOL_SIZE")
    <*> takePositive values "NEO4J_MAX_TRANSACTION_RETRY_TIME" usual.retryTime

/-- **Builds** the settings from their origins. -/
def build (o : Origins) : Except Refusal StoreSettings := do
  (ofValues (← o.values fields)).orRefuse group

/-- The settings, shown. -/
def toJson (s : StoreSettings) : Json :=
  shown [("NEO4J_URI", .ofString s.uri), ("NEO4J_USERNAME", .ofString s.username),
    ("NEO4J_PASSWORD", .ofString s.password), ("NEO4J_DATABASE", .ofString s.database),
    ("NEO4J_CONNECTION_TIMEOUT", .float s.connectionTimeout),
    ("NEO4J_MAX_CONNECTION_POOL_SIZE", .int s.poolSize),
    ("NEO4J_MAX_TRANSACTION_RETRY_TIME", .float s.retryTime)]

/-- Whether the scheme of the address settles that connections are encrypted. -/
def isSecure (s : StoreSettings) : Bool :=
  let scheme := schemeOf s.uri
  scheme.endsWith "+s" || scheme.endsWith "+ssc"

/-- The options of the driver: that connections are not encrypted is said only where the scheme of
the address leaves it open. -/
def connectionOptions (s : StoreSettings) : List (String × Json) :=
  [("auth", .arr [.ofString s.username, .ofString s.password]),
    ("max_connection_lifetime", .float s.connectionTimeout),
    ("max_connection_pool_size", .int s.poolSize),
    ("max_transaction_retry_time", .float s.retryTime)] ++
  if s.isSecure then [] else [("encrypted", .bool false)]

end StoreSettings

/-! ### The process -/

namespace ProcessSettings

/-- The name of the group. -/
def group : String := "AppSettings"

/-- The name of the field that holds the settings of the store. -/
def storeField : String := "neo4j"

/-- The fields. -/
def fields : List Field :=
  [⟨"API_PORT", false⟩, ⟨"LOG_LEVEL", false⟩, ⟨"SERVICE_NAME", false⟩, ⟨storeField, true⟩]

/-- The settings of the store, with what is given for them. -/
def storeOfGiven (o : Origins) : Json → Except Refusal (Checked StoreSettings)
  | .obj given =>
    match StoreSettings.build { o with given } with
    | .ok s => .ok (.passed s)
    | .error (.invalid _ issues) => .ok (.failed issues)
    | .error r => .error r
  | _ => .ok (.complain (.noGroup StoreSettings.group))

/-- The settings of the store. Where nothing is given for them they have to be in order on their
own, so that their refusal is that of all. -/
def takeStore (o : Origins) (values : Json.Fields) : Except Refusal (Checked StoreSettings) :=
  match Json.Fields.get? values (Text.ofString storeField) with
  | none => (StoreSettings.build { o with given := [] }).map Checked.passed
  | some j => (storeOfGiven o j).map (Checked.under (.field storeField))

/-- **Builds** the settings from their origins. -/
def build (o : Origins) : Except Refusal ProcessSettings := do
  let values ← o.values fields
  let usual : ProcessSettings := {}
  let store ← takeStore o values
  (ProcessSettings.mk
    <$> take values "API_PORT" usual.port Check.integer
    <*> take values "LOG_LEVEL" usual.logLevel Check.string
    <*> take values "SERVICE_NAME" usual.serviceName Check.string
    <*> store).orRefuse group

/-- The settings, shown. -/
def toJson (s : ProcessSettings) : Json :=
  shown [("API_PORT", .int s.port), ("LOG_LEVEL", .ofString s.logLevel),
    ("SERVICE_NAME", .ofString s.serviceName), (storeField, s.store.toJson)]

end ProcessSettings

end DepGraph
