/-!
# Settings

The settings of the service come in three groups: for ingesting and reading, for the store, and for
the process. Their defaults are the values they have when nothing else is said.
-/

namespace DepGraph

/-- The settings for **ingesting** repositories and reading the graph. -/
structure ServiceSettings where
  /-- Where the directories of the runs are made. -/
  workspaceRoot : String := "temp_repos"
  /-- The most files of a repository that is ingested. -/
  maxFiles : Int := 500
  /-- How many rows of the graph are read. -/
  rowLimit : Int := 1000
  /-- How much of a content is stored with a file. -/
  snippetLength : Int := 200
  /-- How many commits are cloned, if not all of them. -/
  cloneDepth : Option Int := some 1
  /-- Ignore patterns besides those that always hold. -/
  ignoreLines : List String := []
deriving Repr

/-- The settings for the **store**. -/
structure StoreSettings where
  /-- Where the store is. -/
  uri : String := "bolt://localhost:7687"
  /-- The name to authenticate with. -/
  username : String := "neo4j"
  /-- The password to authenticate with. -/
  password : String := "password"
  /-- The database that holds the graph. -/
  database : String := "neo4j"
  /-- How long a connection is kept, in seconds. -/
  connectionTimeout : Float := 30.0
  /-- How many connections are kept. -/
  poolSize : Int := 50
  /-- How long the driver tries again, in seconds. -/
  retryTime : Float := 30.0
deriving Repr

/-- The settings of the **process**. -/
structure ProcessSettings where
  /-- The port that is listened on. -/
  port : Int := 3000
  /-- The level of the log. -/
  logLevel : String := "INFO"
  /-- The name of the service in its spans. -/
  serviceName : String := "code-dependency-graph-service"
  /-- The settings for the store. -/
  store : StoreSettings := {}
deriving Repr

end DepGraph
