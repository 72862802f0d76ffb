import DepGraph.Fault
import DepGraph.Store.Graph

/-!
# The store and its transactions

A transaction works on a draft of the graph, and the draft replaces the graph when it is committed.
Any access to the store may fail: a **schedule** says where (`DepGraph.Failures`), with any fault. A
query that fails, like a commit that fails, changes nothing.
-/

namespace DepGraph

/-- The **store**: its graph, and how often transactions were begun, committed and rolled back. -/
structure Store where
  /-- The committed graph. -/
  graph : Graph := {}
  /-- How many transactions were begun. -/
  begun : Nat := 0
  /-- How many were committed. -/
  commits : Nat := 0
  /-- How many were asked to roll back. -/
  rollbacks : Nat := 0
deriving DecidableEq, Repr

/-- A **schedule of failures**: the accesses that fail, and with which fault. -/
structure Failures where
  /-- Opening a session. -/
  opening : Option Fault := none
  /-- Beginning a transaction. -/
  beginning : Option Fault := none
  /-- The query of a transaction with this number, counted from one. -/
  querying : Nat → Option Fault := fun _ => none
  /-- Committing a transaction. -/
  committing : Option Fault := none
  /-- Rolling a transaction back. -/
  rollingBack : Option Fault := none
  /-- A query outside of a transaction. -/
  reading : Option Fault := none
  /-- Checking that the store can be reached. -/
  verifying : Option Fault := none
  /-- Closing the driver. -/
  closing : Option Fault := none

/-- A **transaction**: the draft of the graph, and the queries that made it. -/
structure Transaction where
  /-- The draft. -/
  draft : Graph
  /-- The queries that succeeded, in order. -/
  queries : List Query := []

namespace Transaction

/-- The number of the next query. -/
def next (t : Transaction) : Nat := t.queries.length + 1

/-- The transaction after one more query. -/
def run (t : Transaction) (q : Query) : Transaction where
  draft := q.apply t.draft
  queries := t.queries ++ [q]

end Transaction

/-- What is asked of the store. -/
inductive Operation
  /-- A session is opened. -/
  | openSession
  /-- A transaction is begun. -/
  | begin
  /-- A query is run in the transaction. -/
  | query (q : Query)
  /-- The transaction is committed. -/
  | commit
  /-- The transaction is rolled back. -/
  | rollback
deriving DecidableEq, Repr

end DepGraph
