/-!
# The states of a run

A run goes through acquisition, discovery and processing in this order, and ends when its
transaction is committed or rolled back:

`idle → cloned → discovered → processing → committing → committed`,

with `rolledBack` reachable from `processing` and `committing` only.
-/

namespace DepGraph

/-- The **state** of a run. -/
inductive RunState
  /-- Nothing happened yet. -/
  | idle
  /-- The repository is on disk. -/
  | cloned
  /-- The files are listed. -/
  | discovered
  /-- The files are read and written. -/
  | processing
  /-- All is written but not committed. -/
  | committing
  /-- The new graph is stored. -/
  | committed
  /-- The old graph is kept. -/
  | rolledBack
deriving DecidableEq, Repr

namespace RunState

/-- All states, in order. -/
def all : List RunState :=
  [idle, cloned, discovered, processing, committing, committed, rolledBack]

/-- The word for a state. -/
def word : RunState → String
  | idle => "idle"
  | cloned => "cloned"
  | discovered => "discovered"
  | processing => "processing"
  | committing => "committing"
  | committed => "committed"
  | rolledBack => "rolled_back"

/-- The state with this word. -/
def ofWord? (w : String) : Option RunState := all.find? (·.word == w)

/-- The states that may come next. -/
def successors : RunState → List RunState
  | idle => [cloned]
  | cloned => [discovered]
  | discovered => [processing]
  | processing => [committing, rolledBack]
  | committing => [committed, rolledBack]
  | committed => []
  | rolledBack => []

/-- The states in which a run ends. -/
def terminal : List RunState := [committed, rolledBack]

/-- A state ends a run exactly when no state may come next. -/
theorem mem_terminal_iff (s : RunState) : s ∈ terminal ↔ s.successors = [] := by
  cases s <;> decide

end RunState

end DepGraph
