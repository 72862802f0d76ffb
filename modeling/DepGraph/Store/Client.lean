import DepGraph.Settings.Group
import DepGraph.Store.Basic

/-!
# The client of the store

A **client** holds the driver that reaches the store, until it is closed. Every call of the driver
is kept with its outcome. Closing a client again does nothing, and a closed client can do nothing
else. A store that cannot be reached when that is checked is a fault that names the address.
-/

namespace DepGraph

/-! ### Calls of the driver -/

namespace Driver

/-- What a driver is **asked** for. -/
inductive Request
  /-- To open a session on a database. -/
  | session (database : String)
  /-- To check that the store can be reached. -/
  | verify
  /-- To close. -/
  | close
deriving DecidableEq, Repr

namespace Request

/-- The name that a request goes by. -/
def name : Request → String
  | session _ => "session"
  | verify => "verify_connectivity"
  | close => "close"

/-- The fault that a request fails with, if it does. -/
def fault? (failures : Failures) : Request → Option Fault
  | session _ => failures.opening
  | verify => failures.verifying
  | close => failures.closing

end Request

/-- A **call** of the driver: what it was asked for, and the fault that this failed with, if it
did. -/
structure Call where
  /-- What the driver was asked for. -/
  request : Request
  /-- The fault, if there was one. -/
  fault : Option Fault := none

namespace Call

/-- Whether a call closed the driver. -/
def hasClosed (c : Call) : Bool := c.request == .close && c.fault.isNone

/-- The database of the session that a call opened, if it opened one. -/
def database? : Call → Option String
  | ⟨.session database, none⟩ => some database
  | _ => none

end Call

end Driver

/-! ### Clients -/

/-- A **client** of the store. -/
structure Client where
  /-- The settings. -/
  settings : StoreSettings := {}
  /-- Whether the client still has its driver. -/
  isOpen : Bool := true
  /-- The calls of the driver so far, in order. -/
  calls : List Driver.Call := []

namespace Client

/-- How often the driver was closed. -/
def closings (c : Client) : Nat := c.calls.countP (·.hasClosed)

/-- The databases of the sessions so far, in order. -/
def databases (c : Client) : List String := c.calls.filterMap (·.database?)

/-- The fault of asking a closed client for something of the driver. -/
def closedFault (what : String) : Fault :=
  .foreign .part ("'NoneType' object has no attribute '" ++ what ++ "'")

/-- The client after one more call of its driver. -/
def called (call : Driver.Call) (c : Client) : Client := { c with calls := c.calls ++ [call] }

/-- The client after its driver was **asked** for something, and the fault if there was one. -/
def ask (failures : Failures) (r : Driver.Request) (c : Client) : Client × Option Fault :=
  if c.isOpen then
    let fault := r.fault? failures
    (c.called ⟨r, fault⟩, fault)
  else (c, some (closedFault r.name))

/-- What an operation comes to for who is told of faults only. -/
def returned : Client × Option Fault → Except Fault Client
  | (c, none) => .ok c
  | (_, some f) => .error f

/-! ### Sessions and checks -/

/-- The database of a session: the one that is asked for, if it has a name. -/
def databaseFor (c : Client) (wanted : Option String) : String :=
  match wanted with
  | some name => if name == "" then c.settings.database else name
  | none => c.settings.database

/-- The client after it was to open a session, and the fault if there was one. -/
def trySession (failures : Failures) (wanted : Option String) (c : Client) :
    Client × Option Fault :=
  c.ask failures (.session (c.databaseFor wanted))

/-- The client after it **opened a session**. -/
def openSession (failures : Failures) (wanted : Option String) (c : Client) :
    Except Fault Client :=
  returned (c.trySession failures wanted)

/-- Whether a fault says that the store cannot be reached. -/
def isUnreachable (f : Fault) : Bool := f.isStore || f.isSystem

/-- How a fault of checking is told: one that says that the store cannot be reached is told with the
address. -/
def verifyFault (c : Client) (f : Fault) : Fault :=
  if isUnreachable f then
    .unreachable ("Neo4j unreachable at " ++ c.settings.uri ++ ": " ++ f.message)
  else f

/-- The client after it was to check that the store can be reached, and the fault if there was
one. -/
def tryVerify (failures : Failures) (c : Client) : Client × Option Fault :=
  let (after, fault) := c.ask failures .verify
  (after, fault.map c.verifyFault)

/-- **Checks** that the store can be reached. -/
def verify (failures : Failures) (c : Client) : Except Fault Unit :=
  (returned (c.tryVerify failures)).map fun _ => ()

/-! ### Closing -/

/-- The client after it was to be **closed**, and the fault if there was one. The driver is given up
only once it has closed: one that fails to close is kept. -/
def tryClose (failures : Failures) (c : Client) : Client × Option Fault :=
  if c.isOpen then
    match c.ask failures .close with
    | (c, none) => ({ c with isOpen := false }, none)
    | (c, some f) => (c, some f)
  else (c, none)

/-- The client after it was used in some way and then closed, whatever came of the use. A fault on
closing is told rather than one of the use. -/
def within (failures : Failures) (use : Client → Client × Option Fault) (c : Client) :
    Client × Option Fault :=
  let (used, fault) := use c
  let (left, closing) := used.tryClose failures
  (left, closing <|> fault)

/-- The client after it was checked and then closed in any case. -/
def checkOnce (failures : Failures) (c : Client) : Client × Option Fault :=
  c.within failures (tryVerify failures)

end Client

end DepGraph
