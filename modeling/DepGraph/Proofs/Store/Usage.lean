import DepGraph.Store.Client
import Mathlib.Data.List.Basic

/-!
# Uses of a client

A client is **used** in any way (`DepGraph.Client.Use`): sessions are opened, the store is checked
and the client is closed, in any order and any number of times, with faults that are caught or not,
and within uses after which the client is closed in any case. Every call of the driver may fail.

The client keeps its driver in **custody** (`DepGraph.Client.InCustody`): it holds the driver as
long as no call has closed it, and the call that closed it is the last one. One operation keeps it
so, and so does any use, by induction on it. All that is said about the life of a driver
(`DepGraph.Client.life_useAll`) is read off this, and off what a client does that holds a driver
(`DepGraph.Client.Reaches`) and one that has given it up (`DepGraph.Client.IsIdle`).
-/

namespace DepGraph.Client

open Driver

/-! ### Uses -/

/-- A **use** of a client. What is asked of the driver in it may fail. -/
inductive Use
  /-- A session is opened. -/
  | session (failures : Failures) (wanted : Option String)
  /-- The store is checked. -/
  | verify (failures : Failures)
  /-- The client is closed. -/
  | close (failures : Failures)
  /-- Something else fails. -/
  | fail (f : Fault)
  /-- One use, and another one if the first one does not fail. -/
  | andThen (first second : Use)
  /-- A use whose fault is caught. -/
  | caught (use : Use)
  /-- A use after which the client is closed in any case. -/
  | within (failures : Failures) (use : Use)

/-- The client after a use, and the fault if the use failed. -/
def Use.perform : Use → Client → Client × Option Fault
  | session failures wanted, c => c.trySession failures wanted
  | verify failures, c => c.tryVerify failures
  | close failures, c => c.tryClose failures
  | fail f, c => (c, some f)
  | andThen first second, c =>
    match first.perform c with
    | (c, none) => second.perform c
    | (c, some f) => (c, some f)
  | caught use, c => ((use.perform c).1, none)
  | within failures use, c => c.within failures use.perform

/-- The client after some uses, one after the other, whether they fail or not. -/
def useAll (uses : List Use) (c : Client) : Client :=
  uses.foldl (fun c use => (use.perform c).1) c

variable {c : Client} {call : Call} {r : Request} {failures : Failures} {f : Fault}
  {wanted : Option String}

@[simp] theorem useAll_nil : c.useAll [] = c := rfl

@[simp] theorem useAll_cons (use : Use) (uses : List Use) :
    c.useAll (use :: uses) = (use.perform c).1.useAll uses := rfl

/-! ### With a driver and without -/

/-- A client **reaches** its driver if all that it is asked for is a call of the driver, with the
outcome of that. -/
structure Reaches (c : Client) : Prop where
  /-- A session is one on the database asked for. -/
  session : ∀ failures wanted, c.trySession failures wanted =
    (c.called ⟨.session (c.databaseFor wanted), failures.opening⟩, failures.opening)
  /-- A check is one of the store. -/
  verify : ∀ failures, c.tryVerify failures =
    (c.called ⟨.verify, failures.verifying⟩, failures.verifying.map c.verifyFault)
  /-- Closing the client is closing the driver. -/
  close : ∀ failures, (c.tryClose failures).1.calls = c.calls ++ [⟨.close, failures.closing⟩] ∧
    (c.tryClose failures).2 = failures.closing

/-- A client is **idle** if nothing that it is asked for is a call of the driver, whatever would
come of that: there are no sessions and no checks, and to close it is to do nothing. -/
structure IsIdle (c : Client) : Prop where
  /-- There are no sessions. -/
  session : ∀ failures wanted, c.trySession failures wanted = (c, some (closedFault "session"))
  /-- There are no checks. -/
  verify : ∀ failures, c.tryVerify failures = (c, some (closedFault "verify_connectivity"))
  /-- To close is to do nothing. -/
  close : ∀ failures, c.tryClose failures = (c, none)

/-- What is asked of a driver that is held is a call of it. -/
theorem ask_of_held (held : c.isOpen = true) :
    c.ask failures r = (c.called ⟨r, r.fault? failures⟩, r.fault? failures) := by
  simp [ask, held]

/-- There is nobody to ask once the driver is given up. -/
theorem ask_of_givenUp (givenUp : c.isOpen = false) :
    c.ask failures r = (c, some (closedFault r.name)) := by
  simp [ask, givenUp]

/-- A driver that fails to close is held further on. -/
theorem tryClose_of_fails (held : c.isOpen = true) (fails : failures.closing = some f) :
    c.tryClose failures = (c.called ⟨.close, some f⟩, some f) := by
  rw [tryClose, if_pos held, ask_of_held held]
  simp [Request.fault?, fails]

/-- A driver that closes is given up. -/
theorem tryClose_of_closes (held : c.isOpen = true) (closes : failures.closing = none) :
    c.tryClose failures = ({ c.called ⟨.close, none⟩ with isOpen := false }, none) := by
  rw [tryClose, if_pos held, ask_of_held held]
  simp [Request.fault?, closes]

/-- **A client that holds its driver reaches it.** -/
theorem reaches_of_held (held : c.isOpen = true) : c.Reaches where
  session failures wanted := ask_of_held held
  verify failures := by
    rw [tryVerify, ask_of_held held]
    rfl
  close failures := by
    cases outcome : failures.closing with
    | none =>
      rw [tryClose_of_closes held outcome]
      exact ⟨rfl, rfl⟩
    | some f =>
      rw [tryClose_of_fails held outcome]
      exact ⟨rfl, rfl⟩

/-- **A client that has given its driver up is idle.** -/
theorem isIdle_of_givenUp (givenUp : c.isOpen = false) : c.IsIdle where
  session failures wanted := ask_of_givenUp givenUp
  verify failures := by
    rw [tryVerify, ask_of_givenUp givenUp]
    rfl
  close failures := by simp [tryClose, givenUp]

/-- No use changes a client that is idle. -/
theorem IsIdle.perform (idle : c.IsIdle) (use : Use) : (use.perform c).1 = c := by
  induction use with
  | session failures wanted => rw [Use.perform, idle.session]
  | verify failures => rw [Use.perform, idle.verify]
  | close failures => rw [Use.perform, idle.close]
  | fail f => rfl
  | andThen first second ih ih' =>
    rw [Use.perform]
    split
    next after ended =>
      have same : after = c := by rw [← ih, ended]
      rw [same, ih']
    next after f ended =>
      have same : after = c := by rw [← ih, ended]
      rw [same]
  | caught use ih => exact ih
  | within failures use ih => simp only [Use.perform, Client.within, ih, idle.close]

/-- Nor do several. -/
theorem IsIdle.useAll (idle : c.IsIdle) (uses : List Use) : c.useAll uses = c := by
  induction uses with
  | nil => rfl
  | cons use uses ih => rw [useAll_cons, idle.perform, ih]

/-! ### Custody -/

/-- A client has its driver **in custody** if it holds the driver as long as no call has closed it,
and has not called it since one did. -/
inductive InCustody (c : Client) : Prop
  /-- The driver is held, and no call has closed it. -/
  | held (held : c.isOpen = true) (unclosed : ∀ call ∈ c.calls, call.hasClosed = false)
  /-- The driver is given up. The last call has closed it, and none before that. -/
  | givenUp (givenUp : c.isOpen = false) (front : List Call) (last : Call)
    (calls : c.calls = front ++ [last]) (closed : last.hasClosed = true)
    (unclosed : ∀ call ∈ front, call.hasClosed = false)

/-- A client that was not used yet has its driver in custody. -/
theorem inCustody_fresh (settings : StoreSettings) : InCustody { settings } :=
  .held rfl (by simp)

section Custody

variable (custody : c.InCustody)

include custody

/-- A call that does not close the driver keeps it in custody. -/
theorem InCustody.called (held : c.isOpen = true) (other : call.hasClosed = false) :
    (c.called call).InCustody := by
  cases custody with
  | held _ unclosed =>
    refine .held held ?_
    rw [Client.called, List.forall_mem_append]
    exact ⟨unclosed, by simpa using other⟩
  | givenUp givenUp => simp [held] at givenUp

/-- Whatever it is asked for, the driver stays in custody if it is not asked to close. -/
theorem InCustody.ask (other : r ≠ .close) : (c.ask failures r).1.InCustody := by
  cases holds : c.isOpen with
  | true =>
    rw [ask_of_held holds]
    exact custody.called holds (by simp [Call.hasClosed, other])
  | false =>
    rw [ask_of_givenUp holds]
    exact custody

/-- The driver stays in custody if it is asked to close, whether it does or not. -/
theorem InCustody.tryClose : (c.tryClose failures).1.InCustody := by
  cases holds : c.isOpen with
  | true =>
    cases outcome : failures.closing with
    | none =>
      rw [tryClose_of_closes holds outcome]
      cases custody with
      | held _ unclosed => exact .givenUp rfl c.calls _ rfl rfl unclosed
      | givenUp givenUp => simp [holds] at givenUp
    | some f =>
      rw [tryClose_of_fails holds outcome]
      exact custody.called holds rfl
  | false =>
    rw [(isIdle_of_givenUp holds).close]
    exact custody

/-- **Any use keeps the driver in custody.** -/
theorem InCustody.perform (use : Use) : (use.perform c).1.InCustody := by
  induction use generalizing c with
  | session failures wanted => exact custody.ask (by simp)
  | verify failures => exact custody.ask (by simp)
  | close failures => exact custody.tryClose
  | fail f => exact custody
  | andThen first second ih ih' =>
    have between := ih custody
    rw [Use.perform]
    split
    next after ended =>
      rw [ended] at between
      exact ih' between
    next after f ended =>
      rw [ended] at between
      exact between
  | caught use ih => exact ih custody
  | within failures use ih => exact (ih custody).tryClose

/-- So do several. -/
theorem InCustody.useAll (uses : List Use) : (c.useAll uses).InCustody := by
  induction uses generalizing c with
  | nil => exact custody
  | cons use uses ih => exact ih (custody.perform use)

/-- A driver in custody is held exactly if no call has closed it, and otherwise one has. -/
theorem InCustody.closings_eq : c.closings = if c.isOpen then 0 else 1 := by
  have none_closed {calls : List Call} (unclosed : ∀ call ∈ calls, call.hasClosed = false) :
      calls.countP (·.hasClosed) = 0 :=
    List.countP_eq_zero.mpr fun call there => by simp [unclosed call there]
  cases custody with
  | held held unclosed => rw [if_pos held, closings, none_closed unclosed]
  | givenUp givenUp front last calls closed unclosed =>
    rw [closings, calls, List.countP_append, none_closed unclosed]
    simp [givenUp, closed]

/-- **The call that closes a driver in custody is the last one.** -/
theorem InCustody.eq_nil_of_closed {front rest : List Call}
    (calls : c.calls = front ++ call :: rest) (closed : call.hasClosed = true) : rest = [] := by
  have there : call ∈ c.calls := by simp [calls]
  cases custody with
  | held _ unclosed => simp [unclosed call there] at closed
  | givenUp _ front' last calls' _ unclosed =>
    rcases rest.eq_nil_or_concat with rfl | ⟨rest, b, rfl⟩
    · rfl
    · rw [calls', List.concat_eq_append, ← List.cons_append, ← List.append_assoc] at calls
      obtain ⟨rfl, -⟩ := List.append_inj' calls rfl
      simp [unclosed call (by simp)] at closed

end Custody

/-! ### The life of a driver -/

/-- The **life of the driver** of a client, as it was so far and as it can go on. -/
structure Life (c : Client) : Prop where
  /-- The driver was closed at most once. -/
  once : c.closings ≤ 1
  /-- The client holds it exactly if it was not closed. -/
  holds : c.isOpen = true ↔ c.closings = 0
  /-- It was not called again after it was closed. -/
  last : ∀ front call rest, c.calls = front ++ call :: rest → call.hasClosed = true → rest = []
  /-- As long as the client holds it, whatever is asked for reaches it. -/
  reached : c.isOpen = true → c.Reaches
  /-- If it fails to close, it is held further on, and reached by all that is asked for then. -/
  fails : ∀ failures f, c.isOpen = true → failures.closing = some f →
    c.tryClose failures = (c.called ⟨.close, some f⟩, some f) ∧
      (c.called ⟨.close, some f⟩).isOpen = true ∧ (c.called ⟨.close, some f⟩).Reaches
  /-- If it closes, it is given up. -/
  closes : ∀ failures, c.isOpen = true → failures.closing = none →
    (c.tryClose failures).2 = none ∧ (c.tryClose failures).1.isOpen = false ∧
      (c.tryClose failures).1.closings = 1
  /-- Once it is given up, the client is idle, and stays as it is whatever it is used for. -/
  idle : c.isOpen = false → c.IsIdle ∧ ∀ uses, c.useAll uses = c
  /-- At the end of a use after which the client is closed, it is asked to close if the client still
  holds it, whether the use failed or not. The fault of that is told rather than one of the use. -/
  leaving : ∀ failures (use : Use), (use.perform c).1.isOpen = true →
    ((Use.within failures use).perform c).1.calls =
        (use.perform c).1.calls ++ [⟨.close, failures.closing⟩] ∧
      ((Use.within failures use).perform c).2 = (failures.closing <|> (use.perform c).2)
  /-- If the client was closed in the use already, nothing more happens at its end. -/
  left : ∀ failures (use : Use), (use.perform c).1.isOpen = false →
    (Use.within failures use).perform c = use.perform c

/-- **A driver that is in custody has such a life.** -/
theorem InCustody.life (custody : c.InCustody) : c.Life where
  once := by
    rw [custody.closings_eq]
    split <;> decide
  holds := by simp [custody.closings_eq]
  last _ _ _ := custody.eq_nil_of_closed
  reached := reaches_of_held
  fails _ _ held fails := ⟨tryClose_of_fails held fails, held, reaches_of_held held⟩
  closes failures held closes := by
    have after : (c.tryClose failures).1.closings =
        if (c.tryClose failures).1.isOpen then 0 else 1 := custody.tryClose.closings_eq
    rw [tryClose_of_closes held closes] at after ⊢
    exact ⟨rfl, rfl, after⟩
  idle givenUp := ⟨isIdle_of_givenUp givenUp, (isIdle_of_givenUp givenUp).useAll⟩
  leaving failures use held := by
    obtain ⟨calls, outcome⟩ := (reaches_of_held held).close failures
    exact ⟨calls, congrArg (· <|> (use.perform c).2) outcome⟩
  left failures use givenUp := by
    have nothing := (isIdle_of_givenUp givenUp).close failures
    simp only [Use.perform, Client.within, nothing]
    rfl

/-- **A driver is closed at most once and never called afterwards**, whatever its client is used
for, in whatever order, and whatever fails in that. -/
theorem life_useAll (settings : StoreSettings) (uses : List Use) :
    (useAll uses { settings }).Life :=
  ((inCustody_fresh settings).useAll uses).life

end DepGraph.Client
