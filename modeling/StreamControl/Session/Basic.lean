import StreamControl.Action
import StreamControl.Broadcast
import StreamControl.UserCode

/-!
# Sessions

A session is what user code can reach of a host: the parameter tree, the
queries waiting for their filters to start, the event channel, the counters,
and the memory that user code shares.  It outlives its host, since user code
may keep handles to it; it is then closed, and takes no more queries that
would have to wait.

This module holds the session's state and the small changes everything else
is made of.  `Session.call` is the one place where user code is entered, but
for setters, which the journal has no entries for.
-/

set_option autoImplicit false

namespace StreamControl

/-- What user code can reach of a host. -/
structure Session (σ : Type) where
  /-- The parameters. -/
  tree : ParameterTree := {}
  /-- Accepted queries waiting for their filters to start, with their tickets,
  oldest first. -/
  waiting : List (Nat × Query) := []
  /-- Tickets of the queries that waited and have been answered since. -/
  claimed : List Nat := []
  /-- Whether there still is a host to start filters. -/
  isOpen : Bool := true
  /-- The ticket of the next accepted query. -/
  nextTicket : Nat := 0
  /-- What came of handing values to callbacks. -/
  tally : Tally := {}
  /-- Where events are sent. -/
  channel : Broadcast Event
  /-- What has happened. -/
  journal : Journal := #[]
  /-- What user code remembers. -/
  memory : σ

namespace Session

variable {σ α : Type}

/-! ## Writing things down -/

/-- Writes an entry into the journal. -/
def record (entry : Entry) : Action (Session σ) Unit :=
  modify fun session => { session with journal := session.journal.push entry }

/-- Writes a message. -/
def log (level : Level) (text : String) : Action (Session σ) Unit :=
  record (.message level text)

/-- Opens a span, if there is one to open. -/
def openSpan : Option Span → Action (Session σ) Unit
  | some span => record (.opened span)
  | none => pure ()

/-- Increases a counter. -/
def count (metric : Metric) (first second : String) : Action (Session σ) Unit :=
  record (.counted metric first second)

/-- Sends an event. -/
def emit (event : Event) : Action (Session σ) Unit := do
  modify fun session => { session with channel := (session.channel.send event).2 }
  record (.sent event)

/-! ## Parts of the session -/

/-- Puts a parameter tree in place of the one there is. -/
def plant (tree : ParameterTree) : Action (Session σ) Unit :=
  modify fun session => { session with tree, journal := session.journal.push (.grown tree) }

/-- Changes the parameter tree, or is refused. -/
def changeTree (change : ParameterTree → Except Fault (α × ParameterTree)) :
    Action (Session σ) α := do
  let (result, tree) ← Action.ofExcept (change (← get).tree)
  plant tree
  return result

/-- Reads the parameter tree, or is refused. -/
def readTree (read : ParameterTree → Except Fault α) : Action (Session σ) α := do
  Action.ofExcept (read (← get).tree)

/-- A session whose host is gone, and with it the queue. -/
def close (session : Session σ) : Session σ := { session with isOpen := false, waiting := [] }

/-- Counts an outcome. -/
def addToTally (outcome : DispatchOutcome) : Action (Session σ) Unit :=
  modify fun session => { session with tally := session.tally.add outcome }

/-! ## Entering user code -/

/-- Runs user code, writes down that it was entered and how it ended, and
turns a panic into a value.  `succeeds` says which results count as success. -/
def call (call : Call) (succeeds : α → Bool) (body : Action (Session σ) α) :
    Action (Session σ) (Except String α) := do
  record (.entered call)
  let result ← body.contain
  record (.left call
    (match result with
      | .ok value => if succeeds value then .succeeded else .failed
      | .error _ => .panicked))
  return result

end Session

end StreamControl
