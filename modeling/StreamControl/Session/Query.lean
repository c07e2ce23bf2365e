import StreamControl.Session.Dispatch

/-!
# Queries

A query names a parameter and a callback.  If the parameter does not exist
the query is rejected.  Otherwise it is accepted under a ticket: its callback
is called at once if the filter is started, and else the query waits.

`Session.drain` looks through the waiting queries after filters have started,
stopped or gone: queries of started filters are answered, queries of
parameters that are no longer there are dropped, and the others go on
waiting.  A query that a callback makes meanwhile joins the end of the queue.
No filter starts during a drain, so whatever joins the queue belongs to a
filter that is not started, and one further pass settles it.

A query that has waited is answered by whoever claims it first, be it a drain
or the one who let it wait and looks at its filter again (`Session.recheck`).
-/

set_option autoImplicit false

namespace StreamControl.Session

variable {σ : Type}

/-- Gives a query a ticket. -/
def accept (query : Query) : Action (Session σ) Nat := do
  let ticket := (← get).nextTicket
  modify fun session => { session with nextTicket := ticket + 1 }
  record (.accepted ticket query)
  return ticket

/-- Claims the answering of a query that has waited; gives whether nobody has
claimed it before. -/
def claim (ticket : Nat) : Action (Session σ) Bool := do
  if ticket ∈ (← get).claimed then return false
  else
    modify fun session => { session with claimed := ticket :: session.claimed }
    return true

/-- Answers a query whose filter has meanwhile been started, unless somebody
else has. -/
def recheck (callees : Callees σ) (ticket : Nat) (query : Query) : Action (Session σ) Unit := do
  match (← get).tree.locate query.stream query.filter query.parameter with
  | .error _ => pure ()
  | .ok (entry, parameter) =>
    if entry.started then
      if ← claim ticket then
        let _ ← dispatch callees (.query ticket) query.callback (query.delivery parameter.value)
        log .trace "filter started during enqueue; query resolved"

/-- Lets a query wait for its filter to start, and looks at the filter once
more; without a host nothing can start it, and the query is dropped. -/
def defer (callees : Callees σ) (ticket : Nat) (query : Query) : Action (Session σ) Unit := do
  if (← get).isOpen then
    modify fun session => { session with waiting := session.waiting ++ [(ticket, query)] }
    log .debug "filter not started; query deferred"
    recheck callees ticket query
  else
    log .debug "host closed; deferred query dropped"

/-- Answers a query, now or later, or rejects it. -/
def query (callees : Callees σ) (query : Query) : Action (Session σ) (Except QueryFault Unit) := do
  match (← get).tree.locate query.stream query.filter query.parameter with
  | .error fault =>
    count .queriesRejected query.filter query.parameter
    log .debug "parameter query rejected"
    emit (.queryRejected query.stream query.filter query.parameter fault.message)
    return .error fault
  | .ok (entry, parameter) =>
    count .queriesAccepted query.filter query.parameter
    let ticket ← accept query
    if entry.started then
      let _ ← dispatch callees (.query ticket) query.callback (query.delivery parameter.value)
      log .trace "parameter query resolved"
    else
      defer callees ticket query
    return .ok ()

/-! ## Looking through the queue -/

/-- Looks through some queries in order; gives the ones that go on waiting and
how many were answered. -/
def sweep (callees : Callees σ) :
    List (Nat × Query) → Action (Session σ) (List (Nat × Query) × Nat)
  | [] => pure ([], 0)
  | (ticket, query) :: rest => do
    if ticket ∈ (← get).claimed then sweep callees rest
    else
      match (← get).tree.locate query.stream query.filter query.parameter with
      | .error _ =>
        log .debug "deferred query target vanished; dropped"
        sweep callees rest
      | .ok (entry, parameter) =>
        if entry.started then
          if ← claim ticket then
            let outcome ← dispatch callees (.query ticket) query.callback
              (query.delivery parameter.value)
            if outcome.wasInvoked then
              log .trace "deferred query resolved"
            let (still, answered) ← sweep callees rest
            return (still, answered + 1)
          else sweep callees rest
        else
          let (still, answered) ← sweep callees rest
          return ((ticket, query) :: still, answered)

/-- Empties the queue and gives what was in it. -/
def takeWaiting : Action (Session σ) (List (Nat × Query)) := do
  let waiting := (← get).waiting
  modify fun session => { session with waiting := [] }
  return waiting

/-- Looks through the whole queue; gives how many queries were answered. -/
def drain (callees : Callees σ) : Action (Session σ) Nat := do
  let (still, answered) ← sweep callees (← takeWaiting)
  -- User code starts no filter, so what has joined the queue meanwhile goes on
  -- waiting, no callback runs the second time, and nothing joins any more.
  let (joined, more) ← sweep callees (← takeWaiting)
  modify fun session => { session with waiting := still ++ joined ++ session.waiting }
  return answered + more

/-- Drops every waiting query and gives the number of those that had not been
answered. -/
def discardWaiting : Action (Session σ) Nat := do
  let dropped ← takeWaiting
  return dropped.countP (·.1 ∉ (← get).claimed)

end StreamControl.Session
