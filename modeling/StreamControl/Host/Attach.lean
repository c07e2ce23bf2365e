import StreamControl.Host.Hooks

/-!
# Attaching and detaching streams

A stream is attached under the next number, and its filters are constructed
in order.  If one refuses, the stream is forgotten again; the number is used
up all the same.  Only a stream that does not run can be detached, and the
queries that wait for its filters go with it.
-/

set_option autoImplicit false

namespace StreamControl.Host

variable {σ : Type}

/-- Takes the next stream number.  There is none after the largest number, and
asking for one panics. -/
def takeStreamId : Action (Host σ) StreamId := do
  let number := (← get).nextStream
  if number + 1 = 0 then Action.panic "attempt to add with overflow"
  else
    modify fun host => { host with nextStream := number + 1 }
    return ⟨number⟩

/-- Makes filters known and constructs them, in order, until one refuses. -/
def constructFilters (code : UserCode σ) (stream : StreamId) :
    List FilterSlot → Action (Session σ) Unit
  | [] => pure ()
  | slot :: rest => do
    Session.changeTree fun tree => ((), ·) <$> tree.addFilter stream slot.name
    Action.ofExcept (← callFilter code .construct stream slot)
    constructFilters code stream rest

/-- Attaches a stream and gives its number. -/
def addStream (code : UserCode σ) (graph : FilterGraph) : Action (Host σ) StreamId := do
  let stream ← takeStreamId
  onSession (Session.changeTree fun tree => .ok ((), tree.addStream stream))
  match ← onSession (constructFilters code stream graph.slots).attempt with
  | .error fault =>
    onSession (Session.changeTree fun tree => .ok ((), tree.removeStream stream))
    onSession (Session.log .error "stream construction failed")
    Action.refuse fault
  | .ok () =>
    onSession (Session.log .info "stream added")
    modify fun host => { host with streams := host.streams.insert stream graph }
    return stream

/-- Detaches a stream that does not run, and gives its filter graph. -/
def removeStream (code : UserCode σ) (stream : StreamId) : Action (Host σ) FilterGraph := do
  let graph ← attached stream
  match graph.flow with
  | .running => Action.refuse (.streamRunning stream)
  | .idle =>
    modify fun host => { host with streams := host.streams.erase stream }
    onSession (Session.changeTree fun tree => .ok ((), tree.removeStream stream))
    let _ ← onSession (Session.drain code.callees)
    onSession (Session.log .info "stream removed")
    return graph

end StreamControl.Host
