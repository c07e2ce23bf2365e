import StreamControl.Host.Start

/-!
# Stopping streams

A stop mirrors a start, in reverse load order.  Only the controllers that
have seen the stream start take part, and only the filters that are started.
The controllers are told, the filters are stopped, the controllers are told
again, and then the subscriptions that do not stay are removed.  A filter
whose stop function refuses is stopped all the same.
-/

set_option autoImplicit false

namespace StreamControl

/-- What came of a stop. -/
structure StopReport where
  /-- The filters that were stopped, in stream order. -/
  stopped : List String
  /-- Those whose stop function refused, with the refusal. -/
  failed : List (String × Fault)
  /-- How many subscriptions were removed. -/
  subscriptionsRemoved : Nat
  /-- How many hooks failed. -/
  hookFailures : Nat
  deriving DecidableEq, Inhabited

namespace Host

variable {σ : Type}

/-- Stops a filter; gives the refusal of its stop function, if any. -/
def stopFilter (code : UserCode σ) (stream : StreamId) (slot : FilterSlot) :
    Action (Host σ) (Option Fault) := do
  let result ← onSession (callFilter code .stop stream slot)
  let refusal ← match result with
    | .ok () => pure none
    | .error fault => do
      onSession (Session.log .warn "filter stop() failed")
      pure (some fault)
  markFilter stream slot .stopped false
  onSession (Session.emit (.filterStopped stream slot.name))
  return refusal

/-- Stops filters in order; gives the refusals. -/
def stopFilters (code : UserCode σ) (stream : StreamId) :
    List FilterSlot → Action (Host σ) (List (String × Fault))
  | [] => pure []
  | slot :: rest => do
    let refusal ← stopFilter code stream slot
    let others ← stopFilters code stream rest
    return match refusal with
      | some fault => (slot.name, fault) :: others
      | none => others

/-- The controllers that have seen a stream start, last loaded first. -/
def witnesses (host : Host σ) (stream : StreamId) : List LoadedController :=
  host.controllers.reverse.filter (·.streamPhases.find? stream = some .started)

/-- Stops a stream that is known to run. -/
def stopRunning (code : UserCode σ) (stream : StreamId) (graph : FilterGraph) :
    Action (Host σ) StopReport := do
  let host ← get
  onSession (Session.openSpan (host.config.spans.streamSpan? stream "stop"))
  let slots := graph.slots.filter (·.state = .started)
  let controllers := host.witnesses stream
  let before ← callFilterHooks code .preStop .preStopped stream slots controllers
  let refusals ← stopFilters code stream slots
  modifyStream stream (·.setFlow .idle)
  let after ← callFilterHooks code .postStop .stopped stream slots controllers
  let removed ← onSession (Session.changeTree fun tree => .ok (tree.dropUnkept stream))
  let _ ← onSession (Session.drain code.callees)
  onSession (Session.log .info "stream stopped")
  onSession (Session.emit (.streamStopped stream))
  return { stopped := slots.map (·.name), failed := refusals, subscriptionsRemoved := removed,
           hookFailures := before + after }

/-- Stops a stream. -/
def stop (code : UserCode σ) (stream : StreamId) : Action (Host σ) StopReport := do
  let graph ← attached stream
  match graph.flow with
  | .idle => Action.refuse (.streamNotRunning stream)
  | .running => stopRunning code stream graph

end Host

end StreamControl
