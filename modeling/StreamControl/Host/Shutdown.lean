import StreamControl.Host.Load
import StreamControl.Host.Stop

/-!
# Shutting a host down

A shutdown stops the running streams, lowest number first, then unloads the
controllers, last loaded first, and drops the queries that still wait.  It
happens once; asked again, a host does nothing.  A host that is dropped is
shut down first, and its session is closed.
-/

set_option autoImplicit false

namespace StreamControl.Host

variable {σ : Type}

/-- Stops streams in order; a refusal is only noted. -/
def stopAll (code : UserCode σ) : List StreamId → Action (Host σ) Unit
  | [] => pure ()
  | stream :: rest => do
    match ← (stop code stream).attempt with
    | .ok _ => pure ()
    | .error _ => onSession (Session.log .warn "stop during shutdown failed")
    stopAll code rest

/-- Unloads controllers in order; a refusal is only noted. -/
def unloadAll (code : UserCode σ) : List String → Action (Host σ) Unit
  | [] => pure ()
  | name :: rest => do
    match ← (unload code name).attempt with
    | .ok () => pure ()
    | .error _ => onSession (Session.log .warn "unload during shutdown failed")
    unloadAll code rest

/-- The streams that run, lowest number first. -/
def runningStreams (host : Host σ) : List StreamId :=
  (host.streams.entries.filter (·.2.flow = .running)).map (·.1)

/-- Shuts a host down, the first time it is asked to. -/
def shutdown (code : UserCode σ) : Action (Host σ) Unit := do
  let host ← get
  if host.isShutDown then pure ()
  else
    modify fun host => { host with isShutDown := true }
    stopAll code host.runningStreams
    unloadAll code (← get).controllerNames.reverse
    let dropped ← onSession Session.discardWaiting
    if dropped ≠ 0 then
      onSession (Session.log .debug "pending parameter queries dropped at shutdown")
    onSession (Session.log .debug "control host shut down")

/-- Shuts a host down and closes its session, whether or not the shutdown
panics. -/
def drop (code : UserCode σ) : Action (Host σ) Unit := do
  let result ← (shutdown code).contain
  onSession (modify Session.close)
  match result with
  | .ok () => pure ()
  | .error reason => Action.panic reason

end StreamControl.Host
