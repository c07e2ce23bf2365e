import StreamControl.Host.Hooks

/-!
# Starting streams

A start goes through four stages.

1. Every controller, in load order, is asked about every filter (`poll`); a
   veto, or a panic, holds the filter back.
2. Every filter that is not held back is started (`startFilters`), and the
   stream runs.
3. The queries that waited for these filters are answered.
4. Every controller, in load order, is told of every filter that started.
-/

set_option autoImplicit false

namespace StreamControl

/-- What came of a filter at a start. -/
inductive StartResult where
  /-- It started. -/
  | started
  /-- A controller held it back. -/
  | vetoed
  /-- Its start function refused. -/
  | failed (fault : Fault)
  deriving DecidableEq, Inhabited

/-- What came of a start. -/
structure StartReport where
  /-- The filters that started, in stream order. -/
  started : List String
  /-- The filters that were held back, in stream order. -/
  vetoed : List String
  /-- The refusals of the others, in stream order. -/
  failed : List Fault
  /-- How many waiting queries were answered. -/
  answered : Nat
  /-- How many hooks failed. -/
  hookFailures : Nat
  deriving DecidableEq, Inhabited

namespace Host

variable {σ : Type}

/-! ## Asking the controllers -/

/-- Asks a controller about a filter; the flag says whether it panicked. -/
def askAbout (code : UserCode σ) (spans : SpanConfig) (controller : LoadedController)
    (stream : StreamId) (slot : FilterSlot) : Action (Session σ) (StartDecision × Bool) := do
  Session.log .debug "calling preStart()"
  Session.openSpan (spans.hookSpan? controller.name Hook.preStart.name)
  if controller.module.fills .preStart then
    let target := some (stream, slot.name)
    match ← guarded code controller.serial .preStart target (· = .proceed)
        (code.preStart controller.module.code (hookArguments stream slot)) with
    | some decision => return (decision, false)
    | none =>
      reportHookFailure controller.name .preStart target hookPanicCode
      return (.veto, true)
  else return (.proceed, false)

/-- Asks a controller about some filters, in order.  `held` are the numbers
of the filters held back before; the new list and the number of panics are
given back.  The first veto of a filter is announced. -/
def askAboutAll (code : UserCode σ) (spans : SpanConfig) (controller : LoadedController)
    (stream : StreamId) : List Nat → List FilterSlot → Action (Session σ) (List Nat × Nat)
  | held, [] => pure (held, 0)
  | held, slot :: rest => do
    let (decision, panicked) ← askAbout code spans controller stream slot
    let held ←
      if decision = .veto ∧ slot.index ∉ held then do
        Session.log .info "filter start vetoed"
        Session.emit (.startVetoed controller.name stream slot.name)
        pure (held ++ [slot.index])
      else pure held
    let (held, failures) ← askAboutAll code spans controller stream held rest
    return (held, failures + if panicked then 1 else 0)

/-- Asks controllers in order about every filter; gives the numbers of the
filters held back and the number of hooks that failed. -/
def poll (code : UserCode σ) (stream : StreamId) (slots : List FilterSlot) :
    List Nat → List LoadedController → Action (Host σ) (List Nat × Nat)
  | held, [] => pure (held, 0)
  | held, controller :: rest => do
    advance controller.serial (some stream) .preStarted
    let (held, failures) ← onSession
      (askAboutAll code (← get).config.spans controller stream held slots)
    let (held, more) ← poll code stream slots held rest
    return (held, failures + more)

/-! ## Starting the filters -/

/-- Marks a filter as started or not, in the graph and in the tree. -/
def markFilter (stream : StreamId) (slot : FilterSlot) (state : FilterState) (started : Bool) :
    Action (Host σ) Unit := do
  modifyStream stream (·.setState slot.index state)
  onSession (Session.changeTree fun tree => ((), ·) <$> tree.setStarted stream slot.name started)

/-- Starts a filter, unless it is held back. -/
def startFilter (code : UserCode σ) (stream : StreamId) (held : List Nat) (slot : FilterSlot) :
    Action (Host σ) StartResult := do
  if slot.index ∈ held then
    modifyStream stream (·.setState slot.index .idle)
    return .vetoed
  else
    match ← onSession (callFilter code .start stream slot) with
    | .ok () =>
      markFilter stream slot .started true
      onSession (Session.log .debug "filter started")
      onSession (Session.emit (.filterStarted stream slot.name))
      return .started
    | .error fault =>
      modifyStream stream (·.setState slot.index .failed)
      onSession (Session.log .warn "filter start() failed")
      onSession (Session.emit (.filterFailed stream slot.name fault.message))
      return .failed fault

/-- Starts filters in order, and gives what came of each. -/
def startFilters (code : UserCode σ) (stream : StreamId) (held : List Nat) :
    List FilterSlot → Action (Host σ) (List (FilterSlot × StartResult))
  | [] => pure []
  | slot :: rest => do
    let result ← startFilter code stream held slot
    return (slot, result) :: (← startFilters code stream held rest)

/-! ## The whole start -/

/-- The filters that started. -/
def startedSlots (results : List (FilterSlot × StartResult)) : List FilterSlot :=
  (results.filter (·.2 = .started)).map (·.1)

/-- The refusal a start reports for a filter. -/
def startFault? : FilterSlot × StartResult → Option Fault
  | (slot, .failed fault) => some (.filterStartFailed slot.name fault.message)
  | _ => none

/-- Reports a start. -/
def startReport (results : List (FilterSlot × StartResult)) (answered hookFailures : Nat) :
    StartReport :=
  { started := (startedSlots results).map (·.name)
    vetoed := (results.filter (·.2 = .vetoed)).map (·.1.name)
    failed := results.filterMap startFault?
    answered, hookFailures }

/-- Starts a stream that is known not to run. -/
def startIdle (code : UserCode σ) (stream : StreamId) (graph : FilterGraph) :
    Action (Host σ) StartReport := do
  let host ← get
  onSession (Session.openSpan (host.config.spans.streamSpan? stream "start"))
  let (held, vetoFailures) ← poll code stream graph.slots [] host.controllers
  let results ← startFilters code stream held graph.slots
  modifyStream stream (·.setFlow .running)
  let answered ← onSession (Session.drain code.callees)
  let failures ← callFilterHooks code .postStart .started stream (startedSlots results)
    host.controllers
  onSession (Session.log .info "stream started")
  onSession (Session.emit (.streamStarted stream))
  return startReport results answered (vetoFailures + failures)

/-- Starts a stream. -/
def start (code : UserCode σ) (stream : StreamId) : Action (Host σ) StartReport := do
  let graph ← attached stream
  match graph.flow with
  | .running => Action.refuse (.streamRunning stream)
  | .idle => startIdle code stream graph

end Host

end StreamControl
