import StreamControl.Host.Attach
import StreamControl.Host.Shutdown
import StreamControl.Rehearsal.Play
import StreamControl.Rehearsal.Readers

/-!
# The steps of a rehearsal

A rehearsal takes a host through steps: the operations of the host, acts done
from outside (`Step.act`), and reading events.  It keeps detached streams
under keys, to attach them again.

When the host has been dropped, the operations of the host are answered with
`Reply.noHost`, and so are making and dropping readers; acts and the readers
there are still work, since the session outlives the host.
-/

set_option autoImplicit false

namespace StreamControl.Rehearsal

/-! ## Steps -/

/-- A filter to be put into a new stream. -/
structure FilterPlan where
  /-- Its name; without one it is given a generated name. -/
  name : Option String
  /-- Its scripts; without them it does nothing. -/
  scripts : Option FilterScripts
  deriving Inhabited

/-- Something a rehearsal does. -/
inductive Step where
  /-- Does an act from outside. -/
  | act (act : Act)
  /-- Does something with a reader of events. -/
  | reader (step : ReaderStep)
  /-- Builds a stream and attaches it. -/
  | addStream (filters : List FilterPlan) (links : List (Nat × Nat))
  /-- Detaches a stream, and keeps it if there is a key. -/
  | removeStream (stream : StreamId) (key : Option String)
  /-- Attaches a stream that was kept. -/
  | addSaved (key : String)
  /-- Looks at a stream that was kept. -/
  | savedInfo (key : String)
  /-- Loads a controller. -/
  | load (path : String) (name : Option String) (arguments : List String)
      (scripts : ModuleScripts)
  /-- Unloads a controller. -/
  | unload (name : String)
  /-- Starts a stream. -/
  | start (stream : StreamId)
  /-- Stops a stream. -/
  | stop (stream : StreamId)
  /-- Shuts the host down. -/
  | shutdown
  /-- Drops the host. -/
  | dropHost
  /-- Asks a controller for help. -/
  | help (name : String)
  /-- Looks at a controller. -/
  | controller (name : String) (stream : StreamId)
  /-- Lists the controllers. -/
  | controllerNames
  /-- Lists the streams. -/
  | streamIds
  /-- Asks whether a stream is attached. -/
  | hasStream (stream : StreamId)
  /-- Looks at a stream. -/
  | streamInfo (stream : StreamId)
  /-- Describes a stream. -/
  | describeStream (stream : StreamId)
  /-- Looks at the counts of outcomes. -/
  | tally
  /-- Counts the waiting queries. -/
  | pending
  /-- Looks at the configuration. -/
  | config
  /-- Describes the host. -/
  | describe
  /-- Queries a parameter through a new handle. -/
  | queryAnew (target : Target) (callback : Callback) (context : UserContext)

/-! ## The stage -/

/-- A rehearsal under way. -/
structure Stage where
  /-- The host; its session is still used when it has been dropped. -/
  host : Host Memory
  /-- Whether the host has been dropped. -/
  isDropped : Bool := false
  /-- The streams that are kept. -/
  saved : OrderedMap String FilterGraph := .empty
  /-- The named readers. -/
  readers : Readers := {}

namespace Stage

variable {α : Type}

/-- How deep callbacks and setters may nest in a rehearsal. -/
def nesting : Nat := 1000000

/-- The user code of a rehearsal. -/
def code : UserCode Memory := userCode nesting

/-- Does something to the host. -/
def onHost (action : Action (Host Memory) α) : Action Stage α :=
  action.within (·.host) fun host stage => { stage with host }

/-- Does something to the session. -/
def onSession (action : Action (Session Memory) α) : Action Stage α :=
  onHost (Host.onSession action)

/-- Runs a program from outside. -/
def play (program : Played α) : Action Stage α := onSession (code.run program)

/-- Makes a new filter known to the memory. -/
def prepareFilter : Option FilterScripts → Action Stage (Option CodeRef)
  | none => return none
  | some scripts => onSession do
    let (reference, memory) := (← get).memory.addFilter scripts
    modify fun session => { session with memory }
    return some reference

/-- Adds filters to a graph, in order. -/
def addFilters (graph : FilterGraph) : List FilterPlan → Action Stage FilterGraph
  | [] => return graph
  | plan :: rest => do
    let reference ← prepareFilter plan.scripts
    let graph ← match plan.name with
      | some name => (·.2) <$> Action.ofExcept (graph.add name reference)
      | none => pure (graph.addAuto reference).2
    addFilters graph rest

/-- Adds links to a graph, in order. -/
def addLinks (graph : FilterGraph) : List (Nat × Nat) → Except Fault FilterGraph
  | [] => .ok graph
  | (source, sink) :: rest =>
    match graph.link source sink with
    | .ok linked => addLinks linked rest
    | .error problem => .error problem.toFault

/-- Attaches a stream. -/
def attach (graph : FilterGraph) : Action Stage Reply :=
  Reply.attached <$> onHost (Host.addStream code graph)

/-- Does a step with a reader. -/
def performReader (step : ReaderStep) : Action Stage Reply := do
  let stage ← get
  let result := stage.readers.perform stage.host.session.channel step
  modify fun stage => { stage with readers := result.readers }
  onSession do
    modify fun session => { session with channel := result.channel }
    if result.lagged then Session.log .trace "event receiver lagged"
  return result.reply

/-- Does a step that needs the host. -/
def performHost : Step → Action Stage Reply
  | .addStream filters links => do
    let graph ← addFilters .empty filters
    attach (← Action.ofExcept (addLinks graph links))
  | .removeStream stream key => do
    let graph ← onHost (Host.removeStream code stream)
    match key with
    | some key => modify fun stage => { stage with saved := stage.saved.insert key graph }
    | none => pure ()
    return .graph graph
  | .addSaved key => do
    match (← get).saved.find? key with
    | none => return .noSavedStream
    | some graph =>
      modify fun stage => { stage with saved := stage.saved.erase key }
      attach graph
  | .savedInfo key => do
    match (← get).saved.find? key with
    | none => return .nothing
    | some graph => return .graph graph
  | .load path name arguments scripts => do
    let reference ← onSession do
      let (reference, memory) := (← get).memory.addModule scripts
      modify fun session => { session with memory }
      return reference
    let module := { code := reference, hooks := scripts.hooks.map (·.1) }
    return .text (← onHost (Host.load code path name module arguments))
  | .unload name => do
    onHost (Host.unload code name)
    return .done
  | .start stream => return .started (← onHost (Host.start code stream))
  | .stop stream => return .stopped (← onHost (Host.stop code stream))
  | .shutdown => do
    onHost (Host.shutdown code)
    return .done
  | .dropHost => do
    modify fun stage => { stage with isDropped := true }
    onHost (Host.drop code)
    return .done
  | .help name => do
    match ← onHost (Host.help code name) with
    | some text => return .text text
    | none => return .nothing
  | .controller name stream => do
    let host := (← get).host
    return .controller (host.controllerPhase name) (host.controllerStreamPhase name stream)
      (host.controllerPath name)
  | .controllerNames => return .texts (← get).host.controllerNames
  | .streamIds => return .streams (← get).host.streams.keys
  | .hasStream stream => return .flag ((← get).host.stream? stream).isSome
  | .streamInfo stream => do
    match (← get).host.stream? stream with
    | some graph => return .graph graph
    | none => return .nothing
  | .describeStream stream => do
    match (← get).host.stream? stream with
    | some graph => return .text graph.describe
    | none => return .nothing
  | .tally => return .tally (← get).host.session.tally
  | .pending => return .number (← get).host.pendingQueries
  | .config => return .config (← get).host.config
  | .describe => return .text (← get).host.describe
  | .queryAnew target callback context => do
    let answer ← onSession (Session.query code.callees
      { stream := target.streamOrZero, filter := target.filterOrEmpty,
        parameter := target.nameOrEmpty, callback, context })
    return .queriedAnew answer version
  | .act _ | .reader _ => return .nothing

/-- Does a step. -/
def perform : Step → Action Stage Reply
  | .act act => play (answerTo {} act)
  | .reader step => do
    if (← get).isDropped && step.needsHost then return .noHost else performReader step
  | .dropHost => do
    if (← get).isDropped then return .done else performHost .dropHost
  | step => do
    if (← get).isDropped then return .noHost else performHost step

/-- The reply to a step, however it ended. -/
def replyOf : Ending Reply → Reply
  | .returned reply => reply
  | .refused fault => .fault fault
  | .panicked reason => .panicked reason
  | .exhausted => .exhausted

end Stage

end StreamControl.Rehearsal
