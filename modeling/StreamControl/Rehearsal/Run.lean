import StreamControl.Rehearsal.Stage

/-!
# Rehearsals

A rehearsal does its steps in order and writes down, for each, the answer,
what the scripts did, the events that were sent, the state of the host and
the messages it wrote.  At the end the host is dropped, if it was not, and
the counters are read off.
-/

set_option autoImplicit false

namespace StreamControl.Rehearsal

/-- The state of a host, as a rehearsal writes it down. -/
structure Snapshot where
  /-- How many queries wait. -/
  pending : Nat
  /-- What came of handing values to callbacks. -/
  tally : Tally
  /-- Every controller with its phase, and its phase with each attached stream
  it has seen start. -/
  controllers : List (String × Phase × List (StreamId × Phase))
  /-- Every attached stream, and each of its filters with its state and whether
  the parameter tree has it as started. -/
  streams : List (StreamId × Flow × List (String × FilterState × Option Bool))
  deriving Inhabited

/-- What is written down of a step. -/
structure Record where
  /-- The answer. -/
  reply : Reply
  /-- What the scripts did. -/
  log : List LogLine
  /-- The events that were sent, if they are read. -/
  events : List Event
  /-- The state of the host afterwards, if there is one. -/
  snapshot : Option Snapshot
  /-- The messages and spans. -/
  lines : List Line
  deriving Inhabited

/-- How a rehearsal begins. -/
structure Setup where
  /-- How the host is set up. -/
  config : Config := {}
  /-- The callbacks, by reference, with their names. -/
  callbacks : List (String × List Rule) := []
  /-- Whether events are read after every step. -/
  readsEvents : Bool := true

/-- What is written down of a rehearsal. -/
structure Transcript where
  /-- The steps. -/
  steps : List Record
  /-- The end. -/
  final : Record
  /-- The counters: the metric, its two labels, and the count. -/
  totals : List (Metric × String × String × Nat)
  deriving Inhabited

namespace Stage

/-- The stage at the beginning; the reader of events, if there is one. -/
def begin (setup : Setup) : Except CapacityProblem (Stage × Option ReaderId) := do
  let memory : Memory :=
    { callbacks := setup.callbacks.map fun entry => (entry.1, { rules := entry.2 }) }
  let host ← Host.create setup.config memory
  if setup.readsEvents then
    let (reader, channel) := host.session.channel.subscribe
    return ({ host := { host with session := { host.session with channel } } }, some reader)
  else return ({ host }, none)

/-- The state of a host. -/
def snapshot (host : Host Memory) : Snapshot where
  pending := host.pendingQueries
  tally := host.session.tally
  controllers := host.controllers.map fun controller =>
    (controller.name, controller.phase,
      host.streams.keys.filterMap fun stream =>
        (controller.streamPhases.find? stream).map (stream, ·))
  streams := host.streams.entries.map fun (stream, graph) =>
    (stream, graph.flow, graph.nodes.map fun node =>
      (node.name, node.state,
        ((host.session.tree.filterAt stream node.name).toOption).map (·.started)))

/-- The events sent since they were last read. -/
def readEvents (stage : Stage) : Option ReaderId → List Event × Stage
  | none => ([], stage)
  | some reader =>
    let (events, channel) := stage.host.session.channel.drain reader
    (events, { stage with
      host := { stage.host with session := { stage.host.session with channel } } })

/-- What the scripts have done since it was last taken. -/
def takeLog (stage : Stage) : List LogLine × Stage :=
  let session := stage.host.session
  (session.memory.log.toList,
    { stage with
      host := { stage.host with
        session := { session with memory := { session.memory with log := #[] } } } })

/-- Does a step and writes it down. -/
def record (reader : Option ReaderId) (step : Step) (stage : Stage) : Record × Stage :=
  let start := stage.host.session.journal.size
  let (ending, stage) := perform step stage
  let lines := Journal.linesFrom stage.host.session.journal start
  let (log, stage) := stage.takeLog
  let (events, stage) := stage.readEvents reader
  let snapshot := if stage.isDropped then none else some (snapshot stage.host)
  ({ reply := replyOf ending, log, events, snapshot, lines }, stage)

/-- Does steps in order and writes them down. -/
def recordAll (reader : Option ReaderId) : List Step → Stage → List Record × Stage
  | [], stage => ([], stage)
  | step :: rest, stage =>
    let (first, stage) := record reader step stage
    let (others, stage) := recordAll reader rest stage
    (first :: others, stage)

end Stage

/-- Does a rehearsal, if there can be a host as it is set up. -/
def rehearse (setup : Setup) (steps : List Step) : Except CapacityProblem Transcript := do
  let (stage, reader) ← Stage.begin setup
  let (records, stage) := Stage.recordAll reader steps stage
  let (final, stage) := Stage.record reader .dropHost stage
  return { steps := records, final, totals := Journal.totals stage.host.session.journal }

end StreamControl.Rehearsal
