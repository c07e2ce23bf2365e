import StreamControl.CodeRef
import StreamControl.Fault

/-!
# Filter graphs

The filters of a stream, linked output to input.  Filters are numbered from
zero in the order they were added and have distinct names; several links may
join the same two filters, and no chain of links leads back to where it
began.

`FilterGraph.link` keeps the last rule by asking, before it links `source`
to `sink`, whether `source` can already be reached from `sink`.  The answer
is computed by `FilterGraph.spread`, which follows links outward from a set
of filters and drops every link it has followed, so it stops after at most
as many rounds as there are links.
-/

set_option autoImplicit false

namespace StreamControl

/-! ## States -/

/-- What a filter is doing. -/
inductive FilterState where
  /-- Never started, or held back at the last start. -/
  | idle
  /-- Started. -/
  | started
  /-- Stopped after having been started. -/
  | stopped
  /-- Its start failed. -/
  | failed
  deriving DecidableEq, Repr, Inhabited

/-- The name of a filter state. -/
def FilterState.name : FilterState → String
  | .idle => "Idle"
  | .started => "Started"
  | .stopped => "Stopped"
  | .failed => "Failed"

/-- Whether a stream runs. -/
inductive Flow where
  /-- Not started, or stopped. -/
  | idle
  /-- Started and not yet stopped. -/
  | running
  deriving DecidableEq, Repr, Inhabited

/-- The name of a flow state. -/
def Flow.name : Flow → String
  | .idle => "Idle"
  | .running => "Running"

/-! ## Graphs -/

/-- A filter of a graph. -/
structure FilterNode where
  /-- The filter's name within its stream. -/
  name : String
  /-- The code of its construct, start and stop functions; a filter without
  code does nothing in all three. -/
  code : Option CodeRef
  /-- What the filter is doing. -/
  state : FilterState := .idle
  deriving DecidableEq, Inhabited

/-- A link from the output of one filter to the input of another, by the
filters' numbers. -/
structure Link where
  /-- The filter whose output is linked. -/
  source : Nat
  /-- The filter whose input is linked. -/
  sink : Nat
  deriving DecidableEq, Repr, Inhabited

/-- A filter with its place in the graph, as seen by those who visit it. -/
structure FilterSlot where
  /-- The filter's number. -/
  index : Nat
  /-- The filter's name. -/
  name : String
  /-- The code of its functions. -/
  code : Option CodeRef
  /-- What the filter is doing. -/
  state : FilterState
  /-- How many links lead in. -/
  inputs : Nat
  /-- How many links lead out. -/
  outputs : Nat
  deriving DecidableEq, Inhabited

/-- The filters of a stream and the links between them. -/
structure FilterGraph where
  /-- The filters, by number. -/
  nodes : List FilterNode := []
  /-- The links, in the order they were made. -/
  links : List Link := []
  /-- Whether the stream runs. -/
  flow : Flow := .idle
  /-- Where the search for a generated name begins. -/
  nextAuto : Nat := 0
  deriving DecidableEq, Inhabited

/-- Why two filters cannot be linked. -/
inductive LinkProblem where
  /-- The source is no filter of the graph. -/
  | noSource
  /-- The sink is no filter of the graph. -/
  | noSink
  /-- A chain of links already leads from the sink to the source. -/
  | cycle
  deriving DecidableEq, Repr

/-- The refusal a link problem is reported as. -/
def LinkProblem.toFault : LinkProblem → Fault
  | .noSource => .invalidLink "source filter not found"
  | .noSink => .invalidLink "sink filter not found"
  | .cycle => .invalidLink "linking would create a cycle"

namespace FilterGraph

/-- A graph with no filters. -/
def empty : FilterGraph := {}

/-! ## Looking -/

/-- The number of the filter with a name. -/
def find? (graph : FilterGraph) (name : String) : Option Nat :=
  graph.nodes.findIdx? (·.name = name)

/-- How many links lead into a filter. -/
def inputs (graph : FilterGraph) (index : Nat) : Nat :=
  graph.links.countP (·.sink = index)

/-- How many links lead out of a filter. -/
def outputs (graph : FilterGraph) (index : Nat) : Nat :=
  graph.links.countP (·.source = index)

/-- The filter with a number, in its place. -/
def slot? (graph : FilterGraph) (index : Nat) : Option FilterSlot :=
  graph.nodes[index]?.map fun node =>
    { index, name := node.name, code := node.code, state := node.state,
      inputs := graph.inputs index, outputs := graph.outputs index }

/-- Every filter in its place, in the order they were added. -/
def slots (graph : FilterGraph) : List FilterSlot :=
  (List.range graph.nodes.length).filterMap graph.slot?

theorem map_name_filterMap_slot? (graph : FilterGraph) (count : Nat) :
    ((List.range count).filterMap graph.slot?).map (·.name) =
      (graph.nodes.take count).map (·.name) := by
  induction count with
  | zero => rfl
  | succ count ih =>
    rw [List.range_succ, List.filterMap_append, List.map_append, ih, List.take_add_one,
      List.map_append]
    cases h : graph.nodes[count]? <;> simp [slot?, h]

/-- Every filter is visited once, in the order they were added. -/
theorem map_name_slots (graph : FilterGraph) :
    graph.slots.map (·.name) = graph.nodes.map (·.name) := by
  rw [slots, map_name_filterMap_slot?, List.take_length]

/-- The filters that no link leads into. -/
def sources (graph : FilterGraph) : List FilterSlot :=
  graph.slots.filter (·.inputs = 0)

/-- The filters that no link leads out of. -/
def sinks (graph : FilterGraph) : List FilterSlot :=
  graph.slots.filter (·.outputs = 0)

/-- What a description of a larger thing shows of a graph. -/
def describe (graph : FilterGraph) : String :=
  "Stream \x7b filters: " ++ toString graph.nodes.length ++ ", links: " ++
    toString graph.links.length ++ ", state: " ++ graph.flow.name ++ " \x7d"

/-! ## Adding filters -/

/-- Adds a filter whose name is known to be free. -/
def append (graph : FilterGraph) (name : String) (code : Option CodeRef) : FilterGraph :=
  { graph with nodes := graph.nodes ++ [{ name, code }] }

/-- Adds a filter under a name of the caller's choice and gives its number. -/
def add (graph : FilterGraph) (name : String) (code : Option CodeRef) :
    Except Fault (Nat × FilterGraph) :=
  if (graph.find? name).isSome then .error (.duplicateFilter name)
  else .ok (graph.nodes.length, graph.append name code)

/-- The generated name with a number. -/
def autoName (number : Nat) : String := "filter_" ++ toString number

/-- The first number, from `start` on, whose generated name is free, trying
at most `tries` taken ones. -/
def firstFree (graph : FilterGraph) : Nat → Nat → Nat
  | 0, start => start
  | tries + 1, start =>
    if (graph.find? (autoName start)).isSome then graph.firstFree tries (start + 1) else start

/-- Adds a filter under a generated name and gives its number.  Only as many
generated names can be taken as there are filters, so the search succeeds. -/
def addAuto (graph : FilterGraph) (code : Option CodeRef) : Nat × FilterGraph :=
  let number := graph.firstFree graph.nodes.length graph.nextAuto
  (graph.nodes.length, { graph.append (autoName number) code with nextAuto := number + 1 })

/-! ## Linking filters -/

/-- The filters reached from `found` by following links, in at most `rounds`
rounds; a link that has been followed is not looked at again. -/
def spread : Nat → List Nat → List Link → List Nat
  | 0, found, _ => found
  | rounds + 1, found, links =>
    let followed := links.filter fun link => link.source ∈ found
    if followed.isEmpty then found
    else spread rounds (found ++ followed.map (·.sink))
      (links.filter fun link => link.source ∉ found)

/-- Whether a chain of links, possibly empty, leads from one filter to
another. -/
def reaches (graph : FilterGraph) (origin target : Nat) : Bool :=
  target ∈ spread graph.links.length [origin] graph.links

/-- Links the output of `source` to the input of `sink`. -/
def link (graph : FilterGraph) (source sink : Nat) : Except LinkProblem FilterGraph :=
  if graph.nodes.length ≤ source then .error .noSource
  else if graph.nodes.length ≤ sink then .error .noSink
  else if graph.reaches sink source then .error .cycle
  else .ok { graph with links := graph.links ++ [{ source, sink }] }

/-! ## Running -/

/-- Changes what a filter is doing. -/
def setState (graph : FilterGraph) (index : Nat) (state : FilterState) : FilterGraph :=
  { graph with nodes := graph.nodes.modify index fun node => { node with state } }

/-- Changes whether the stream runs. -/
def setFlow (graph : FilterGraph) (flow : Flow) : FilterGraph := { graph with flow }

end FilterGraph

end StreamControl
