import StreamControl.FilterGraph

/-!
# Building filter graphs

A bench holds several filter graphs and the numbers of the filters added to
any of them, in the order they were added.  A step names a filter by its
place in that list, so the number it stands for may come from another graph.
-/

set_option autoImplicit false

namespace StreamControl.Rehearsal

/-- Something done with a graph. -/
inductive GraphStep where
  /-- Adds a filter. -/
  | add (name : String)
  /-- Adds a filter under a generated name. -/
  | addAuto
  /-- Links two filters. -/
  | link (source sink : Nat)
  /-- Finds a filter by its name. -/
  | find (name : String)
  /-- Looks at a filter. -/
  | look (filter : Nat)
  /-- Looks at the graph. -/
  | info
  /-- Describes the graph. -/
  | describe

/-- What a step is answered with. -/
inductive GraphReply where
  /-- Done. -/
  | done
  /-- Refused. -/
  | fault (fault : Fault)
  /-- The number of a filter, if there is one. -/
  | index (index : Option Nat)
  /-- The number and the name of a new filter. -/
  | named (index : Nat) (name : Option String)
  /-- A filter, and how many links lead in and out of its number. -/
  | filter (node : Option FilterNode) (inputs outputs : Nat)
  /-- The graph. -/
  | graph (graph : FilterGraph)
  /-- A text. -/
  | text (content : String)

/-- Several graphs and the numbers of their filters. -/
structure GraphBench where
  /-- The graphs. -/
  graphs : List FilterGraph
  /-- The numbers of the filters, in the order they were added. -/
  filters : List Nat := []

/-- What is written down of a step: the answer, and the numbers of filters and
links afterwards. -/
structure GraphRecord where
  /-- The answer. -/
  reply : GraphReply
  /-- How many filters the graph has. -/
  filters : Nat
  /-- How many links the graph has. -/
  links : Nat

namespace GraphBench

/-- The number a step means. -/
def number (bench : GraphBench) (place : Nat) : Nat := bench.filters[place]?.getD 0

/-- Puts a changed graph back, with a new filter's number if there is one. -/
def put (bench : GraphBench) (place : Nat) (graph : FilterGraph) (added : Option Nat) :
    GraphBench :=
  { graphs := bench.graphs.set place graph, filters := bench.filters ++ added.toList }

/-- Does a step with one of the graphs. -/
def perform (bench : GraphBench) (place : Nat) (graph : FilterGraph) :
    GraphStep → GraphReply × GraphBench
  | .add name =>
    match graph.add name none with
    | .ok (index, changed) => (.index (some index), bench.put place changed (some index))
    | .error fault => (.fault fault, bench)
  | .addAuto =>
    let (index, changed) := graph.addAuto none
    (.named index ((changed.slot? index).map (·.name)), bench.put place changed (some index))
  | .link source sink =>
    match graph.link (bench.number source) (bench.number sink) with
    | .ok changed => (.done, bench.put place changed none)
    | .error problem => (.fault problem.toFault, bench)
  | .find name => (.index (graph.find? name), bench)
  | .look filter =>
    let index := bench.number filter
    (.filter graph.nodes[index]? (graph.inputs index) (graph.outputs index), bench)
  | .info => (.graph graph, bench)
  | .describe => (.text graph.describe, bench)

/-- Does a step and writes it down. -/
def record (bench : GraphBench) (place : Nat) (step : GraphStep) : GraphRecord × GraphBench :=
  let (reply, after) := bench.perform place (bench.graphs[place]?.getD .empty) step
  let graph := after.graphs[place]?.getD .empty
  ({ reply, filters := graph.nodes.length, links := graph.links.length }, after)

/-- Does steps in order and writes them down. -/
def recordAll (bench : GraphBench) : List (Nat × GraphStep) → List GraphRecord
  | [] => []
  | (place, step) :: rest =>
    let (first, after) := bench.record place step
    first :: after.recordAll rest

end GraphBench

/-- Builds graphs. -/
def buildGraphs (count : Nat) (steps : List (Nat × GraphStep)) : List GraphRecord :=
  GraphBench.recordAll { graphs := List.replicate count .empty } steps

end StreamControl.Rehearsal
