import Mathlib.Data.List.Nodup
import StreamControl.Proofs.Enduring
import StreamControl.Proofs.HookOrder
import StreamControl.Proofs.Marks

/-!
# Agreement of the tree and the graphs

Whether a filter is started is written down twice, in the tree and in the graph
of its stream, and so is which streams and filters there are.  As long as no
filter has panicked, the two agree after every operation (`Host.Agrees`,
`tree_agrees`).

Of the marks this is what `Host.Tidy` says about streams that run.  In streams
that do not run no filter is started (`FilterGraph.Rested`), also not in one that
is in nobody's hands, since only a stop that goes to its end brings a stream to
rest.
-/

set_option autoImplicit false

namespace StreamControl

/-! ## Streams at rest -/

namespace FilterGraph

variable {graph : FilterGraph}

/-- A stream that does not run has no started filter. -/
def Rested (graph : FilterGraph) : Prop :=
  graph.flow = .idle → ∀ node ∈ graph.nodes, node.state ≠ .started

theorem rested_of_running (running : graph.flow = .running) : graph.Rested := by
  intro idle
  rw [running] at idle
  cases idle

theorem buildable_rested : Host.Buildable Rested where
  empty _ _ member := nomatch member
  append name code nextAuto rested idle node member := by
    rcases List.mem_append.mp member with old | new
    · exact rested idle node old
    · rw [List.mem_singleton.mp new]
      exact nofun
  link _ rested := rested

/-- Stopping some filters leaves each of them stopped and every other one as it
was. -/
theorem getElem?_nodes_halted (graph : FilterGraph) (slots : List FilterSlot) (position : Nat) :
    (graph.halted slots).nodes[position]? = graph.nodes[position]?.map fun node =>
      if position ∈ slots.map (·.index) then { node with state := .stopped } else node := by
  induction slots generalizing graph with
  | nil => simp [halted]
  | cons slot rest ih =>
    rw [show graph.halted (slot :: rest) = (graph.setState slot.index .stopped).halted rest from rfl,
      ih, setState, List.getElem?_modify, Option.map_eq_map, Option.map_map]
    refine congrArg (fun change => graph.nodes[position]?.map change) (funext fun node => ?_)
    rw [Function.comp_apply, List.map_cons]
    by_cases here : position = slot.index <;> by_cases later : position ∈ rest.map (·.index) <;>
      simp [here, later, eq_comm (a := slot.index)]

/-- The started filters are those with a number of a filter to be stopped. -/
theorem mem_index_runningSlots {position : Nat} {node : FilterNode}
    (found : graph.nodes[position]? = some node) :
    position ∈ (Host.runningSlots graph).map (·.index) ↔ node.state = .started := by
  rw [List.mem_map]
  constructor
  · rintro ⟨slot, member, same⟩
    obtain ⟨among, started⟩ := List.mem_filter.mp member
    rw [slots_eq, List.mem_mapIdx] at among
    obtain ⟨index, present, rfl⟩ := among
    replace same : index = position := same
    subst same
    rw [List.getElem?_eq_getElem present, Option.some.injEq] at found
    subst found
    exact of_decide_eq_true started
  · intro started
    obtain ⟨present, rfl⟩ := List.getElem?_eq_some_iff.mp found
    have among : graph.slotOf position graph.nodes[position] ∈ graph.slots := by
      rw [slots_eq, List.mem_mapIdx]
      exact ⟨position, present, rfl⟩
    exact ⟨_, List.mem_filter.mpr ⟨among, decide_eq_true started⟩, rfl⟩

/-- A stop that goes to its end stops every started filter. -/
theorem nodes_halted_runningSlots (graph : FilterGraph) :
    (graph.halted (Host.runningSlots graph)).nodes = graph.nodes.map fun node =>
      if node.state = .started then { node with state := .stopped } else node := by
  refine List.ext_getElem? fun position => ?_
  rw [getElem?_nodes_halted, List.getElem?_map]
  cases found : graph.nodes[position]? with
  | none => rfl
  | some node => simp only [Option.map_some, mem_index_runningSlots found]

theorem rested_halted (graph : FilterGraph) :
    ((graph.halted (Host.runningSlots graph)).setFlow .idle).Rested := by
  intro _ node member
  replace member : node ∈ (graph.halted (Host.runningSlots graph)).nodes := member
  rw [nodes_halted_runningSlots] at member
  obtain ⟨old, _, rfl⟩ := List.mem_map.mp member
  by_cases started : old.state = .started <;> simp [started]

end FilterGraph

namespace Host

open StreamControl.Action Session

variable {σ : Type} {fresh : FilterGraph → Prop} {past past' : Past} {before after : Host σ}

/-- No filter of an attached stream that does not run is started. -/
def Resting (host : Host σ) : Prop :=
  ∀ stream graph, host.stream? stream = some graph → graph.Rested

theorem Resting.of_streams (resting : Resting before) (streams : after.streams = before.streams) :
    Resting after := by
  intro stream graph attached
  rw [Host.stream?, streams] at attached
  exact resting stream graph attached

theorem Resting.replace (resting : Resting before) {stream : StreamId}
    {graph? : Option FilterGraph}
    (streams : ∀ other, after.stream? other =
      if other = stream then graph? else before.stream? other)
    (rested : ∀ graph, graph? = some graph → graph.Rested) : Resting after := by
  intro other graph attached
  rw [streams] at attached
  split at attached
  · exact rested graph attached
  · exact resting other graph attached

/-- A turn of a host that is calm afterwards starts no filter of a stream that
does not run, if streams that come to be attached have none. -/
theorem Resting.turn (resting : Resting before) (sound : Sound past before)
    (turn : Turn FilterGraph.Rested past before past' after) (calm : after.Calm) :
    Resting after := by
  cases turn with
  | quiet _ turns => exact resting.of_streams (congrArg Outline.streams turns.shape)
  | aside shape => exact resting.of_streams (congrArg Outline.streams shape)
  | reject _ turns => exact resting.of_streams (congrArg Outline.streams turns.shape)
  | load loads => exact resting.of_streams (congrArg Outline.streams loads.turns.shape)
  | unload _ _ turns => exact resting.of_streams (congrArg Outline.streams turns.shape)
  | attach new _ _ numbers =>
    refine resting.replace numbers.stream?_attached fun graph same => ?_
    cases same
    exact new
  | unattach numbers _ streams =>
    exact resting.replace (sound.stream?_unattached numbers streams)
      fun graph impossible => nomatch impossible
  | detach _ _ detaches =>
    exact resting.replace detaches.stream? fun graph impossible => nomatch impossible
  | @start stream _ _ _ _ _ _ starts =>
    intro other graph attached
    rw [starts.stream?] at attached
    obtain ⟨old, found, rfl⟩ := Option.map_eq_some_iff.mp attached
    split
    · exact FilterGraph.rested_of_running rfl
    · exact resting other old found
  | breakStart _ _ breaks => exact absurd calm breaks.not_calm
  | @stop stream graph _ found _ stops =>
    intro other _ attached
    rw [stops.stream?] at attached
    obtain ⟨old, there, rfl⟩ := Option.map_eq_some_iff.mp attached
    split
    · rename_i here
      rw [here, found, Option.some.injEq] at there
      exact there ▸ graph.rested_halted
    · exact resting other old there
  | breakStop _ _ breaks => exact absurd calm breaks.not_calm

/-- As long as no filter has panicked, every stream that does not run is at rest,
whether it is attached or has been detached. -/
theorem History.resting {code : UserCode σ} {history : History σ}
    (reachable : history.Reachable code) (calm : history.host.Calm) :
    Resting history.host ∧ ∀ episode ∈ history.episodes, ∀ graph,
      episode.detached? = some graph → graph.Rested := by
  refine reachable.induction (motive := fun history => history.host.Calm →
    Resting history.host ∧ ∀ episode ∈ history.episodes, ∀ graph,
      episode.detached? = some graph → graph.Rested) ?_ ?_ calm
  · exact fun _ _ _ _ => ⟨(fun _ _ attached => nomatch attached), fun _ member => nomatch member⟩
  · intro history operation reachable ih permits ends calm
    have sound := History.sound reachable
    have before : history.host.Calm := (Leads.step operation .refl permits ends).calm calm
    obtain ⟨resting, detached⟩ := ih before
    have course := (History.follows reachable sound permits ends).course
    have kept : ∀ {past : Past} {after : Host σ},
        Course operation.Attaches history.past history.host past after → after.Calm →
          Sound past after ∧ Resting after := by
      intro past after course
      induction course with
      | refl => exact fun _ => ⟨sound, resting⟩
      | step _ turn ih =>
        intro calm
        obtain ⟨sound, resting⟩ := ih (turn.calm calm)
        refine ⟨sound.turn turn, resting.turn sound (turn.mono fun graph attaches => ?_) calm⟩
        exact (permits.loose graph attaches).of_buildable FilterGraph.buildable_rested detached
    refine ⟨(kept course calm).2, fun episode member graph gone => ?_⟩
    rcases List.mem_append.mp member with old | new
    · exact detached episode old graph gone
    · rw [List.mem_singleton.mp new] at gone
      obtain ⟨stream, attached, _⟩ := Episode.of_detached gone
      exact resting stream graph attached

/-! ## Which streams the tree knows -/

/-- The tree knows the attached streams, and unless a filter has panicked no others. -/
def Supplied (host : Host σ) : Prop :=
  ∀ stream, ((host.stream? stream).isSome = true → host.session.tree.Knows stream) ∧
    (host.Calm → host.session.tree.Knows stream → (host.stream? stream).isSome = true)

theorem Supplied.of_tree (supplied : Supplied before) (calm : after.Calm → before.Calm)
    (knows : ∀ stream, after.session.tree.Knows stream ↔ before.session.tree.Knows stream)
    (streams : ∀ stream, (after.stream? stream).isSome = (before.stream? stream).isSome) :
    Supplied after := by
  intro stream
  rw [knows, streams]
  exact ⟨(supplied stream).1, fun quiet => (supplied stream).2 (calm quiet)⟩

theorem Supplied.replace (supplied : Supplied before) (calm : after.Calm → before.Calm)
    {stream : StreamId} {graph? : Option FilterGraph}
    (tree : before.session.tree.KeptBut stream after.session.tree)
    (streams : ∀ other, after.stream? other =
      if other = stream then graph? else before.stream? other)
    (known : graph?.isSome = true → after.session.tree.Knows stream)
    (unknown : after.Calm → after.session.tree.Knows stream → graph?.isSome = true) :
    Supplied after := by
  intro other
  rw [streams]
  by_cases here : other = stream
  · rw [if_pos here, here]
    exact ⟨known, unknown⟩
  · rw [if_neg here, tree.knows other here]
    exact ⟨(supplied other).1, fun quiet => (supplied other).2 (calm quiet)⟩

/-- A turn makes the streams known that it attaches, and forgets those that it detaches
and, unless a filter panics, those that it fails to attach. -/
theorem Supplied.turn (supplied : Supplied before) (sound : Sound past before)
    (turn : Turn fresh past before past' after) : Supplied after := by
  have calm := turn.calm
  have turned {visits : List Visit} {outline : Outline} {between : Host σ}
      (turns : Turns visits outline between after)
      (tree : between.session.tree = before.session.tree)
      (streams : ∀ stream, (after.stream? stream).isSome = (before.stream? stream).isSome) :
      Supplied after :=
    supplied.of_tree calm (fun stream => by rw [turns.tree.knows, tree]) streams
  have quiet {visits : List Visit} {outline : Outline} {between : Host σ}
      (turns : Turns visits outline between after)
      (tree : between.session.tree = before.session.tree)
      (streams : outline.streams = before.streams) : Supplied after := by
    refine turned turns tree fun stream => ?_
    rw [Host.stream?, Host.stream?, ← streams]
    exact congrArg (fun outline : Outline => (outline.streams.find? stream).isSome) turns.shape
  have unattached {fact : Prop} (impossible : (none : Option FilterGraph).isSome = true) : fact :=
    absurd impossible Bool.false_ne_true
  cases turn with
  | quiet _ turns => exact quiet turns rfl rfl
  | aside shape _ _ _ tree =>
    refine supplied.of_tree calm (fun stream => by rw [tree]) fun stream => ?_
    exact congrArg (fun outline : Outline => (outline.streams.find? stream).isSome) shape
  | reject _ turns => exact quiet turns rfl rfl
  | load loads => exact quiet loads.turns rfl rfl
  | unload _ _ turns => exact quiet turns rfl rfl
  | attach _ _ _ numbers known =>
    exact supplied.replace calm numbers.tree numbers.stream?_attached (fun _ => known)
      fun _ _ => rfl
  | unattach numbers _ streams _ unknown =>
    exact supplied.replace calm numbers.tree (sound.stream?_unattached numbers streams) unattached
      fun quiet known => absurd known (unknown quiet)
  | detach _ _ detaches =>
    exact supplied.replace calm detaches.tree detaches.stream? unattached
      fun _ known => absurd known detaches.forgotten
  | start _ _ starts =>
    exact turned starts.turns rfl fun stream => by rw [starts.stream?, Option.isSome_map]
  | breakStart _ _ breaks =>
    obtain ⟨_, _, _, _, turns⟩ := breaks.turns
    obtain ⟨_, streams⟩ := breaks.stream?
    exact turned turns rfl fun stream => by rw [streams, Option.isSome_map]
  | stop _ _ stops =>
    obtain ⟨_, _, turns⟩ := stops.turns
    exact turned turns rfl fun stream => by rw [stops.stream?, Option.isSome_map]
  | breakStop _ _ breaks =>
    obtain ⟨_, _, _, _, turns⟩ := breaks.turns
    obtain ⟨_, streams⟩ := breaks.stream?
    exact turned turns rfl fun stream => by rw [streams, Option.isSome_map]

theorem History.supplied {code : UserCode σ} {history : History σ}
    (reachable : history.Reachable code) : Supplied history.host :=
  reachable.turn_induction (motive := fun _ host => Supplied host)
    (fun _ _ _ _ => ⟨nofun, nofun⟩) fun sound supplied => supplied.turn sound

/-- As long as no filter has panicked, the tree knows exactly the attached streams. -/
theorem History.stocked {code : UserCode σ} {history : History σ}
    (reachable : history.Reachable code) (calm : history.host.Calm) (stream : StreamId) :
    history.host.session.tree.Knows stream ↔ (history.host.stream? stream).isSome = true :=
  have supplied := History.supplied reachable stream
  ⟨supplied.2 calm, supplied.1⟩

/-! ## Agreement -/

/-- The tree and the graphs of the streams say the same. -/
structure Agrees (host : Host σ) : Prop where
  /-- The tree knows exactly the attached streams. -/
  streams : ∀ stream, host.session.tree.Knows stream ↔ (host.stream? stream).isSome = true
  /-- It knows exactly the filters of their graphs. -/
  filters : ∀ stream graph, host.stream? stream = some graph → ∀ filter,
    (∃ entry, host.session.tree.filterAt stream filter = .ok entry) ↔ filter ∈ graph.names
  /-- Asked whether a filter is started, it answers what the graph says. -/
  marks : ∀ stream graph, host.stream? stream = some graph → ∀ node ∈ graph.nodes,
    (·.started) <$> host.session.tree.filterAt stream node.name =
      .ok (decide (node.state = .started))
  /-- A filter is started only in a stream that runs. -/
  running : ∀ stream graph, host.stream? stream = some graph →
    ∀ node ∈ graph.nodes, node.state = .started → graph.flow = .running

/-- What the tree answers about a filter is its mark. -/
theorem started_filterAt_iff {tree : ParameterTree} {stream : StreamId} {filter : String}
    {started : Bool} :
    (·.started) <$> tree.filterAt stream filter = .ok started ↔
      tree.mark? stream filter = some started := by
  simp only [ParameterTree.filterAt, ParameterTree.filtersOf, ParameterTree.mark?]
  cases tree.streams.find? stream with
  | none => simp [bind, Except.bind, Functor.map, Except.map]
  | some filters =>
    cases found : filters.find? filter <;>
      simp [bind, Except.bind, Functor.map, Except.map, found]

/-- The names of the started filters are the names of the nodes that are. -/
theorem mem_names_runningSlots {graph : FilterGraph} {filter : String} :
    filter ∈ (runningSlots graph).map (·.name) ↔
      ∃ node ∈ graph.nodes, node.name = filter ∧ node.state = .started := by
  simp only [List.mem_map, runningSlots, List.mem_filter, FilterGraph.slots_eq, List.mem_mapIdx,
    decide_eq_true_eq]
  constructor
  · rintro ⟨_, ⟨⟨index, present, rfl⟩, started⟩, rfl⟩
    exact ⟨graph.nodes[index], List.getElem_mem present, rfl, started⟩
  · rintro ⟨node, member, rfl, started⟩
    obtain ⟨index, present, rfl⟩ := List.mem_iff_getElem.mp member
    exact ⟨_, ⟨⟨index, present, rfl⟩, started⟩, rfl⟩

/-- **The tree and the graphs agree** as long as no filter has panicked, and a
stream that fails to be attached leaves nothing in the tree. -/
theorem tree_agrees {code : UserCode σ} {history : History σ}
    (reachable : history.Reachable code) (calm : history.host.Calm) :
    history.host.Agrees ∧ ∀ graph fault,
      (addStream code graph history.host).1 = .refused fault →
        ¬ (addStream code graph history.host).2.session.tree.Knows ⟨history.host.nextStream⟩ := by
  have sound := History.sound reachable
  have tidy := History.tidy reachable calm
  have lively := History.lively reachable calm
  obtain ⟨resting, _⟩ := History.resting reachable calm
  have running {stream graph} (attached : history.host.stream? stream = some graph) :
      ∀ node ∈ graph.nodes, node.state = .started → graph.flow = .running := by
    intro node member started
    cases flow : graph.flow with
    | running => rfl
    | idle => exact absurd started (resting stream graph attached flow node member)
  refine ⟨⟨History.stocked reachable calm, ?_, ?_, fun stream graph attached => running attached⟩, ?_⟩
  · intro stream graph attached filter
    rw [← ParameterTree.mark?_isSome_iff]
    constructor
    · intro known
      obtain ⟨other, same, member⟩ := tidy.attached stream filter known
      rw [attached, Option.some.injEq] at same
      exact same ▸ member
    · exact fun member => sound.known stream graph attached filter member
  · intro stream graph attached node member
    have known := sound.known stream graph attached node.name (List.mem_map_of_mem member)
    have marked : history.host.outline.mark? stream node.name = some true ↔ node.state = .started := by
      rw [tidy.marked]
      constructor
      · rintro ⟨other, same, _, among⟩
        rw [attached, Option.some.injEq] at same
        subst same
        obtain ⟨twin, there, name, started⟩ := mem_names_runningSlots.mp among
        rwa [List.inj_on_of_nodup_map (lively.distinct stream graph attached) there member name]
          at started
      · intro started
        exact ⟨graph, attached, running attached node member started,
          mem_names_runningSlots.mpr ⟨node, member, rfl, started⟩⟩
    obtain ⟨mark, found⟩ := Option.isSome_iff_exists.mp known
    rw [found, Option.some.injEq] at marked
    rw [started_filterAt_iff]
    cases mark with
    | true => rw [decide_eq_true (marked.mp rfl)]; exact found
    | false => rw [decide_eq_false (mt marked.mpr Bool.false_ne_true)]; exact found
  · intro graph fault refused
    have meets := meets_addStream code graph history.host
    obtain ⟨stream, visits, unknown, numbers⟩ :=
      meets.of_refused (Prod.ext refused rfl)
    rw [← numbers.number]
    exact unknown

/-- User code of two filters: one refuses to start, the other to be constructed. -/
def fussyCode : UserCode Unit :=
  { idleCode with
    filter := fun reference function _ =>
      match function, reference with
      | .start, 1 => .done (.error (.unknownFilter "input"))
      | .construct, 2 => .done (.error (.unknownFilter "input"))
      | _, _ => .done (.ok ()) }

/-- A history in which one of two filters has started and the other has failed. -/
def fussyHistory : History Unit :=
  .after fussyCode { episodes := [], host := freshHost }
    [.addStream ((FilterGraph.empty.append "source" none).append "sink" (some 1)), .start ⟨1⟩]

theorem fussyHistory_reachable : fussyHistory.Reachable fussyCode := by
  refine ⟨_, _, _, create_freshHost, History.leads_after _
    ⟨⟨⟨?_, ?attach⟩, ?_⟩, ⟨⟨?_, nofun⟩, ?_⟩, trivial⟩⟩
  case attach =>
    intro graph same
    cases same
    exact (History.Loose.append .new rfl).append rfl
  all_goals decide +kernel

/-- The tree says of the one filter that it is started and of the other that it is
not, and it does not know the stream that is refused next. -/
theorem tree_agrees_fussy :
    fussyHistory.host.Calm ∧
      (∃ graph, fussyHistory.host.stream? ⟨1⟩ = some graph ∧
        graph.nodes.map (·.state) = [.started, .failed] ∧
        graph.nodes.map (fun node =>
          ((·.started) <$> fussyHistory.host.session.tree.filterAt ⟨1⟩ node.name).toOption) =
            [some true, some false]) ∧
      (addStream fussyCode (FilterGraph.empty.append "faulty" (some 2)) fussyHistory.host).1 =
        .refused (.unknownFilter "input") ∧
      ¬ (addStream fussyCode (FilterGraph.empty.append "faulty" (some 2))
        fussyHistory.host).2.session.tree.Knows ⟨2⟩ := by
  have calm : fussyHistory.host.Calm := by
    decide +kernel
  have states : (fussyHistory.host.stream? ⟨1⟩).map (·.nodes.map (·.state)) =
      some [.started, .failed] := by
    decide +kernel
  have refused : (addStream fussyCode (FilterGraph.empty.append "faulty" (some 2))
      fussyHistory.host).1 = .refused (.unknownFilter "input") := by
    decide +kernel
  obtain ⟨agrees, unknown⟩ := tree_agrees fussyHistory_reachable calm
  obtain ⟨graph, attached, states⟩ := Option.map_eq_some_iff.mp states
  refine ⟨calm, ⟨graph, attached, states, ?_⟩, refused, unknown _ _ refused⟩
  have answers : graph.nodes.map (fun node =>
      ((·.started) <$> fussyHistory.host.session.tree.filterAt ⟨1⟩ node.name).toOption) =
        (graph.nodes.map (·.state)).map fun state => some (decide (state = .started)) := by
    rw [List.map_map]
    exact List.map_congr_left fun node member => by
      rw [agrees.marks ⟨1⟩ graph attached node member]
      rfl
  rw [answers, states]
  rfl

end Host

end StreamControl
