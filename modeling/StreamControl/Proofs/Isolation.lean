import StreamControl.Proofs.Agreement
import StreamControl.Proofs.Fences
import StreamControl.Proofs.Waiting

/-!
# Streams do not affect one another

All streams of a host share its controllers, its parameter tree and its queue.  Still a
stream that is started, stopped or detached leaves the others as they are, as long as the
user code that runs meanwhile asks nothing about them (`stream_isolation`).  Such a call
comes to the same if the user code is fenced.

The graphs of the other streams, and the phases of the controllers with them, are not
touched by the host (`meets_elsewhere`).  What the session has of them survives every
small change that the call involves, the drain of the queue among them (`survives_apart`).
-/

set_option autoImplicit false

namespace StreamControl.Host

open StreamControl.Action Session

variable {σ : Type} {code : UserCode σ} {host before after : Host σ} {stream home : StreamId}

/-- Whether an operation is to start, stop or detach a stream. -/
def Operation.IsOn (stream : StreamId) : Operation σ → Prop
  | start started => started = stream
  | stop stopped => stopped = stream
  | removeStream removed => removed = stream
  | _ => False

/-! ## Graphs and phases -/

/-- The controllers in load order, with their phases with a stream. -/
def phasesWith (host : Host σ) (stream : StreamId) : List (String × Option Phase) :=
  host.controllers.map fun controller => (controller.name, controller.streamPhases.find? stream)

/-- The other streams are what they were, and every controller is in the phase with them
that it was in. -/
structure Elsewhere (stream : StreamId) (before after : Host σ) : Prop where
  /-- The streams. -/
  streams : ∀ other, other ≠ stream → after.stream? other = before.stream? other
  /-- The phases. -/
  phases : ∀ other, other ≠ stream → after.phasesWith other = before.phasesWith other

theorem Elsewhere.of_outline (shape : after.outline = before.outline) :
    Elsewhere stream before after where
  streams other _ := congrArg (fun outline => outline.streams.find? other) shape
  phases other _ := congrArg (fun outline => outline.controllers.map fun controller =>
    (controller.name, controller.streamPhases.find? other)) shape

/-- Some controllers take a step with the stream, and its graph changes. -/
theorem Elsewhere.of_step {serials : List Nat} {target : Phase} {change : FilterGraph → FilterGraph}
    (controllers : after.controllers =
      (before.outline.step serials (some stream) target).controllers)
    (streams : ∀ other, after.stream? other = (before.stream? other).map fun graph =>
      if other = stream then change graph else graph) : Elsewhere stream before after where
  streams other away := by simp only [streams, if_neg away, Option.map_id']
  phases other away := by
    rw [phasesWith, controllers, Outline.step, List.map_map]
    refine List.map_congr_left fun controller _ => ?_
    rw [Function.comp_apply]
    split
    · rw [LoadedController.find?_moved, if_neg away]
      rfl
    · rfl

/-- A call about one stream leaves the graphs of the others, and the phases with them. -/
theorem meets_elsewhere (code : UserCode σ) {past : Past} (sound : Sound past host)
    {operation : Operation σ} (on : operation.IsOn stream) :
    (operation.perform code).Meets host (fun _ => Elsewhere stream host)
      (fun _ => Elsewhere stream host) (fun _ => Elsewhere stream host) := by
  cases operation with
  | start started =>
    obtain rfl : started = stream := on
    refine (meets_start code started sound.nodup (sound.knowsSlots started)
      (sound.decided started)).mono ?_ ?_ ?_
    · rintro report after ⟨graph, results, _, _, starts⟩
      exact .of_step starts.controllers starts.stream?
    · exact fun _ after turns => .of_outline turns.shape
    · rintro reason after ⟨graph, _, _, breaks⟩
      obtain ⟨results, streams⟩ := breaks.stream?
      exact .of_step breaks.controllers streams
  | stop stopped =>
    obtain rfl : stopped = stream := on
    refine (meets_stop code stopped sound.nodup (sound.knowsSlots stopped)).mono ?_ ?_ ?_
    · rintro report after ⟨graph, _, _, stops⟩
      exact .of_step stops.controllers stops.stream?
    · rintro fault after ⟨rfl, _⟩
      exact .of_outline rfl
    · rintro reason after ⟨graph, _, _, breaks⟩
      obtain ⟨slots, streams⟩ := breaks.stream?
      exact .of_step breaks.controllers streams
  | removeStream removed =>
    obtain rfl : removed = stream := on
    refine (meets_removeStream code removed host).mono ?_ ?_ fun _ _ impossible => impossible.elim
    · rintro graph after ⟨_, _, detaches⟩
      have controllers : after.controllers = host.controllers :=
        congrArg Outline.controllers detaches.shape
      exact ⟨fun other away => by rw [detaches.stream?, if_neg away],
        fun other _ => by rw [phasesWith, phasesWith, controllers]⟩
    · rintro fault after rfl
      exact .of_outline rfl
  | _ => exact on.elim

/-! ## Sessions -/

/-- Whether a change concerns no other stream than one. -/
def Deed.IsOn (stream : StreamId) : Deed → Prop
  | mark other _ | settle other | announce other | forget other => other = stream
  | stir | note _ | run | drain => True
  | _ => False

theorem Operation.IsOn.of_involves {operation : Operation σ} (on : operation.IsOn stream)
    {deed : Deed} (involved : operation.Involves host deed) : deed.IsOn stream := by
  cases operation with
  | start started =>
    obtain rfl : started = stream := on
    cases deed with
    | mark other marks => cases marks <;> first | exact involved | exact involved.elim
    | _ => first | exact trivial | exact involved.elim
  | stop stopped =>
    obtain rfl : stopped = stream := on
    cases deed with
    | mark other marks => cases marks <;> first | exact involved | exact involved.elim
    | _ => first | exact trivial | exact involved | exact involved.elim
  | removeStream removed =>
    obtain rfl : removed = stream := on
    cases deed with
    | mark other marks => cases marks <;> exact involved.elim
    | _ => first | exact trivial | exact involved | exact involved.elim
  | _ => exact on.elim

/-- **What a session has of another stream survives** whatever is done about one stream, if
user code stays on it. -/
theorem survives_apart {origin : Session σ} (within : code.Within home) (away : stream ≠ home)
    (idle : origin.Idles stream) {deed : Deed} (on : deed.IsOn home) :
    Survives code (fun host => Apart stream origin (origin.waitingFor stream) host.session) deed := by
  intro before after does apart
  cases does with
  | stir before after session =>
    rw [session]
    exact apart
  | write _ ofHost => exact Apart.note apart (Entry.servedStream?_of_isOfHost ofHost)
  | send => exact { apart with }
  | fail =>
    exact failing_of (P := Apart stream origin (origin.waitingFor stream))
      (fun _ _ apart => { apart with }) (fun _ _ _ _ apart => apart.note rfl)
      (fun _ _ _ apart => apart.note rfl) (fun _ apart => apart.note rfl) apart
  | run _ program offered ends =>
    exact (Apart.keeps_run within away (within.offers offered)).of_ne_exhausted apart ends
  | drain _ ends =>
    have drained := Apart.meets_drain (fun _ => Apart.keeps_callback within away) idle apart
    exact (drained.mono (fun _ _ apart => apart) (fun _ _ impossible => impossible.elim)
      fun _ _ impossible => impossible.elim).of_ne_exhausted ends
  | mark _ marked =>
    exact Apart.plant apart (ParameterTree.sameBut_setStarted marked) (on ▸ away)
  | settle => exact Apart.plant apart (ParameterTree.sameBut_dropUnkept _ _) (on ▸ away)
  | forget => exact Apart.plant apart (ParameterTree.sameBut_removeStream _ _) (on ▸ away)
  | announce => exact Apart.note apart rfl
  | _ => exact on.elim

/-! ## Histories -/

variable {history : History σ}

/-- As long as no filter has panicked, the queries for an attached stream in the queue have
their parameters, and their filters are not started. -/
theorem History.idles (reachable : history.Reachable code) (calm : history.host.Calm)
    (attached : (history.host.stream? stream).isSome = true) :
    history.host.session.Idles stream := by
  intro item member
  obtain ⟨waits, here⟩ := List.mem_filter.mp member
  replace here : item.2.stream = stream := of_decide_eq_true here
  have ledger := History.ledger reachable
  have known : history.host.session.tree.Knows item.2.stream :=
    (History.supplied reachable item.2.stream).1 (here ▸ attached)
  obtain ⟨⟨entry, parameter⟩, located⟩ := ledger.has item (ledger.pending item waits).1 known
  refine ⟨entry, parameter, located, fun started => ?_⟩
  have marked := ParameterTree.mark?_of_locate located
  rw [started] at marked
  exact ((History.tended reachable calm).1 item waits).unmarked marked

/-- Every session has of a stream what it has. -/
theorem History.apart (reachable : history.Reachable code) (stream : StreamId) :
    Apart stream history.host.session (history.host.session.waitingFor stream)
      history.host.session := by
  have ledger := History.ledger reachable
  have pending : ∀ ticket ∈ history.host.session.ticketsFor stream, ∃ query,
      (ticket, query) ∈ history.host.session.waiting ∧ query.stream = stream := by
    intro ticket member
    obtain ⟨⟨_, query⟩, listed, rfl⟩ := List.mem_map.mp member
    exact ⟨query, (List.mem_filter.mp listed).1, of_decide_eq_true (List.mem_filter.mp listed).2⟩
  refine { branch := rfl, waiting := rfl, others := ?_, unclaimed := ?_, early := ?_,
           silent := ⟨[], (List.append_nil _).symm, fun _ member => (List.not_mem_nil member).elim⟩ }
  · intro item waits away member
    obtain ⟨query, listed, here⟩ := pending item.1 member
    have same := ledger.eq_of_ticket (ledger.pending item waits).1 (ledger.pending _ listed).1 rfl
    exact away (same ▸ here)
  · intro ticket member
    obtain ⟨query, listed, _⟩ := pending ticket member
    exact (ledger.pending _ listed).2.2
  · intro ticket member
    obtain ⟨query, listed, _⟩ := pending ticket member
    have accepted := List.mem_map_of_mem (f := (·.1)) (ledger.pending _ listed).1
    rwa [ledger.tickets, List.mem_range] at accepted

/-- Nothing about a stream has changed, and none of its callbacks has been called. -/
structure Untouched (stream : StreamId) (before after : Host σ) : Prop where
  /-- Its state, and those of its filters. -/
  graph : after.stream? stream = before.stream? stream
  /-- What the tree has of it: the marks of its filters, and their parameters with values
  and subscriptions. -/
  filters : after.session.tree.streams.find? stream = before.session.tree.streams.find? stream
  /-- The phases of the controllers with it. -/
  phases : after.phasesWith stream = before.phasesWith stream
  /-- The queries for it in the queue, in order. -/
  waiting : after.session.waitingFor stream = before.session.waitingFor stream
  /-- Of what has been written, nothing shows a callback that is handed a value of a parameter
  of the stream. -/
  silent : ∃ entries, after.session.journal.toList = before.session.journal.toList ++ entries ∧
    ∀ cause callback delivery, .entered (.callback cause callback delivery) ∈ entries →
      delivery.stream ≠ stream

/-- **Streams are isolated.**  As long as no filter has panicked, starting, stopping or
detaching a stream, however it ends, touches no other attached stream, provided that the
user code that runs meanwhile asks nothing about other streams: a fence makes no
difference. -/
theorem stream_isolation (reachable : history.Reachable code) (calm : history.host.Calm)
    {operation : Operation σ} (on : operation.IsOn home)
    (within : operation.perform (code.fenced home) history.host =
      operation.perform code history.host)
    (ends : (operation.perform code history.host).1 ≠ .exhausted) (away : stream ≠ home)
    (attached : (history.host.stream? stream).isSome = true) :
    Untouched stream history.host (operation.perform code history.host).2 := by
  have elsewhere : Elsewhere home history.host (operation.perform code history.host).2 :=
    (meets_elsewhere code (History.sound reachable) on).of_ne_exhausted ends
  have apart : Apart stream history.host.session (history.host.session.waitingFor stream)
      (operation.perform (code.fenced home) history.host).2.session :=
    Episode.survives (fun deed involved => survives_apart (UserCode.within_fenced home code) away
      (History.idles reachable calm attached) (on.of_involves involved))
      (History.apart reachable stream) (within ▸ ends)
  rw [within] at apart
  obtain ⟨entries, written, silent⟩ := apart.silent
  exact
    { graph := elsewhere.streams stream away
      filters := apart.branch
      phases := elsewhere.phases stream away
      waiting := apart.waiting
      silent := ⟨entries, written, fun _ _ _ member here =>
        silent _ member (congrArg some here)⟩ }

/-- User code whose filters make a parameter when they are constructed, subscribe to it and
ask for it, and push a value of it when they are started. -/
def neighbourCode : UserCode Unit :=
  { idleCode with
    filter := fun _ function context =>
      match function with
      | .construct => .ask (.create context "gain" .bool (.bool true) none) fun _ =>
          .ask (.subscribe context.stream context.filter none .any { code := 0 } {} {}) fun _ =>
            .ask (.query (gainQuery context.stream)) fun _ => .done (.ok ())
      | .start => .ask (.push context "gain" (.bool false)) fun _ => .done (.ok ())
      | _ => .done (.ok ()) }

/-- A history in which two streams are attached, and a query waits for each. -/
def neighbourHistory : History Unit :=
  .after neighbourCode { episodes := [], host := freshHost }
    [.addStream (FilterGraph.empty.append "source" (some 0)),
      .addStream (FilterGraph.empty.append "source" (some 0))]

theorem neighbourHistory_reachable : neighbourHistory.Reachable neighbourCode := by
  refine ⟨_, _, _, create_freshHost, History.leads_after _
    ⟨⟨⟨?_, ?attach⟩, ?_⟩, ⟨⟨?_, ?attach'⟩, ?_⟩, trivial⟩⟩
  case attach | attach' =>
    intro graph same
    cases same
    exact .add .new rfl
  all_goals decide +kernel

/-- Its host, once the first stream has been started. -/
def neighbourStarted : Host Unit :=
  ((Operation.start ⟨1⟩).perform neighbourCode neighbourHistory.host).2

/-- The first stream is started, and its callback is called for a value that its filter
pushes and then for its query.  That of the second goes on waiting. -/
theorem stream_isolation_neighbour :
    Untouched ⟨2⟩ neighbourHistory.host neighbourStarted ∧
      neighbourHistory.host.session.waiting = [(0, gainQuery ⟨1⟩), (1, gainQuery ⟨2⟩)] ∧
        neighbourStarted.session.waiting = [(1, gainQuery ⟨2⟩)] ∧
          neighbourStarted.session.tally = { invoked := 2 } := by
  have calm : neighbourHistory.host.Calm := by
    decide +kernel
  have attached : (neighbourHistory.host.stream? ⟨2⟩).isSome = true := by
    decide +kernel
  have on : (Operation.start ⟨1⟩ : Operation Unit).IsOn ⟨1⟩ := rfl
  have within : (Operation.start ⟨1⟩).perform (neighbourCode.fenced ⟨1⟩) neighbourHistory.host =
      (Operation.start ⟨1⟩).perform neighbourCode neighbourHistory.host := rfl
  have ends : ((Operation.start ⟨1⟩).perform neighbourCode neighbourHistory.host).1 ≠ .exhausted := by
    decide +kernel
  refine ⟨stream_isolation neighbourHistory_reachable calm on within ends (by decide) attached,
    ?_, ?_, ?_⟩ <;> decide +kernel

end StreamControl.Host
