import StreamControl.Proofs.Agreement
import StreamControl.Proofs.Leaving
import StreamControl.Proofs.QueryFates
import StreamControl.Proofs.Retelling
import StreamControl.Proofs.Views

/-!
# The first shutdown

A shutdown only notes what is refused to it and goes on.  The first one has nothing to
note, as long as no filter has panicked (`first_shutdown`): each running stream is stopped
in the order of the numbers, and since then no controller is inside a cycle, each
controller is unloaded in reverse load order.  That every call returned is said by
`Action.Each`; that nothing else was stopped or destroyed, and in which order it was, is
read off the journal (`Host.farewells`).

What hooks and callbacks do meanwhile makes no difference.  The queries that they make
wait like all others and are dropped in the end.
-/

set_option autoImplicit false

namespace StreamControl

/-- One after another, an action returns for each of some items. -/
inductive Action.Each {ι σ α : Type} (action : ι → Action σ α) : List ι → σ → σ → Prop where
  /-- For no item. -/
  | nil (state : σ) : Each action [] state state
  /-- For one more item. -/
  | cons {item : ι} {rest : List ι} {state between final : σ} (value : α)
      (returns : action item state = (.returned value, between))
      (others : Each action rest between final) : Each action (item :: rest) state final

/-- Something that comes to its end. -/
inductive Farewell where
  /-- A stream has stopped. -/
  | stopped (stream : StreamId)
  /-- The controller with a serial number has taken its last step. -/
  | destroyed (controller : Nat)
  deriving DecidableEq

/-- What an entry shows to have come to its end. -/
def Entry.farewell? : Entry → Option Farewell
  | .sent (.streamStopped stream) => some (.stopped stream)
  | .advanced controller none _ .destroyed => some (.destroyed controller)
  | _ => none

theorem omits_farewell : OmitsCycles Entry.farewell? where
  inner entry inner := by
    cases entry with
    | sent event => cases event <;> first | rfl | cases inner
    | advanced => cases inner
    | _ => rfl
  ofHost entry ofHost := by
    cases entry with
    | sent event => cases event <;> first | rfl | cases ofHost
    | advanced _ stream? => cases stream? <;> first | rfl | cases ofHost
    | _ => rfl
  failure event failure := by cases event <;> first | rfl | cases failure
  counted _ _ _ := rfl
  joins _ := rfl

namespace Host

open StreamControl.Action Session

variable {σ : Type} {past : Past} {host before after : Host σ} {code : UserCode σ}

/-- What has come to its end, in order. -/
def farewells (host : Host σ) : List Farewell := host.session.journal.view Entry.farewell?

/-! ## Stopping the streams -/

/-- A stop that returns ends with the announcement. -/
theorem yields_stop_farewell (code : UserCode σ) (stream : StreamId) (host : Host σ) :
    (stop code stream).Yields host fun _ after =>
      after.farewells = host.farewells ++ [.stopped stream] := by
  have patient := patient_view omits_farewell host.farewells code
  have settle : Survives code (fun host' : Host σ => host'.farewells = host.farewells)
      (.settle stream) := survives_view omits_farewell _ code nofun nofun
  refine (meets_stop_by (R := fun _ host' => host'.farewells = host.farewells)
    (Q := fun _ host' => host'.farewells = host.farewells)
    (S := fun _ after => after.farewells = host.farewells ++ [.stopped stream]) patient.stepping
    (survives_view omits_farewell _ code nofun nofun)
    (fun _ same => settle (.settle _ stream) same)
    (fun _ => survives_view omits_farewell _ code nofun nofun) (fun _ => patient.toSteady.mute)
    (fun _ => ?_) rfl).yields
  intro before after does same
  cases does with
  | announce =>
    exact (Journal.view_push_of_some Entry.farewell? _ rfl).trans (congrArg (· ++ _) same)

/-- How far a shutdown has come that has stopped some streams. -/
structure Halts (code : UserCode σ) (past : Past) (before : Host σ) (streams : List StreamId)
    (host after : Host σ) : Prop where
  /-- Every stop has returned. -/
  each : Each (stop code) streams host after
  /-- The host is sound. -/
  sound : Sound past after
  /-- No filter has panicked. -/
  calm : after.Calm
  /-- No stream runs. -/
  still : ∀ stream, ¬ after.Runs stream
  /-- The controllers have taken steps only. -/
  controllers : ∀ {β : Type} (f : LoadedController → β),
    (∀ controller stream? target, f (controller.moved stream? target) = f controller) →
      after.controllers.map f = host.controllers.map f
  /-- What was called. -/
  called : ∃ stops : List Stopping, stops.map (·.stream) = streams ∧
    (∀ stopping ∈ stops, stopping.InOrder before) ∧
      after.visits = host.visits ++ stops.flatMap (·.calls)
  /-- What came to its end. -/
  told : after.farewells = host.farewells ++ streams.map .stopped

/-- A step changes nothing else of a controller. -/
theorem map_controllers_step {β : Type} {serials : List Nat} {stream? : Option StreamId}
    {target : Phase} (f : LoadedController → β)
    (still : ∀ controller stream? target, f (controller.moved stream? target) = f controller)
    (stepped : after.controllers = (before.outline.step serials stream? target).controllers) :
    after.controllers.map f = before.controllers.map f := by
  rw [stepped, Outline.step, List.map_map]
  refine List.map_congr_left fun controller _ => ?_
  rw [Function.comp_apply]
  split
  · exact still _ _ _
  · rfl

/-- **The stops of a shutdown.**  If these are the running streams, each is stopped, unless a
filter panics. -/
theorem meets_stopAll_running (code : UserCode σ) (streams : List StreamId) :
    ∀ {host : Host σ}, Sound past host → host.Calm → streams.Nodup →
      (∀ stream, host.Runs stream ↔ stream ∈ streams) →
      host.outline.serials.Sublist before.outline.serials →
      (∀ stream, host.Runs stream → host.stream? stream = before.stream? stream) →
        (stopAll code streams).Meets host (fun _ => Halts code past before streams host)
          (fun _ _ => False) (fun _ after => ¬ after.Calm) := by
  induction streams with
  | nil =>
    intro host sound calm _ running _ _
    exact
      { each := .nil host
        sound := sound
        calm := calm
        still := fun stream runs => List.not_mem_nil ((running stream).mp runs)
        controllers := fun _ _ => rfl
        called := ⟨[], rfl, fun _ member => (List.not_mem_nil member).elim,
          (List.append_nil _).symm⟩
        told := (List.append_nil _).symm }
  | cons stream rest ih =>
    intro host sound calm nodup running serials graphs
    rw [List.nodup_cons] at nodup
    have runs : host.Runs stream := (running stream).mpr List.mem_cons_self
    rw [stopAll, meets_bind, meets_attempt]
    refine (((meets_stop code stream sound.nodup (sound.knowsSlots stream)).with
      (yields_stop_farewell code stream host)).and (meets_run _ _)).mono ?_ ?_ ?_
    · rintro report between ⟨⟨⟨graph, found, _, stops⟩, told⟩, returned⟩
      obtain ⟨results, _, turns⟩ := stops.turns
      have attached := (graphs stream runs).symm.trans found
      obtain ⟨stopping, same, inOrder, called⟩ := stops.inOrder attached serials
      refine (ih (sound.stop stops) (calm.of_wrote turns.wrote fun _ => isAlarm_stopCalls) nodup.2
        (fun other => ?_) ?_ fun other running' => ?_).imp fun _ after halts => ?_
      · rw [stops.runs, running, List.mem_cons]
        constructor
        · exact fun both => both.1.resolve_left both.2
        · exact fun member => ⟨.inr member, fun here => nodup.1 (here ▸ member)⟩
      · rw [serials_of_step stops.controllers]
        exact serials
      · obtain ⟨still, away⟩ := (stops.runs other).mp running'
        have kept := stops.stream? other
        simp only [away, if_false, Option.map_id'] at kept
        exact kept.trans (graphs other still)
      · obtain ⟨others, streams, inOrders, calls⟩ := halts.called
        exact
          { halts with
            each := .cons report returned halts.each
            controllers := fun f still =>
              (halts.controllers f still).trans (map_controllers_step f still stops.controllers)
            called := ⟨stopping :: others, congrArg₂ List.cons same streams,
              List.forall_mem_cons.mpr ⟨inOrder, inOrders⟩, by
                rw [calls, called, List.append_assoc, List.flatMap_cons]⟩
            told := by rw [halts.told, told, List.append_assoc, List.map_cons]; rfl }
    · rintro fault _ ⟨⟨_, idle⟩, _⟩
      exact absurd runs idle
    · rintro reason between ⟨⟨graph, _, _, breaks⟩, _⟩
      exact breaks.not_calm

/-! ## Unloading the controllers -/

/-- Since some controllers were loaded, those that are missing have been destroyed. -/
def Departed (seen : List Farewell) (serials : List Nat) (host : Host σ) : Prop :=
  ∃ gone : List Nat, host.farewells = seen ++ gone.map .destroyed ∧
    (gone ++ host.outline.serials).Perm serials

/-- Controllers come and go with their first and last step. -/
theorem Does.serials {deed : Deed} (does : Does code deed before after) (joins : deed ≠ .join)
    (leaves : deed ≠ .leave) : after.outline.serials = before.outline.serials := by
  cases does with
  | stir _ _ _ serials => exact serials
  | join => exact absurd rfl joins
  | leave => exact absurd rfl leaves
  | _ => rfl

theorem survives_departed (code : UserCode σ) {seen : List Farewell} {serials : List Nat}
    {deed : Deed} (still : ∀ stream, deed ≠ .announce stream) (joins : deed ≠ .join)
    (leaves : deed ≠ .leave) : Survives code (Departed seen serials) deed := by
  rintro before after does ⟨gone, told, all⟩
  refine ⟨gone, survives_view omits_farewell _ code still leaves does told, ?_⟩
  rwa [does.serials joins leaves]

theorem survives_departed_leave (code : UserCode σ) {seen : List Farewell} {serials : List Nat}
    (nodup : serials.Nodup) : Survives code (Departed seen serials) .leave := by
  rintro before after does ⟨gone, told, all⟩
  cases does with
  | leave _ origin loaded =>
    rename_i serial
    refine ⟨gone ++ [serial], ?_, ?_⟩
    · rw [List.map_append, ← List.append_assoc, ← told]
      exact Journal.view_push_of_some Entry.farewell? _ rfl
    · obtain ⟨controller, member, rfl⟩ := List.mem_map.mp loaded
      have distinct := (List.nodup_append.mp (all.nodup_iff.mpr nodup)).2.1
      have left := ((perm_unloaded distinct member).map (·.serial)).append_left gone
      rw [List.append_assoc]
      exact left.symm.trans all

/-- An unload that returns ends the one controller that is missing afterwards. -/
theorem yields_unload_departed (code : UserCode σ) (name : String)
    (nodup : host.outline.serials.Nodup) :
    (unload code name).Yields host fun _ => Departed host.farewells host.outline.serials := by
  have patient : Patient code (Departed host.farewells host.outline.serials : Host σ → Prop) :=
    ⟨⟨survives_departed code nofun nofun nofun, survives_departed code nofun nofun nofun,
      survives_departed code nofun nofun nofun⟩, survives_departed code nofun nofun nofun⟩
  exact Meets.yields (patient.keeps_unload (survives_departed_leave code nodup) name host
    ⟨[], (List.append_nil _).symm, .refl _⟩)

/-- While no stream runs, the controller that was loaded last can be unloaded. -/
theorem meets_unload_last (code : UserCode σ) (sound : Sound past host) (calm : host.Calm)
    (still : ∀ stream, ¬ host.Runs stream) (distinct : (host.controllers.map (·.name)).Nodup)
    {rest : List LoadedController} {last : LoadedController}
    (controllers : host.controllers = rest ++ [last]) :
    (unload code last.name).Meets host
      (fun _ after => Sound past after ∧ after.Calm ∧ (∀ stream, ¬ after.Runs stream) ∧
        after.controllers = rest ∧ after.visits = host.visits ++ plainCall last .destroy ∧
          after.farewells = host.farewells ++ [.destroyed last.serial])
      (fun _ _ => False) (fun _ _ => False) := by
  have loaded : last ∈ host.controllers := controllers ▸ List.mem_concat_self
  have found : host.controller? last.name = some last := by
    rw [controllers, List.map_append, List.nodup_append] at distinct
    rw [controller?, controllers, List.find?_append, List.find?_eq_none.mpr, Option.none_or]
    · simp
    · intro other member
      rw [decide_eq_true_eq]
      exact distinct.2.2 _ (List.mem_map_of_mem member) _ (List.mem_singleton_self _)
  refine ((meets_unload code last.name sound.nodup sound.destroyable).with
    (yields_unload_departed code last.name sound.nodup)).mono ?_ ?_ (fun _ _ h => h)
  · rintro _ after ⟨⟨controller, there, _, turns⟩, gone, told, all⟩
    obtain rfl : last = controller := Option.some.inj (found.symm.trans there)
    have left : after.controllers = rest := by
      have nodup := sound.nodup
      rw [Outline.serials, show host.outline.controllers = rest ++ [last] from controllers,
        List.map_append, List.nodup_append] at nodup
      refine (congrArg Outline.controllers turns.shape).trans ?_
      rw [Outline.unloaded, show host.outline.controllers = rest ++ [last] from controllers,
        List.filter_append, List.filter_eq_self.mpr, List.filter_cons_of_neg (by simp),
        List.filter_nil, List.append_nil]
      intro other member
      exact decide_eq_true (nodup.2.2 _ (List.mem_map_of_mem member) _ (List.mem_singleton_self _))
    have one : gone = [last.serial] := by
      have split : host.outline.serials.Perm ([last.serial] ++ after.outline.serials) := by
        rw [Outline.serials, Outline.serials, show host.outline.controllers = rest ++ [last] from
          controllers, show after.outline.controllers = rest from left, List.map_append]
        exact List.perm_append_comm
      exact List.perm_singleton.mp ((List.perm_append_right_iff _).mp (all.trans split))
    refine ⟨sound.unload turns, calm.of_wrote turns.wrote fun _ => isAlarm_plainCall,
      runs_of_streams (congrArg Outline.streams turns.shape) ▸ still, left,
      turns.wrote.visits_eq, ?_⟩
    rw [told, one]
    rfl
  · rintro fault _ ⟨_, blocked⟩
    obtain ⟨stream, _, active, _⟩ := blocked last found
    rw [sound.outside calm still loaded] at active
    cases active

/-- What a shutdown has done that has unloaded some controllers, all there were. -/
structure Empties (code : UserCode σ) (controllers : List LoadedController)
    (host after : Host σ) : Prop where
  /-- Every unload has returned. -/
  each : Each (unload code) (controllers.map (·.name)) host after
  /-- No controller is left. -/
  empty : after.controllers = []
  /-- No stream runs. -/
  still : ∀ stream, ¬ after.Runs stream
  /-- What was called. -/
  called : after.visits = host.visits ++ controllers.flatMap (plainCall · .destroy)
  /-- What came to its end. -/
  told : after.farewells = host.farewells ++ controllers.map (.destroyed ·.serial)

/-- **The unloads of a shutdown.**  While no stream runs, each controller is unloaded, last
loaded first. -/
theorem meets_unloadAll_reverse (code : UserCode σ) (controllers : List LoadedController) :
    ∀ {host : Host σ}, Sound past host → host.Calm → (∀ stream, ¬ host.Runs stream) →
      (host.controllers.map (·.name)).Nodup → host.controllers = controllers.reverse →
        (unloadAll code (controllers.map (·.name))).Meets host
          (fun _ => Empties code controllers host) (fun _ _ => False) (fun _ _ => False) := by
  induction controllers with
  | nil =>
    intro host _ _ still _ none
    exact ⟨.nil host, none, still, (List.append_nil _).symm, (List.append_nil _).symm⟩
  | cons last rest ih =>
    intro host sound calm still distinct all
    rw [List.reverse_cons] at all
    rw [List.map_cons, unloadAll, meets_bind, meets_attempt]
    refine ((meets_unload_last code sound calm still distinct all).and (meets_run _ _)).mono ?_
      (fun _ _ both => both.1.elim) fun _ _ both => both.1
    rintro _ between ⟨⟨sound, calm, still, left, called, told⟩, returned⟩
    have fewer : (between.controllers.map (·.name)).Nodup := by
      rw [left]
      rw [all, List.map_append] at distinct
      exact (List.nodup_append.mp distinct).1
    refine (ih sound calm still fewer left).imp fun _ after empties => ?_
    exact
      { empties with
        each := .cons () returned empties.each
        called := by rw [empties.called, called, List.append_assoc, List.flatMap_cons]
        told := by rw [empties.told, told, List.append_assoc, List.map_cons]; rfl }

/-! ## The whole shutdown -/

/-- What a shutdown has come to that was refused nothing. -/
structure Concludes (code : UserCode σ) (host after : Host σ) : Prop where
  /-- Every stop and every unload has returned. -/
  each : ∃ stopped emptied,
    Each (stop code) host.runningStreams { host with isShutDown := true } stopped ∧
      Each (unload code) host.controllerNames.reverse stopped emptied
  /-- What was called: the streams were stopped, and then the controllers destroyed. -/
  called : ∃ stops : List Stopping, stops.map (·.stream) = host.runningStreams ∧
    (∀ stopping ∈ stops, stopping.InOrder host) ∧
      after.visits = host.visits ++ stops.flatMap (·.calls) ++
        host.controllers.reverse.flatMap (plainCall · .destroy)
  /-- What came to its end: each running stream, and then each controller. -/
  told : after.farewells = host.farewells ++ host.runningStreams.map .stopped ++
    host.controllers.reverse.map (.destroyed ·.serial)
  /-- No controller is left. -/
  empty : after.controllers = []
  /-- No stream runs. -/
  still : ∀ stream, ¬ after.Runs stream
  /-- No query waits. -/
  pending : after.pendingQueries = 0

/-- A message changes nothing of that. -/
theorem Concludes.message (concludes : Concludes code host after) (level : Level) (text : String) :
    Concludes code host (after.writing (.message level text)) :=
  { concludes with
    called := by
      obtain ⟨stops, streams, inOrder, called⟩ := concludes.called
      exact ⟨stops, streams, inOrder,
        (Journal.view_push_of_none Entry.visit? _ rfl).trans called⟩
    told := (Journal.view_push_of_none Entry.farewell? _ rfl).trans concludes.told }

/-- The first shutdown of a host in which no filter has panicked is refused nothing. -/
theorem meets_shutdown_concludes (code : UserCode σ) (sound : Sound past host) (calm : host.Calm)
    (distinct : host.controllerNames.Nodup) (up : host.isShutDown = false) :
    (shutdown code).Meets host (fun _ => Concludes code host) (fun _ _ => False)
      (fun _ after => ¬ after.Calm) := by
  rw [shutdown, meets_bind, meets_get, if_neg (by rw [up]; exact Bool.false_ne_true), meets_bind,
    meets_modify, meets_bind]
  have begun : Sound past { host with isShutDown := true } := sound.aside rfl rfl rfl rfl
  have stops : (stopAll code host.runningStreams).Meets { host with isShutDown := true }
      (fun _ => Halts code past host host.runningStreams { host with isShutDown := true })
      (fun _ _ => False) (fun _ after => ¬ after.Calm) :=
    meets_stopAll_running code _ begun calm ((pairwise_runningStreams host).imp Std.ne_of_lt)
      (fun _ => mem_runningStreams.symm) (.refl _) fun _ _ => rfl
  refine stops.imp fun _ stopped halts => ?_
  have same {β : Type} (f : LoadedController → β)
      (still : ∀ controller stream? target, f (controller.moved stream? target) = f controller) :
      stopped.controllers.reverse.map f = host.controllers.reverse.map f := by
    rw [List.map_reverse, List.map_reverse]
    exact congrArg List.reverse (halts.controllers f still)
  have names : stopped.controllerNames = host.controllerNames :=
    halts.controllers (·.name) fun _ _ _ => rfl
  have reversed : stopped.controllerNames.reverse = stopped.controllers.reverse.map (·.name) :=
    List.map_reverse.symm
  have unloads := meets_unloadAll_reverse code stopped.controllers.reverse halts.sound halts.calm
    halts.still (by rw [← controllerNames, names]; exact distinct) (List.reverse_reverse _).symm
  rw [meets_bind, meets_get, meets_bind, reversed]
  refine unloads.always fun _ emptied empties => ?_
  have destroys : stopped.controllers.reverse.flatMap (plainCall · .destroy) =
      host.controllers.reverse.flatMap (plainCall · .destroy) := by
    rw [List.flatMap_def, List.flatMap_def, same (plainCall · .destroy) fun _ _ _ => rfl]
  obtain ⟨gone, streams, inOrder, called⟩ := halts.called
  have concludes : Concludes code host
      { emptied with session := { emptied.session with waiting := [] } } :=
    { each := ⟨stopped, emptied, halts.each, by rw [← names, reversed]; exact empties.each⟩
      called := ⟨gone, streams, inOrder, by
        refine empties.called.trans ?_
        rw [called, destroys]
        rfl⟩
      told := by
        refine empties.told.trans ?_
        rw [halts.told, same (fun controller => Farewell.destroyed controller.serial)
          fun _ _ _ => rfl]
        rfl
      empty := empties.empty
      still := empties.still
      pending := rfl }
  rw [meets_bind, onSession, meets_within, Session.discardWaiting, meets_bind, takeWaiting,
    meets_bind, meets_get, meets_bind, meets_modify, meets_pure, meets_bind, meets_get, meets_pure]
  dsimp only
  split
  · exact (concludes.message _ _).message _ _
  · exact concludes.message _ _

/-- As long as no filter panics, a host stays tidy, and no filter of a stream that does not
run is started. -/
theorem Course.tidy_resting {fresh : FilterGraph → Prop} {past' : Past}
    (course : Course fresh past before past' after) (rested : ∀ graph, fresh graph → graph.Rested)
    (sound : Sound past before) (tidy : Tidy before) (resting : Resting before)
    (calm : after.Calm) : Tidy after ∧ Resting after := by
  induction course with
  | refl => exact ⟨tidy, resting⟩
  | step course turn ih =>
    obtain ⟨tidy, resting⟩ := ih (turn.calm calm)
    have sound := course.sound sound
    exact ⟨tidy.turn sound turn calm, resting.turn sound (turn.mono rested) calm⟩

/-- **The first shutdown is complete.**  As long as no filter panics, it returns.  Each running
stream has been stopped, in the order of the numbers, and then each controller has been
destroyed, once, in reverse load order, and none of this was refused, whatever hooks and
callbacks have done.  No controller is left, no stream runs, no filter is started, and no query
waits. -/
theorem first_shutdown {history : History σ} (reachable : history.Reachable code)
    (up : history.host.isShutDown = false) (ends : (shutdown code history.host).1 ≠ .exhausted)
    (calm : (shutdown code history.host).2.Calm) :
    ∃ after, shutdown code history.host = (.returned (), after) ∧
      history.host.runningStreams.Pairwise (· < ·) ∧
      (∀ stream, stream ∈ history.host.runningStreams ↔ history.host.Runs stream) ∧
      Concludes code history.host after ∧
      (∀ stream filter, after.session.tree.mark? stream filter ≠ some true) ∧
      ∀ stream graph, after.stream? stream = some graph →
        ∀ node ∈ graph.nodes, node.state ≠ .started := by
  have sound := History.sound reachable
  have follows : (Episode.of code .shutdown history.host).Follows history.past :=
    Episode.of_meets (meets_perform code sound .shutdown nofun) ends
  have earlier : history.host.Calm := Episode.calm_before .shutdown ends calm
  obtain ⟨tidy, resting⟩ := follows.course.tidy_resting nofun sound (History.tidy reachable earlier)
    (History.resting reachable earlier).1 calm
  obtain ⟨value, after, run, concludes⟩ := Meets.exists_returned
    (meets_shutdown_concludes code sound earlier (History.told reachable earlier).lists.distinct up)
    ends calm
  have final : (Episode.of code .shutdown history.host).after = after := congrArg Prod.snd run
  rw [final] at tidy resting
  refine ⟨after, run, pairwise_runningStreams _, fun _ => mem_runningStreams, concludes,
    fun stream filter marked =>
      not_running (concludes.still stream) ((tidy.marked stream filter).mp marked),
    fun stream graph attached node member => ?_⟩
  cases flow : graph.flow with
  | idle => exact resting stream graph attached flow node member
  | running => exact absurd ((runs_iff attached).mpr flow) (concludes.still stream)

/-- User code whose filters make a parameter, and whose hooks ask for it.  The hook that is
called for a filter that has stopped panics then, and the last hook fails. -/
def stubbornCode : UserCode Unit :=
  { idleCode with
    filterHook := fun _ hook arguments =>
      if hook = .postStop then .ask (.query (gainQuery arguments.stream)) fun _ => .panic "enough"
      else .done .ok
    destroy := fun _ => .ask (.query (gainQuery ⟨1⟩)) fun _ => .done (.failed 1)
    filter := fun _ function context =>
      if function = .construct then
        .ask (.create context "gain" .bool (.bool true) none) fun _ => .done (.ok ())
      else .done (.ok ()) }

/-- A history in which two controllers are loaded and two streams run, the second for
longer. -/
def stubbornHistory : History Unit :=
  .after stubbornCode { episodes := [], host := freshHost }
    [.load "mixer" none busyModule [], .load "limiter" none busyModule [],
      .addStream (FilterGraph.empty.append "source" (some 0)),
      .addStream (FilterGraph.empty.append "source" (some 0)), .start ⟨2⟩, .start ⟨1⟩]

theorem stubbornHistory_reachable : stubbornHistory.Reachable stubbornCode := by
  refine ⟨_, _, _, create_freshHost, History.leads_after _ ⟨⟨⟨?_, nofun⟩, ?_⟩,
    ⟨⟨?_, nofun⟩, ?_⟩, ⟨⟨?_, ?attach⟩, ?_⟩, ⟨⟨?_, ?attach'⟩, ?_⟩, ⟨⟨?_, nofun⟩, ?_⟩,
    ⟨⟨?_, nofun⟩, ?_⟩, trivial⟩⟩
  case attach | attach' =>
    intro graph same
    cases same
    exact .add .new rfl
  all_goals decide +kernel

/-- Six queries are made on the way, and each hook fails, but everything comes to its end. -/
theorem first_shutdown_stubborn :
    ∃ after, shutdown stubbornCode stubbornHistory.host = (.returned (), after) ∧
      after.farewells = [.stopped ⟨1⟩, .stopped ⟨2⟩, .destroyed 1, .destroyed 0] ∧
      after.controllers = [] ∧ after.session.nextTicket = 6 ∧ after.pendingQueries = 0 := by
  have up : stubbornHistory.host.isShutDown = false := by
    decide +kernel
  have ends : (shutdown stubbornCode stubbornHistory.host).1 ≠ .exhausted := by
    decide +kernel
  have calm : (shutdown stubbornCode stubbornHistory.host).2.Calm := by
    decide +kernel
  have asked : (shutdown stubbornCode stubbornHistory.host).2.session.nextTicket = 6 := by
    decide +kernel
  have before : stubbornHistory.host.farewells = [] ∧
      stubbornHistory.host.runningStreams = [⟨1⟩, ⟨2⟩] ∧
      stubbornHistory.host.controllers.reverse.map (Farewell.destroyed ·.serial) =
        [.destroyed 1, .destroyed 0] := by
    decide +kernel
  obtain ⟨after, run, _, _, concludes, _⟩ :=
    first_shutdown stubbornHistory_reachable up ends calm
  rw [run] at asked
  refine ⟨after, run, ?_, concludes.empty, asked, concludes.pending⟩
  rw [concludes.told, before.1, before.2.1, before.2.2]
  rfl

end Host

end StreamControl
