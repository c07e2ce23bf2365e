import StreamControl.Proofs.Marks
import StreamControl.Proofs.QueryFates
import StreamControl.Proofs.Queue

/-!
# What waits between operations

A query waits until a start of its stream has started its filter.  The queue is
drained by starts, by stops and when a stream is detached, and a drain looks at the
queries of all streams; that it answers only those of the stream that is being
started (`deferred_answers`) is because no query waits for a filter that is marked
as started.  Filters are marked one by one while hooks and filter functions run and
may ask for more, so meanwhile the stream counts as due (`Host.Tends`).

What waits also has a target (`waiting_targets`): detaching a stream drains the
queue and so drops its queries.  A stream that fails to be attached is forgotten
too, but then the queue is not drained, and the queries that its filters have made
by then are stray (`History.Stray`) until the next drain.
-/

set_option autoImplicit false

namespace StreamControl.Host

open StreamControl.Action Session

variable {σ : Type}

/-! ## Hosts whose queue is tended -/

/-- Only queries wait that may, apart from stray streams and streams that are due,
and since the entries `prior` no query that had waited has been answered. -/
def Tends (prior : List Entry) (stray due : StreamId → Prop) (host : Host σ) : Prop :=
  Tended prior noFilter stray due host.session.tree host.session

/-- Only queries wait that may, apart from stray streams. -/
def Queued (stray : StreamId → Prop) (host : Host σ) : Prop :=
  ∀ item ∈ host.session.waiting, item.2.MayWait stray noStream host.session.tree

variable {prior : List Entry} {stray due : StreamId → Prop} {host : Host σ} {code : UserCode σ}

theorem Tends.queued (tends : host.Tends prior stray noStream) : host.Queued stray := tends.waiting

/-- Since now, nothing has been answered. -/
theorem Queued.tends (queued : host.Queued stray) :
    host.Tends host.session.journal.toList stray noStream :=
  ⟨.refl _ _, queued, .refl _⟩

theorem Tends.mono {stray' due' : StreamId → Prop} (tends : host.Tends prior stray due)
    (strays : ∀ stream, stray stream → stray' stream) (dues : ∀ stream, due stream → due' stream) :
    host.Tends prior stray' due' :=
  { tends with waiting := fun item member => (tends.waiting item member).mono strays dues }

theorem Tends.push {after : Host σ} (tends : host.Tends prior stray due) {entry : Entry}
    (session : after.session = { host.session with journal := host.session.journal.push entry })
    (silent : entry.dispatched? = none) : after.Tends prior stray due := by
  rw [Tends, session]
  exact Tended.push tends silent

theorem Tends.planting {stray' due' : StreamId → Prop} {tree : ParameterTree}
    (tends : host.Tends prior stray due)
    (mayWait : ∀ query : Query, query.MayWait stray due host.session.tree →
      query.MayWait stray' due' tree) : (host.planting tree).Tends prior stray' due' where
  answers := tends.answers.push rfl
  waiting item member := mayWait _ (tends.waiting item member)
  kept := .refl _

/-- A drain leaves nothing stray. -/
theorem carries_drain (code : UserCode σ) (prior : List Entry) (stray : StreamId → Prop) :
    Carries code .drain (Tends prior stray noStream) (Tends prior noStream noStream) := by
  intro before after does tends
  cases does with
  | drain _ ends =>
    have drained := Tended.meets_drain code tends fun _ _ _ impossible => impossible.elim
    exact (drained.mono (fun _ _ tended => tended.rebase) (fun _ _ impossible => impossible.elim)
      fun _ _ impossible => impossible.elim).of_ne_exhausted ends

/-- The queries of a stream that is forgotten are stray. -/
theorem carries_forget (code : UserCode σ) (prior : List Entry) (stray due : StreamId → Prop)
    (stream : StreamId) : Carries code (.forget stream) (Tends prior stray due)
      (Tends prior (fun other => stray other ∨ other = stream) due) := by
  intro before after does tends
  cases does with
  | forget => exact tends.planting fun _ mayWait => mayWait.forget stream

/-- A queue stays tended, if filters are marked as started only in streams that are
due, only stray streams are forgotten, and the queue is drained only while no stream
is due. -/
theorem survives_tends (code : UserCode σ) {deed : Deed}
    (mark : ∀ stream, deed = .mark stream true → due stream)
    (forget : ∀ stream, deed = .forget stream → stray stream)
    (drain : deed = .drain → due = noStream) : Survives code (Tends prior stray due) deed := by
  intro before after does tends
  cases does with
  | stir before after session =>
    rw [Tends, session]
    exact tends
  | write _ ofHost => exact tends.push rfl (Ledger.silent_of_isOfHost ofHost).2.1
  | send => exact { tends with }
  | fail =>
    exact failing_of (P := Tended prior noFilter stray due before.session.tree)
      (fun _ _ tended => { tended with }) (fun _ _ _ _ tended => tended.push rfl)
      (fun _ _ _ tended => tended.push rfl) (fun _ tended => tended.push rfl) tends
  | run _ program _ ends | outside _ program ends =>
    exact Tended.rebase ((Tended.keeps_run code program).of_ne_exhausted tends ends)
  | drain _ ends =>
    rw [drain rfl] at tends ⊢
    exact (carries_drain code prior stray (.drain before ends) tends).mono
      (fun _ impossible => impossible.elim) fun _ => id
  | attach => exact tends.planting fun _ mayWait => mayWait.attach _
  | enroll _ added => exact tends.planting fun _ mayWait => mayWait.enroll added
  | mark _ marked =>
    exact tends.planting fun _ mayWait => mayWait.mark marked fun starts => mark _ (starts ▸ rfl)
  | settle _ stream =>
    exact tends.planting fun _ mayWait => mayWait.kept (ParameterTree.kept_dropUnkept _ stream)
  | forget _ stream =>
    refine (carries_forget code prior stray due stream (.forget before stream) tends).mono
      (fun other either => ?_) fun _ => id
    rcases either with old | rfl
    · exact old
    · exact forget _ rfl
  | skip => exact tends
  | announce | join | leave => exact tends.push rfl rfl
  | shutDown => exact tends
  | discard | close => exact { tends with waiting := fun _ member => (List.not_mem_nil member).elim }

theorem patient_tends (code : UserCode σ) (prior : List Entry) (stray due : StreamId → Prop) :
    Patient code (Tends prior stray due) :=
  ⟨⟨survives_tends code nofun nofun nofun, survives_tends code nofun nofun nofun,
    survives_tends code nofun nofun nofun⟩, survives_tends code nofun nofun nofun⟩

/-! ## Starts -/

/-- What is written while a session goes from one state to another, with the calls
that it shows and the queries that it answers. -/
theorem written_of_answers {allowed : StreamId → String → Prop} {visits : List Visit}
    {before after : Session σ} (wrote : Wrote visits before after)
    (answers : after.journal.Answers before.journal.toList allowed) :
    ∃ entries, after.journal.toList = before.journal.toList ++ entries ∧
      entries.filterMap Entry.visit? = visits ∧ OnlyLate allowed before.journal.toList entries := by
  obtain ⟨entries, written, shown⟩ := wrote.written
  obtain ⟨same, again, only⟩ := answers.written
  rw [written, List.append_cancel_left_eq] at again
  exact ⟨entries, written, shown, again ▸ only⟩

/-- A start in three parts: filters are asked about and started, then queries that
had waited are answered, and then the controllers are told. -/
structure AnswersBetween (stream : StreamId) (started : List String) (before after : Host σ)
    (results : List (FilterSlot × StartResult)) (opening answering telling : List Entry) : Prop where
  /-- The filters that started. -/
  names : started = (startedSlots results).map (·.name)
  /-- The parts. -/
  written : after.session.journal.toList =
    before.session.journal.toList ++ opening ++ answering ++ telling
  /-- Every call before the first notice is made in the first part. -/
  asks : opening.filterMap Entry.visit? =
    hookRound .preStart stream (results.map (·.1)) before.controllers ++
      results.flatMap (startVisits stream)
  /-- No hook and no function of a filter is called in the second. -/
  silent : answering.filterMap Entry.visit? = []
  /-- Every notice comes in the third. -/
  tells : telling.filterMap Entry.visit? =
    hookRound .postStart stream (startedSlots results) before.controllers
  /-- In the first part no query that had waited is answered. -/
  early : OnlyLate noFilter before.session.journal.toList opening
  /-- In the second only queries of the filters that started are. -/
  own : OnlyLate (fun other filter => other = stream ∧ filter ∈ started)
    (before.session.journal.toList ++ opening) answering
  /-- In the third none is. -/
  late : OnlyLate noFilter (before.session.journal.toList ++ opening ++ answering) telling

/-- After a start no query waits for a filter that started. -/
def Settles (host : Host σ) (stream : StreamId) (started : List String) : Prop :=
  ∀ item ∈ host.session.waiting, item.2.stream = stream → item.2.filter ∉ started

/-- A start that is not refused answers the queries of the filters that started,
and no others, before any controller is told. -/
theorem meets_startIdle_answering (code : UserCode σ) {stream : StreamId} {graph : FilterGraph}
    (nodup : host.outline.serials.Nodup) (ready : host.ReadyFor stream)
    (known : host.KnowsSlots stream graph.slots)
    (unmarked : ∀ filter, host.outline.mark? stream filter ≠ some true)
    (queued : host.Queued stray) :
    (startIdle code stream graph).Meets host
      (fun report after => after.Queued noStream ∧ after.Settles stream report.started ∧
        ∃ results opening answering telling,
          AnswersBetween stream report.started host after results opening answering telling)
      (fun _ _ => False) (fun _ after => ¬ after.Calm) := by
  rw [startIdle_eq, meets_bind, meets_get, meets_bind]
  have opening := (patient_tends code host.session.journal.toList stray (· = stream)).stepping.keeps_openStart
    (survives_tends code (fun _ same => by cases same; rfl) nofun nofun) graph host host
    (queued.tends.mono (fun _ => id) fun _ impossible => impossible.elim)
  refine ((meets_openStart code nodup ready known).and opening).mono ?_
    (fun _ _ both => both.1.elim) (fun _ _ both => both.1.not_calm)
  rintro ⟨vetoFailures, results⟩ between ⟨⟨visited, turns⟩, tends⟩
  dsimp only at visited turns ⊢
  -- Of the stream that is due, exactly the filters that have just started are marked.
  have marks : ∀ filter, between.outline.mark? stream filter = some true →
      filter ∈ (startedSlots results).map (·.name) := by
    intro filter marked
    rw [turns.shape] at marked
    have marked := (host.outline.mark?_starting stream results stream filter).symm.trans marked
    split at marked
    · rename_i both
      exact both.2
    · exact absurd marked (unmarked filter)
  have due : Tended between.session.journal.toList
      (fun other filter => other = stream ∧ filter ∈ (startedSlots results).map (·.name)) stray
      (· = stream) between.session.tree between.session := ⟨.refl _ _, tends.waiting, .refl _⟩
  rw [meets_bind, onSession, meets_within]
  refine ((Calls.drain code between.session).and (due.meets_drain code ?_)).mono ?_
    (fun _ _ both => both.1.elim) (fun _ _ both => both.1.elim)
  · rintro other filter marked rfl
    exact ⟨rfl, marks filter marked⟩
  rintro answered session ⟨passed, tended⟩
  have quiet := turns_of_passed passed
  have controllers : ({ between with session } : Host σ).outline.controllers =
      (host.outline.step host.outline.serials (some stream) .preStarted).controllers := by
    rw [quiet.shape, turns.shape]
    exact host.outline.controllers_starting stream results
  have rest : Tends session.journal.toList noStream noStream { between with session } :=
    ⟨.refl _ _, tended.waiting, .refl _⟩
  have close : Keeps (Tends session.journal.toList noStream noStream) True False
      (closeStart code stream host.controllers results) :=
    (patient_tends code _ noStream noStream).stepping.keeps_closeStart stream host.controllers results
  rw [meets_bind]
  refine ((meets_closeStart code nodup results controllers).and (close _ rest)).mono ?_
    (fun _ _ both => both.1.elim) (fun _ _ both => both.1.elim)
  rintro failures after ⟨closing, tends'⟩
  rw [meets_pure]
  refine ⟨tends'.queued, fun item member same started => ?_, results, ?_⟩
  · have shape := closing.shape
    rw [quiet.shape, turns.shape] at shape
    have marked : after.outline.mark? stream item.2.filter = some true := by
      rw [shape]
      exact (host.outline.mark?_starting stream results stream item.2.filter).trans
        (if_pos ⟨rfl, started⟩)
    exact (tends'.queued item member).unmarked (same ▸ marked)
  · obtain ⟨opening, written, asks, early⟩ := written_of_answers turns.wrote tends.answers
    obtain ⟨answering, written', silent, own⟩ := written_of_answers passed.toWrote tended.answers
    obtain ⟨telling, written'', tells, late⟩ := written_of_answers closing.wrote tends'.answers
    refine ⟨opening, answering, telling, ?_⟩
    rw [written] at written' own
    dsimp only at written'' late
    rw [written'] at written'' late
    exact
      { names := rfl, written := written'', asks := visited ▸ asks, silent := silent,
        tells := tells, early := early, own := own, late := late }

/-- A start that is refused for the controller that was loaded first leaves the queue
as it is. -/
theorem meets_startIdle_tends (code : UserCode σ) {stream : StreamId} {graph : FilterGraph}
    (nodup : host.outline.serials.Nodup) (blocked : host.BlockedFor stream)
    (tends : host.Tends prior stray due) :
    (startIdle code stream graph).Meets host (fun _ _ => False)
      (fun _ after => after.Tends prior stray due) (fun _ _ => False) := by
  obtain ⟨controller, first, stuck⟩ := blocked
  obtain ⟨rest, controllers⟩ := List.head?_eq_some_iff.mp first
  have span : Keeps (Tends prior stray due) False False
      (onSession (Session.openSpan (host.config.spans.streamSpan? stream "start"))) :=
    keeps_onSession fun host => ((patient_tends code prior stray due).sturdy host).keeps_openSpan _
  rw [startIdle, meets_bind, meets_get, meets_bind]
  refine ((visits_onSession (Calls.openSpan _) host).and (span host tends)).mono ?_
    (fun _ _ both => both.1.elim) (fun _ _ both => both.1.elim)
  rintro _ opened ⟨turns, tends⟩
  have loaded : opened.controllers = host.controllers := congrArg Outline.controllers turns.shape
  rw [controllers, meets_bind]
  refine (meets_poll_of_blocked code stream graph.slots [] ?_ rest ?_ stuck).mono
    (fun _ _ h => h.elim) (fun _ _ same => same ▸ tends) (fun _ _ h => h)
  · rwa [turns.shape]
  · rw [loaded, controllers]
    exact List.mem_cons_self

theorem meets_start_answering (code : UserCode σ) {past : Past} (sound : Sound past host)
    (tidy : Tidy host) (queued : host.Queued stray) (stream : StreamId) :
    (start code stream).Meets host
      (fun report after => after.Queued noStream ∧ after.Settles stream report.started ∧
        ∃ results opening answering telling,
          AnswersBetween stream report.started host after results opening answering telling)
      (fun _ after => after.Tends host.session.journal.toList stray noStream)
      (fun _ after => ¬ after.Calm) := by
  rw [start, meets_bind, attached, meets_bind, meets_get]
  cases found : host.stream? stream with
  | none => exact queued.tends
  | some graph =>
    dsimp only
    rw [meets_pure]
    cases flow : graph.flow with
    | running => exact queued.tends
    | idle =>
      rcases sound.decided stream graph found flow with ready | blocked
      · have unmarked : ∀ filter, host.outline.mark? stream filter ≠ some true := fun filter marked =>
          not_running (not_runs_of_idle found flow) ((tidy.marked stream filter).mp marked)
        exact (meets_startIdle_answering code sound.nodup ready (sound.knowsSlots stream graph found)
          unmarked queued).mono (fun _ _ answers => answers) (fun _ _ impossible => impossible.elim)
            fun _ _ broke => broke
      · exact (meets_startIdle_tends code sound.nodup blocked queued.tends).mono
          (fun _ _ impossible => impossible.elim) (fun _ _ tends => tends)
          fun _ _ impossible => impossible.elim

/-! ## Episodes -/

/-- Queries that had waited are answered in an episode only if it is a start that
returns, and then between the start of the last filter and the first notice.
Afterwards no query waits for a filter that started. -/
def Episode.Prompt : Episode σ → Prop
  | ⟨.start stream, before, .returned report, after⟩ => after.Settles stream report.started ∧
    ∃ results opening answering telling,
      AnswersBetween stream report.started before after results opening answering telling
  | ⟨_, before, _, after⟩ => ∃ entries,
    after.session.journal.toList = before.session.journal.toList ++ entries ∧
      OnlyLate noFilter before.session.journal.toList entries

/-- The stream whose attachment failed, if that is what happened. -/
def Episode.unattached? : Episode σ → Option StreamId
  | ⟨.addStream _, before, .refused _, _⟩ => some ⟨before.nextStream⟩
  | _ => none

/-- Whether the queue was drained. -/
def Episode.Drained : Episode σ → Prop
  | ⟨.start _, _, .returned _, _⟩ | ⟨.stop _, _, .returned _, _⟩
  | ⟨.removeStream _, _, .returned _, _⟩ => True
  | _ => False

/-- The streams that may be stray after an episode. -/
def Episode.strays (stray : StreamId → Prop) (episode : Episode σ) (stream : StreamId) : Prop :=
  episode.unattached? = some stream ∨ stray stream ∧ ¬ episode.Drained

/-- An episode is prompt, and afterwards only queries wait that may, apart from
stray streams. -/
def Episode.Tidies (stray : StreamId → Prop) (episode : Episode σ) : Prop :=
  episode.after.Calm → episode.Prompt ∧ episode.after.Queued (episode.strays stray)

/-- What an operation that answers nothing leaves. -/
theorem Tends.spread {before after : Host σ} {stray' : StreamId → Prop}
    (tends : after.Tends before.session.journal.toList stray noStream)
    (strays : ∀ stream, stray stream → stray' stream) :
    (∃ entries, after.session.journal.toList = before.session.journal.toList ++ entries ∧
      OnlyLate noFilter before.session.journal.toList entries) ∧ after.Queued stray' :=
  ⟨tends.answers.written, (tends.mono strays fun _ => id).queued⟩

/-- **Every operation answers promptly**, and leaves in the queue only what may
wait. -/
theorem meets_tidies (code : UserCode σ) {past : Past} (sound : Sound past host)
    (tidy : Tidy host) (queued : host.Queued stray) (operation : Operation σ) :
    Action.Meets (operation.perform code) host
      (fun value after => Episode.Tidies stray ⟨operation, host, .returned value, after⟩)
      (fun fault after => Episode.Tidies stray ⟨operation, host, .refused fault, after⟩)
      (fun reason after => Episode.Tidies stray ⟨operation, host, .panicked reason, after⟩) := by
  have tends := queued.tends
  have patient := patient_tends code host.session.journal.toList stray noStream
  -- Most operations mark no filter as started, and forget no stream.
  have plain : (∀ stream, ¬ operation.Involves host (.mark stream true)) →
      (∀ stream, ¬ operation.Involves host (.forget stream)) →
      Action.Meets (operation.perform code) host
        (fun _ after => after.Tends host.session.journal.toList stray noStream)
        (fun _ after => after.Tends host.session.journal.toList stray noStream)
        (fun _ after => after.Tends host.session.journal.toList stray noStream) :=
    fun marks forgets => survives_perform (fun deed involved => survives_tends code
      (fun stream same => absurd (same ▸ involved) (marks stream))
      (fun stream same => absurd (same ▸ involved) (forgets stream)) fun _ => rfl) tends
  cases operation with
  | start stream =>
    refine (meets_start_answering code sound tidy queued stream).mono ?_ ?_ ?_
    · rintro report after ⟨settled, answered⟩ _
      exact ⟨answered, fun item member => (settled item member).mono
        (fun _ impossible => impossible.elim) fun _ => id⟩
    · exact fun fault after tends _ => tends.spread fun stream old => .inr ⟨old, id⟩
    · exact fun reason after broke calm => absurd calm broke
  | addStream graph =>
    refine (meets_addStream_of patient.toSteady.paced (survives_tends code nofun nofun nofun)
      (survives_tends code nofun nofun nofun) (carries_forget code _ stray noStream _)
      (patient_tends code _ _ noStream).toSteady.paced graph tends).mono ?_ ?_ ?_
    · exact fun value after tends _ => tends.spread fun stream old => .inr ⟨old, id⟩
    · intro fault after tends _
      refine tends.spread fun stream either => ?_
      rcases either with old | rfl
      · exact .inr ⟨old, id⟩
      · exact .inl rfl
    · exact fun reason after tends _ => tends.spread fun stream old => .inr ⟨old, id⟩
  | removeStream stream =>
    refine (meets_removeStream_of patient.toSteady.paced
      (carries_forget code _ stray noStream stream) (carries_drain code _ _)
      (patient_tends code _ noStream noStream).toSteady.paced tends).mono ?_ ?_
      (fun _ _ impossible => impossible.elim)
    · exact fun graph after tends _ => tends.spread fun stream impossible => impossible.elim
    · exact fun fault after tends _ => tends.spread fun stream old => .inr ⟨old, id⟩
  | stop stream =>
    refine (meets_stop_of patient.stepping
      (survives_tends code (fun _ same => by cases same) nofun nofun)
      (survives_tends code nofun nofun nofun) (carries_drain code _ stray)
      (patient_tends code _ noStream noStream).toSteady.paced (survives_tends code nofun nofun nofun)
      tends).mono ?_ ?_ ?_
    · exact fun report after tends _ => tends.spread fun stream impossible => impossible.elim
    · exact fun fault after tends _ => tends.spread fun stream old => .inr ⟨old, id⟩
    · exact fun reason after tends _ => tends.spread fun stream old => .inr ⟨old, id⟩
  | _ =>
    refine (plain (fun _ => id) fun _ => id).mono ?_ ?_ ?_
    all_goals exact fun _ after tends _ => tends.spread fun stream old => .inr ⟨old, id⟩

/-! ## Histories -/

section Histories

variable {history : History σ}

/-- The tree has forgotten the stream, as it could not be attached, and since then
the queue has not been drained. -/
def History.Stray (history : History σ) (stream : StreamId) : Prop :=
  ∃ earlier episode later, history.episodes = earlier ++ episode :: later ∧
    episode.unattached? = some stream ∧ ∀ other ∈ later, ¬ other.Drained

theorem History.stray_extend {operation : Operation σ} {stream : StreamId}
    (stray : (Episode.of code operation history.host).strays history.Stray stream) :
    (history.extend code operation).Stray stream := by
  rcases stray with unattached | ⟨⟨earlier, episode, later, split, unattached, quiet⟩, undrained⟩
  · exact ⟨history.episodes, _, [], rfl, unattached, fun _ member => (List.not_mem_nil member).elim⟩
  · refine ⟨earlier, episode, later ++ [Episode.of code operation history.host], ?_, unattached, ?_⟩
    · rw [History.extend, split, List.append_assoc]
      rfl
    · intro other member
      rcases List.mem_append.mp member with old | new
      · exact quiet other old
      · rw [List.mem_singleton.mp new]
        exact undrained

/-- As long as no filter has panicked, every episode is prompt, and only queries wait
that may, apart from stray streams. -/
theorem History.tended (reachable : history.Reachable code) (calm : history.host.Calm) :
    history.host.Queued history.Stray ∧ ∀ episode ∈ history.episodes, episode.Prompt := by
  refine reachable.induction (motive := fun history => history.host.Calm →
    history.host.Queued history.Stray ∧ ∀ episode ∈ history.episodes, episode.Prompt) ?_ ?_ calm
  · exact fun _ _ _ _ => ⟨fun _ member => (List.not_mem_nil member).elim,
      fun _ member => (List.not_mem_nil member).elim⟩
  · intro history operation reachable ih permits ends calm
    have earlier := (History.Leads.step operation .refl permits ends).calm calm
    obtain ⟨queued, prompt⟩ := ih earlier
    have tidies : (Episode.of code operation history.host).Tidies history.Stray :=
      Episode.of_meets (meets_tidies code (History.sound reachable)
        (History.tidy reachable earlier) queued operation) ends
    obtain ⟨now, waits⟩ := tidies calm
    refine ⟨fun item member => (waits item member).mono (fun _ => History.stray_extend) fun _ => id,
      fun episode member => ?_⟩
    rcases List.mem_append.mp member with old | new
    · exact prompt episode old
    · rw [List.mem_singleton.mp new]
      exact now

/-- **Deferred queries are answered in their own stream's start.** As long as no
filter has panicked, no query waits for a filter that is marked as started, and
queries that had waited are answered only while a start goes from its last filter
to its first notice, and only those of the filters that it started.  None of them
waits after the start. -/
theorem deferred_answers (reachable : history.Reachable code) (calm : history.host.Calm) :
    (∀ item ∈ history.host.session.waiting,
      history.host.session.tree.mark? item.2.stream item.2.filter ≠ some true) ∧
    ∀ episode ∈ history.episodes, episode.Prompt := by
  obtain ⟨queued, prompt⟩ := History.tended reachable calm
  exact ⟨fun item member marked => (queued item member).unmarked marked, prompt⟩

/-- The query of the first stream has been answered in its start. -/
theorem deferred_answers_asking :
    askingHistory.host.Calm ∧ askingHistory.host.session.waiting = [(2, gainQuery ⟨3⟩)] ∧
      askingHistory.host.session.tree.mark? ⟨3⟩ "source" ≠ some true ∧
        ∀ episode ∈ askingHistory.episodes, episode.Prompt := by
  have calm : askingHistory.host.Calm := by
    decide +kernel
  have waiting : askingHistory.host.session.waiting = [(2, gainQuery ⟨3⟩)] := by
    decide +kernel
  obtain ⟨unmarked, prompt⟩ := deferred_answers askingHistory_reachable calm
  exact ⟨calm, waiting, unmarked (2, gainQuery ⟨3⟩) (waiting ▸ List.mem_singleton_self _), prompt⟩

/-- **Waiting queries have a target.** As long as no filter has panicked, the stream
of a query that waits is attached and has the filter and the parameter, unless the
stream could not be attached and the queue has not been drained since. -/
theorem waiting_targets (reachable : history.Reachable code) (calm : history.host.Calm)
    {ticket : Nat} {query : Query} (waits : (ticket, query) ∈ history.host.session.waiting) :
    history.Stray query.stream ∨
      history.host.session.tree.Has query.stream query.filter query.parameter ∧
      ∃ graph, history.host.stream? query.stream = some graph ∧ query.filter ∈ graph.names := by
  rcases ((History.tended reachable calm).1 _ waits).there with has | stray
  · refine .inr ⟨has, (History.tidy reachable calm).attached query.stream query.filter ?_⟩
    obtain ⟨⟨entry, parameter⟩, located⟩ := has
    exact congrArg Option.isSome (ParameterTree.mark?_of_locate located)
  · exact .inl stray

/-- User code with one filter that makes a parameter and asks for it when it is
constructed, and one that cannot be constructed. -/
def hastyCode : UserCode Unit :=
  { idleCode with
    filter := fun reference function context =>
      match function, reference with
      | .construct, 0 => .ask (.create context "gain" .bool (.bool true) none) fun _ =>
          .ask (.query (gainQuery context.stream)) fun _ => .done (.ok ())
      | .construct, _ => .done (.error (.unknownFilter "sink"))
      | _, _ => .done (.ok ()) }

/-- A history in which one stream is attached and another fails to be, although its
first filter has been constructed. -/
def hastyHistory : History Unit :=
  .after hastyCode { episodes := [], host := freshHost }
    [.addStream (FilterGraph.empty.append "source" (some 0)),
      .addStream ((FilterGraph.empty.append "source" (some 0)).append "sink" (some 1))]

theorem hastyHistory_reachable : hastyHistory.Reachable hastyCode := by
  refine ⟨_, _, _, create_freshHost, History.leads_after _
    ⟨⟨⟨?_, ?attach⟩, ?_⟩, ⟨⟨?_, ?attach'⟩, ?_⟩, trivial⟩⟩
  case attach =>
    intro graph same
    cases same
    exact .add .new rfl
  case attach' =>
    intro graph same
    cases same
    exact (History.Loose.append .new rfl).append rfl
  all_goals decide +kernel

/-- The query of the stream that is attached has a target.  That of the other waits
as well, and its stream is not attached. -/
theorem waiting_targets_hasty :
    hastyHistory.host.Calm ∧
      hastyHistory.host.session.waiting = [(0, gainQuery ⟨1⟩), (1, gainQuery ⟨2⟩)] ∧
        (hastyHistory.host.session.tree.Has ⟨1⟩ "source" "gain" ∧
          ∃ graph, hastyHistory.host.stream? ⟨1⟩ = some graph ∧ "source" ∈ graph.names) ∧
        hastyHistory.Stray ⟨2⟩ ∧ hastyHistory.host.stream? ⟨2⟩ = none := by
  have calm : hastyHistory.host.Calm := by
    decide +kernel
  have waiting : hastyHistory.host.session.waiting =
      [(0, gainQuery ⟨1⟩), (1, gainQuery ⟨2⟩)] := by
    decide +kernel
  have attached : hastyHistory.episodes.map (·.unattached?) = [none, some ⟨2⟩] := by
    decide +kernel
  have absent : hastyHistory.host.stream? ⟨2⟩ = none := by
    decide +kernel
  have first : ((0 : Nat), gainQuery ⟨1⟩) ∈ hastyHistory.host.session.waiting := by simp [waiting]
  have second : ((1 : Nat), gainQuery ⟨2⟩) ∈ hastyHistory.host.session.waiting := by simp [waiting]
  refine ⟨calm, waiting, ?_, ?_, absent⟩
  · refine (waiting_targets hastyHistory_reachable calm first).resolve_left ?_
    rintro ⟨earlier, episode, later, split, failed, _⟩
    have member : some (gainQuery ⟨1⟩).stream ∈ hastyHistory.episodes.map (·.unattached?) :=
      failed ▸ List.mem_map_of_mem (split ▸ List.mem_append_right _ List.mem_cons_self)
    rw [attached] at member
    exact absurd member (by decide)
  · refine (waiting_targets hastyHistory_reachable calm second).resolve_right ?_
    rintro ⟨_, graph, there, _⟩
    rw [show (gainQuery ⟨2⟩).stream = ⟨2⟩ from rfl, absent] at there
    cases there

end Histories

end StreamControl.Host
