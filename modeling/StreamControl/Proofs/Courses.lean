import StreamControl.Proofs.Coherence

/-!
# What a host does, turn by turn

Everything an operation does is a course of turns, and there are only a few
kinds of them (`Host.Turn`): calls beside the point, attaching and detaching a
stream, loading and unloading a controller, and starts and stops, each of
which goes to its end or breaks off.  `Host.meets_perform` says which course
each operation takes, and that is the only place where the operations are
gone through one by one.

A turn keeps a host sound (`Host.Sound.turn`), so every host that comes of a
history is sound (`History.sound`), and whatever turns preserve holds in every
history (`History.Reachable.turn_induction`).
-/

set_option autoImplicit false

namespace StreamControl.Host

open StreamControl.Action Session

variable {σ : Type}

/-! ## What episodes add to the past -/

/-- A stop of a stream broke off, on its own or in a shutdown, which goes through
the streams in the order of their numbers. -/
def Episode.BrokeStop : Episode σ → StreamId → Prop
  | ⟨.stop stopped, _, .panicked _, _⟩, stream => stream = stopped
  | ⟨.shutdown, _, .panicked _, after⟩, stream => after.LeastRunning stream
  | ⟨.drop, _, .panicked _, after⟩, stream => after.LeastRunning stream
  | _, _ => False

/-- What there was to see of a start with some report. -/
def sighting (host : Host σ) (stream : StreamId) (report : StartReport) : Sighting where
  filters := ((host.stream? stream).map (·.names)).getD []
  started := report.started

/-- What has been done, after one more episode. -/
def Past.next (past : Past) (episode : Episode σ) : Past where
  saw serial stream :=
    match episode.started? with
    | some (started, _) =>
      if stream = started then serial ∈ episode.before.outline.serials else past.saw serial stream
    | none => past.saw serial stream
  seen serial stream :=
    match episode.started? with
    | some (started, report) =>
      if stream = started ∧ serial ∈ episode.before.outline.serials then
        past.seen serial stream ++ [episode.before.sighting started report]
      else past.seen serial stream
    | none => past.seen serial stream
  sawStartBreak serial stream := past.sawStartBreak serial stream ∨
    episode.brokenStart? = some stream ∧ serial ∈ episode.before.outline.serials
  sawStopBreak serial stream := past.sawStopBreak serial stream ∨
    episode.BrokeStop stream ∧ past.saw serial stream

/-- What has been done in a history. -/
def History.past (history : History σ) : Past := history.episodes.foldl Past.next .nothing

theorem History.past_extend (code : UserCode σ) (history : History σ) (operation : Operation σ) :
    (history.extend code operation).past =
      history.past.next (Episode.of code operation history.host) := by
  rw [History.past, History.extend, List.foldl_append]
  rfl

/-- An episode in which nothing started or broke off adds nothing. -/
theorem Past.next_eq {past : Past} {episode : Episode σ} (started : episode.started? = none)
    (brokenStart : episode.brokenStart? = none) (brokenStop : ∀ stream, ¬ episode.BrokeStop stream) :
    past.next episode = past := by
  simp only [Past.next, started, brokenStart, brokenStop, reduceCtorEq, false_and, or_false]

theorem Past.next_start (past : Past) (stream : StreamId) (report : StartReport)
    (before after : Host σ) :
    past.next ⟨.start stream, before, .returned report, after⟩ =
      past.start before.outline.serials stream (before.sighting stream report) := by
  simp only [Past.next, Past.start, Episode.started?, Episode.brokenStart?, Episode.BrokeStop,
    reduceCtorEq, false_and, or_false]

theorem Past.next_breakStart (past : Past) (stream : StreamId) (reason : String)
    (before after : Host σ) :
    past.next ⟨.start stream, before, .panicked reason, after⟩ =
      past.breakStart before.outline.serials stream := by
  simp only [Past.next, Past.breakStart, Episode.started?, Episode.brokenStart?,
    Episode.BrokeStop, Option.some.injEq, false_and, or_false, eq_comm]

theorem Past.next_breakStop (past : Past) {episode : Episode σ} {stream : StreamId}
    (started : episode.started? = none) (brokenStart : episode.brokenStart? = none)
    (brokenStop : ∀ other, episode.BrokeStop other ↔ other = stream) :
    past.next episode = past.breakStop stream := by
  simp only [Past.next, Past.breakStop, started, brokenStart, brokenStop, reduceCtorEq, false_and,
    or_false]

/-! ## Turns -/

/-- Calls that belong to no controller's life with streams: those of `help`. -/
def IsBeside (visit : Visit) : Prop := ∃ serial, visit = .hook serial .help none

/-- The turns that everything a host does is made of, and what each of them
adds to what has been done.  The streams that may be attached are given. -/
inductive Turn (fresh : FilterGraph → Prop) (past : Past) (before : Host σ) :
    Past → Host σ → Prop where
  /-- Calls beside the point, if any. -/
  | quiet {visits : List Visit} {after : Host σ} (beside : ∀ visit ∈ visits, IsBeside visit)
      (turns : Turns visits before.outline before after) : Turn fresh past before past after
  /-- A change that shows neither in the outline nor in the journal. -/
  | aside {after : Host σ} (shape : after.outline = before.outline)
      (journal : after.session.journal = before.session.journal)
      (nextStream : after.nextStream = before.nextStream)
      (nextSerial : after.nextSerial = before.nextSerial)
      (tree : after.session.tree = before.session.tree) : Turn fresh past before past after
  /-- A controller fails to be constructed. -/
  | reject {controller : LoadedController} {after : Host σ}
      (serial : controller.serial = before.nextSerial)
      (turns : Turns (plainCall controller .construct) before.outline
        { before with nextSerial := before.nextSerial + 1 } after) : Turn fresh past before past after
  /-- A controller is loaded. -/
  | load {controller : LoadedController} {after : Host σ} (loads : Loads controller before after) :
      Turn fresh past before past after
  /-- A controller is unloaded. -/
  | unload {controller : LoadedController} {after : Host σ}
      (member : controller ∈ before.controllers) (outside : controller.activeStreams = [])
      (turns : Turns (plainCall controller .destroy) (before.outline.unloaded controller.serial)
        before after) : Turn fresh past before past after
  /-- A stream is attached. -/
  | attach {stream : StreamId} {graph : FilterGraph} {visits : List Visit} {after : Host σ}
      (new : fresh graph) (idle : graph.flow = .idle) (distinct : graph.names.Nodup)
      (numbers : Numbers stream visits (before.outline.attached stream graph) before after)
      (known : after.session.tree.Knows stream) : Turn fresh past before past after
  /-- A stream fails to be attached.  Unless a filter has panicked, the tree has
  forgotten it. -/
  | unattach {stream : StreamId} {outline : Outline} {visits : List Visit} {after : Host σ}
      (numbers : Numbers stream visits outline before after)
      (controllers : outline.controllers = before.controllers)
      (streams : outline.streams = before.streams)
      (forgotten : after.Calm → outline = before.outline.forgotten stream)
      (unknown : after.Calm → ¬ after.session.tree.Knows stream) :
      Turn fresh past before past after
  /-- A stream is detached. -/
  | detach {stream : StreamId} {graph : FilterGraph} {after : Host σ}
      (found : before.stream? stream = some graph) (idle : graph.flow = .idle)
      (detaches : Detaches stream before after) : Turn fresh past before past after
  /-- A stream is started. -/
  | start {stream : StreamId} {graph : FilterGraph} {report : StartReport}
      {results : List (FilterSlot × StartResult)} {after : Host σ}
      (found : before.stream? stream = some graph) (idle : graph.flow = .idle)
      (starts : Starts stream graph report results before after) :
      Turn fresh past before
        (past.start before.outline.serials stream (before.sighting stream report)) after
  /-- A start breaks off. -/
  | breakStart {stream : StreamId} {graph : FilterGraph} {after : Host σ}
      (found : before.stream? stream = some graph) (idle : graph.flow = .idle)
      (breaks : BreaksStart stream graph before after) :
      Turn fresh past before (past.breakStart before.outline.serials stream) after
  /-- A stream is stopped. -/
  | stop {stream : StreamId} {graph : FilterGraph} {after : Host σ}
      (found : before.stream? stream = some graph) (running : graph.flow = .running)
      (stops : Stops stream graph before after) : Turn fresh past before past after
  /-- A stop breaks off. -/
  | breakStop {stream : StreamId} {graph : FilterGraph} {after : Host σ}
      (found : before.stream? stream = some graph) (running : graph.flow = .running)
      (breaks : BreaksStop stream graph before after) :
      Turn fresh past before (past.breakStop stream) after

/-- Turns one after another. -/
inductive Course (fresh : FilterGraph → Prop) (past : Past) (before : Host σ) :
    Past → Host σ → Prop where
  /-- No turn. -/
  | refl : Course fresh past before past before
  /-- One more turn. -/
  | step {past' past'' : Past} {between after : Host σ}
      (course : Course fresh past before past' between)
      (turn : Turn fresh past' between past'' after) : Course fresh past before past'' after

section Turns

variable {fresh fresh' : FilterGraph → Prop} {past past' : Past} {host before after : Host σ}

theorem Turn.course (turn : Turn fresh past before past' after) :
    Course fresh past before past' after :=
  .step .refl turn

/-- More streams may be attached. -/
theorem Turn.mono (turn : Turn fresh past before past' after)
    (more : ∀ graph, fresh graph → fresh' graph) : Turn fresh' past before past' after := by
  cases turn with
  | quiet beside turns => exact .quiet beside turns
  | aside shape journal nextStream nextSerial tree =>
    exact .aside shape journal nextStream nextSerial tree
  | reject serial turns => exact .reject serial turns
  | load loads => exact .load loads
  | unload member outside turns => exact .unload member outside turns
  | attach new idle distinct numbers known => exact .attach (more _ new) idle distinct numbers known
  | unattach numbers controllers streams forgotten unknown =>
    exact .unattach numbers controllers streams forgotten unknown
  | detach found idle detaches => exact .detach found idle detaches
  | start found idle starts => exact .start found idle starts
  | breakStart found idle breaks => exact .breakStart found idle breaks
  | stop found running stops => exact .stop found running stops
  | breakStop found running breaks => exact .breakStop found running breaks

theorem Sound.turn (sound : Sound past before) (turn : Turn fresh past before past' after) :
    Sound past' after := by
  cases turn with
  | quiet _ turns => exact sound.quiet turns
  | aside shape journal nextStream nextSerial =>
    exact sound.aside shape journal nextStream nextSerial
  | reject _ turns => exact sound.takeSerial.quiet turns
  | load loads => exact sound.load loads
  | unload _ _ turns => exact sound.unload turns
  | attach _ idle _ numbers => exact sound.attach idle numbers
  | unattach numbers controllers streams => exact sound.unattach numbers controllers streams
  | detach found idle detaches => exact sound.detach found idle detaches
  | start found _ starts => exact sound.start found starts _
  | breakStart found idle breaks => exact sound.breakStart found idle breaks
  | stop _ _ stops => exact sound.stop stops
  | breakStop found running breaks => exact sound.breakStop ((runs_iff found).mpr running) breaks

theorem Course.sound (course : Course fresh past before past' after) (sound : Sound past before) :
    Sound past' after := by
  induction course with
  | refl => exact sound
  | step _ turn ih => exact ih.turn turn

/-! ## What turns leave alone -/

/-- Serial numbers only grow, and a controller that was not there before has a
new one. -/
theorem Turn.serials (turn : Turn fresh past before past' after) :
    before.nextSerial ≤ after.nextSerial ∧ ∀ serial ∈ after.outline.serials,
      serial ∈ before.outline.serials ∨ before.nextSerial ≤ serial := by
  have unchanged (next : after.nextSerial = before.nextSerial)
      (serials : after.outline.serials = before.outline.serials) :
      before.nextSerial ≤ after.nextSerial ∧ ∀ serial ∈ after.outline.serials,
        serial ∈ before.outline.serials ∨ before.nextSerial ≤ serial :=
    ⟨Nat.le_of_eq next.symm, fun serial member => .inl (serials ▸ member)⟩
  cases turn with
  | quiet _ turns => exact unchanged turns.nextSerial (congrArg Outline.serials turns.shape)
  | aside shape _ _ nextSerial => exact unchanged nextSerial (congrArg Outline.serials shape)
  | reject _ turns =>
    rw [turns.nextSerial, turns.shape]
    exact ⟨Nat.le_succ _, fun serial member => .inl member⟩
  | load loads =>
    rw [loads.turns.nextSerial, loads.turns.shape]
    refine ⟨Nat.le_succ _, fun serial member => ?_⟩
    rw [Outline.serials, Outline.loaded, List.map_append] at member
    rcases List.mem_append.mp member with old | new
    · exact .inl old
    · rw [List.map_singleton, List.mem_singleton, loads.serial] at new
      exact .inr (Nat.le_of_eq new.symm)
  | unload _ _ turns =>
    rw [turns.nextSerial, turns.shape]
    exact ⟨Nat.le_refl _, fun serial member => .inl ((List.filter_sublist.map _).subset member)⟩
  | attach _ _ _ numbers =>
    exact unchanged numbers.nextSerial
      (congrArg (fun outline => outline.controllers.map (·.serial)) numbers.shape)
  | unattach numbers controllers _ =>
    exact unchanged numbers.nextSerial
      ((congrArg (fun outline => outline.controllers.map (·.serial)) numbers.shape).trans
        (congrArg (List.map (·.serial)) controllers))
  | detach _ _ detaches =>
    exact unchanged detaches.nextSerial
      (congrArg (fun outline => outline.controllers.map (·.serial)) detaches.shape)
  | start _ _ starts => exact unchanged starts.turns.nextSerial (serials_of_step starts.controllers)
  | breakStart _ _ breaks =>
    obtain ⟨_, _, _, _, turns⟩ := breaks.turns
    exact unchanged turns.nextSerial (serials_of_step breaks.controllers)
  | stop _ _ stops =>
    obtain ⟨_, _, turns⟩ := stops.turns
    exact unchanged turns.nextSerial (serials_of_step stops.controllers)
  | breakStop _ _ breaks =>
    obtain ⟨_, _, _, _, turns⟩ := breaks.turns
    exact unchanged turns.nextSerial (serials_of_step breaks.controllers)

/-- A stream comes to run only in a start, which needs every controller to be able
to begin a cycle, and which every controller sees. -/
theorem Turn.runs (sound : Sound past before) (turn : Turn fresh past before past' after)
    {stream : StreamId} (running : after.Runs stream) :
    before.Runs stream ∨ before.ReadyFor stream ∧
      ∀ serial, past'.saw serial stream ↔ serial ∈ before.outline.serials := by
  cases turn with
  | quiet _ turns => exact .inl (runs_of_streams (congrArg Outline.streams turns.shape) ▸ running)
  | aside shape => exact .inl (runs_of_streams (congrArg Outline.streams shape) ▸ running)
  | reject _ turns => exact .inl (runs_of_streams (congrArg Outline.streams turns.shape) ▸ running)
  | load loads =>
    exact .inl (runs_of_streams (congrArg Outline.streams loads.turns.shape) ▸ running)
  | unload _ _ turns =>
    exact .inl (runs_of_streams (congrArg Outline.streams turns.shape) ▸ running)
  | attach _ idle _ numbers =>
    have still := not_runs_of_unattached (sound.unattached numbers.number)
    rw [runs_of_replaced numbers.stream?_attached still fun _ same => by cases same; exact idle]
      at running
    exact .inl running
  | unattach numbers _ streams =>
    have still := not_runs_of_unattached (sound.unattached numbers.number)
    rw [runs_of_replaced (sound.stream?_unattached numbers streams) still fun _ same => nomatch same]
      at running
    exact .inl running
  | detach found idle detaches =>
    rw [runs_of_replaced detaches.stream? (not_runs_of_idle found idle) fun _ same => nomatch same]
      at running
    exact .inl running
  | start found _ starts =>
    rcases (starts.runs found stream).mp running with rfl | earlier
    · exact .inr ⟨starts.ready, fun serial => by simp only [Past.start, if_true]⟩
    · exact .inl earlier
  | breakStart _ _ breaks => exact .inl ((breaks.runs stream).mp running)
  | stop _ _ stops => exact .inl ((stops.runs stream).mp running).1
  | breakStop _ _ breaks => exact .inl ((breaks.runs stream).mp running)

theorem Turn.sawStopBreak (turn : Turn fresh past before past' after) {serial : Nat} {stream : StreamId}
    (broke : past.sawStopBreak serial stream) : past'.sawStopBreak serial stream := by
  cases turn with
  | breakStop => exact .inl broke
  | _ => exact broke

theorem Course.sawStopBreak (course : Course fresh past before past' after) {serial : Nat}
    {stream : StreamId} (broke : past.sawStopBreak serial stream) :
    past'.sawStopBreak serial stream := by
  induction course with
  | refl => exact broke
  | step _ turn ih => exact turn.sawStopBreak ih

theorem Course.serials (course : Course fresh past before past' after) :
    before.nextSerial ≤ after.nextSerial ∧ ∀ serial ∈ after.outline.serials,
      serial ∈ before.outline.serials ∨ before.nextSerial ≤ serial := by
  induction course with
  | refl => exact ⟨Nat.le_refl _, fun _ => .inl⟩
  | step _ turn ih =>
    obtain ⟨grown, among⟩ := turn.serials
    refine ⟨Nat.le_trans ih.1 grown, fun serial member => ?_⟩
    rcases among serial member with there | new
    · exact ih.2 serial there
    · exact .inr (Nat.le_trans ih.1 new)

end Turns

/-! ## The course of each operation -/

variable {past : Past} {host : Host σ}

/-- The least running stream is one stream. -/
theorem LeastRunning.eq_iff {stream : StreamId} (least : host.LeastRunning stream)
    (other : StreamId) : host.LeastRunning other ↔ other = stream := by
  constructor
  · intro too
    exact Std.le_antisymm (too.2 stream least.1) (least.2 other too.1)
  · rintro rfl
    exact least

/-- A shutdown is a course of stops and unloads. -/
theorem withstands_course (code : UserCode σ) (fresh : FilterGraph → Prop) {before : Host σ}
    (sound : Sound past before) :
    Withstands code (Course fresh past before past)
      (fun stream => Course fresh past before (past.breakStop stream)) where
  quiet course turns := course.step (.quiet (fun _ member => (List.not_mem_nil member).elim) turns)
  note course := course.step (.aside rfl rfl rfl rfl rfl)
  close course := course.step (.aside rfl rfl rfl rfl rfl)
  closeBroken course := course.step (.aside rfl rfl rfl rfl rfl)
  stop stream course := by
    have still := course.sound sound
    refine (meets_stop code stream still.nodup (still.knowsSlots stream)).mono ?_ ?_ ?_
    · rintro _ after ⟨graph, found, running, stops⟩
      exact ⟨course.step (.stop found running stops), stops.runs⟩
    · exact fun _ _ refused => refused
    · rintro _ after ⟨graph, found, running, breaks⟩
      exact ⟨course.step (.breakStop found running breaks), (runs_iff found).mpr running,
        breaks.runs⟩
  unload name course := by
    have still := course.sound sound
    refine (meets_unload code name still.nodup still.destroyable).mono ?_ ?_ (fun _ _ h => h)
    · rintro _ after ⟨controller, loaded, outside, turns⟩
      exact course.step (.unload (List.mem_of_find?_eq_some loaded) outside turns)
    · rintro _ _ ⟨rfl, _⟩
      exact course

/-- Whether an operation is to attach a stream. -/
def Operation.Attaches (operation : Operation σ) (graph : FilterGraph) : Prop :=
  operation = .addStream graph

/-- An episode takes a course from what was done before it to what has been done
after it, and a stop that broke off leaves the stream running. -/
structure Episode.Follows (past : Past) (episode : Episode σ) : Prop where
  /-- Its course, on which no other stream is attached than the operation attaches. -/
  course : Course episode.operation.Attaches past episode.before (past.next episode)
    episode.after
  /-- What a broken stop leaves. -/
  broken : ∀ stream, episode.BrokeStop stream → episode.after.Runs stream

theorem Episode.follows_of_plain {episode : Episode σ}
    (course : Course episode.operation.Attaches past episode.before past episode.after)
    (started : episode.started? = none)
    (brokenStart : episode.brokenStart? = none) (brokenStop : ∀ stream, ¬ episode.BrokeStop stream) :
    episode.Follows past where
  course := by
    rw [Past.next_eq started brokenStart brokenStop]
    exact course
  broken stream broke := absurd broke (brokenStop stream)

theorem Episode.follows_of_brokenStop {episode : Episode σ} {stream : StreamId}
    (course : Course episode.operation.Attaches past episode.before (past.breakStop stream)
      episode.after)
    (running : episode.after.Runs stream) (started : episode.started? = none)
    (brokenStart : episode.brokenStart? = none)
    (brokenStop : ∀ other, episode.BrokeStop other ↔ other = stream) : episode.Follows past where
  course := by
    rw [Past.next_breakStop past started brokenStart brokenStop]
    exact course
  broken other broke := by
    rw [(brokenStop other).mp broke]
    exact running

/-- **Every operation takes a course of turns**, whatever it comes to. -/
theorem meets_perform (code : UserCode σ) (sound : Sound past host) (operation : Operation σ)
    (idle : ∀ graph, operation = .addStream graph → graph.flow = .idle) :
    Action.Meets (operation.perform code) host
      (fun value after => Episode.Follows past ⟨operation, host, .returned value, after⟩)
      (fun fault after => Episode.Follows past ⟨operation, host, .refused fault, after⟩)
      (fun reason after => Episode.Follows past ⟨operation, host, .panicked reason, after⟩) := by
  have silent : ∀ visit ∈ ([] : List Visit), IsBeside visit :=
    fun _ member => (List.not_mem_nil member).elim
  cases operation with
  | addStream graph =>
    refine (meets_addStream code graph host).mono ?_ ?_ ?_
    · rintro stream after ⟨distinct, known, numbers⟩
      exact Episode.follows_of_plain
        (Turn.course (.attach rfl (idle graph rfl) distinct numbers known)) rfl rfl fun _ => id
    · rintro fault after ⟨stream, visits, unknown, numbers⟩
      exact Episode.follows_of_plain
        (Turn.course (.unattach numbers rfl rfl (fun _ => rfl) fun _ => unknown)) rfl rfl
        fun _ => id
    · rintro reason after (⟨_, rfl⟩ | ⟨stream, names, visits, filter, member, numbers⟩)
      · exact Episode.follows_of_plain .refl rfl rfl fun _ => id
      · have alarmed := not_calm_of_mem numbers.wrote member
        exact Episode.follows_of_plain (Turn.course (.unattach numbers rfl rfl
          (fun calm => absurd calm alarmed) fun calm => absurd calm alarmed)) rfl rfl fun _ => id
  | removeStream stream =>
    refine (meets_removeStream code stream host).mono ?_ ?_ (fun _ _ h => h.elim)
    · rintro graph after ⟨found, flow, detaches⟩
      exact Episode.follows_of_plain (Turn.course (.detach found flow detaches)) rfl rfl fun _ => id
    · rintro fault _ rfl
      exact Episode.follows_of_plain .refl rfl rfl fun _ => id
  | load path requested module arguments =>
    refine (meets_load code path requested module arguments host).mono ?_ ?_ (fun _ _ h => h.elim)
    · rintro name after ⟨controller, _, loads⟩
      exact Episode.follows_of_plain (Turn.course (.load loads)) rfl rfl fun _ => id
    · rintro fault after (rfl | ⟨controller, serial, turns⟩)
      · exact Episode.follows_of_plain .refl rfl rfl fun _ => id
      · exact Episode.follows_of_plain (Turn.course (.reject serial turns)) rfl rfl fun _ => id
  | unload name =>
    refine (meets_unload code name sound.nodup sound.destroyable).mono ?_ ?_ (fun _ _ h => h.elim)
    · rintro _ after ⟨controller, loaded, outside, turns⟩
      have member := List.mem_of_find?_eq_some loaded
      exact Episode.follows_of_plain (Turn.course (.unload member outside turns)) rfl rfl
        fun _ => id
    · rintro fault _ ⟨rfl, _⟩
      exact Episode.follows_of_plain .refl rfl rfl fun _ => id
  | start stream =>
    refine (meets_start code stream sound.nodup (sound.knowsSlots stream)
      (sound.decided stream)).mono ?_ ?_ ?_
    · rintro report after ⟨graph, results, found, flow, starts⟩
      refine ⟨?_, fun _ => False.elim⟩
      rw [Past.next_start]
      exact Turn.course (.start found flow starts)
    · rintro fault after turns
      exact Episode.follows_of_plain (Turn.course (.quiet silent turns)) rfl rfl fun _ => id
    · rintro reason after ⟨graph, found, flow, breaks⟩
      refine ⟨?_, fun _ => False.elim⟩
      rw [Past.next_breakStart]
      exact Turn.course (.breakStart found flow breaks)
  | stop stream =>
    refine (meets_stop code stream sound.nodup (sound.knowsSlots stream)).mono ?_ ?_ ?_
    · rintro report after ⟨graph, found, running, stops⟩
      exact Episode.follows_of_plain (Turn.course (.stop found running stops)) rfl rfl fun _ => id
    · rintro fault _ ⟨rfl, _⟩
      exact Episode.follows_of_plain .refl rfl rfl fun _ => id
    · rintro reason after ⟨graph, found, running, breaks⟩
      exact Episode.follows_of_brokenStop (Turn.course (.breakStop found running breaks))
        ((breaks.runs stream).mpr ((runs_iff found).mpr running)) rfl rfl fun _ => Iff.rfl
  | shutdown =>
    have withstands := withstands_course code (Operation.shutdown : Operation σ).Attaches sound
    refine (withstands.meets_shutdown .refl).mono ?_ (fun _ _ h => h.elim) ?_
    · intro _ after course
      exact Episode.follows_of_plain course rfl rfl fun _ => id
    · rintro reason after ⟨stream, least, course⟩
      exact Episode.follows_of_brokenStop course least.1 rfl rfl least.eq_iff
  | drop =>
    have withstands := withstands_course code (Operation.drop : Operation σ).Attaches sound
    refine (withstands.meets_drop .refl).mono ?_ (fun _ _ h => h.elim) ?_
    · intro _ after course
      exact Episode.follows_of_plain course rfl rfl fun _ => id
    · rintro reason after ⟨stream, least, course⟩
      exact Episode.follows_of_brokenStop course least.1 rfl rfl least.eq_iff
  | help name =>
    refine (meets_help code name host).mono ?_ (fun _ _ h => h.elim) (fun _ _ h => h.elim)
    rintro text after ⟨visits, beside, turns⟩
    exact Episode.follows_of_plain (Turn.course (.quiet beside turns)) rfl rfl fun _ => id
  | outside program =>
    refine (meets_outside code program host).mono ?_ (fun _ _ h => h.elim) ?_
    · intro _ after turns
      exact Episode.follows_of_plain (Turn.course (.quiet silent turns)) rfl rfl fun _ => id
    · intro reason after turns
      exact Episode.follows_of_plain (Turn.course (.quiet silent turns)) rfl rfl fun _ => id
  | listen change =>
    exact Episode.follows_of_plain (Turn.course (.aside rfl rfl rfl rfl rfl)) rfl rfl fun _ => id

/-! ## Streams in nobody's hands -/

/-- The episodes of a history are those that its operations make. -/
theorem History.episode_of {code : UserCode σ} {history : History σ}
    (reachable : history.Reachable code) :
    ∀ episode ∈ history.episodes, ∃ operation host, episode = Episode.of code operation host := by
  refine reachable.induction (motive := fun history => ∀ episode ∈ history.episodes,
    ∃ operation host, episode = Episode.of code operation host)
    (fun _ _ _ _ member => (List.not_mem_nil member).elim) ?_
  intro history operation _ ih _ _ episode member
  rcases List.mem_append.mp member with old | new
  · exact ih episode old
  · exact ⟨operation, history.host, List.mem_singleton.mp new⟩

/-- A stream that is detached was attached, and did not run. -/
theorem Episode.of_detached {code : UserCode σ} {operation : Operation σ} {host : Host σ}
    {graph : FilterGraph} (detached : (Episode.of code operation host).detached? = some graph) :
    ∃ stream, host.stream? stream = some graph ∧ graph.flow = .idle := by
  cases operation with
  | removeStream stream =>
    have meets := meets_removeStream code stream host
    simp only [Episode.of, Operation.perform] at detached
    cases run : removeStream code stream host with
    | mk ending after =>
      rw [run] at detached
      cases ending with
      | returned result =>
        cases detached
        obtain ⟨attached, idle, _⟩ := meets.of_returned run
        exact ⟨stream, attached, idle⟩
      | refused fault => cases detached
      | panicked reason => cases detached
      | exhausted => cases detached
  | _ => cases detached

/-- A property of graphs that does not depend on links, and that adding filters
keeps. -/
structure Buildable (P : FilterGraph → Prop) : Prop where
  /-- A new graph has it. -/
  empty : P .empty
  /-- A filter is added. -/
  append : ∀ {graph : FilterGraph} (name : String) (code : Option CodeRef) (nextAuto : Nat),
    P graph → P { graph.append name code with nextAuto }
  /-- Filters are linked. -/
  link : ∀ {graph : FilterGraph} (links : List Link), P graph → P { graph with links }

/-- A stream in nobody's hands has such a property if those have it that were
detached. -/
theorem History.Loose.of_buildable {history : History σ} {P : FilterGraph → Prop}
    (buildable : Buildable P)
    (detached : ∀ episode ∈ history.episodes, ∀ graph, episode.detached? = some graph → P graph)
    {graph : FilterGraph} (loose : history.Loose graph) : P graph := by
  induction loose with
  | new => exact buildable.empty
  | detached member gone => exact detached _ member _ gone
  | @add graph _ name code _ _ added ih =>
    simp only [FilterGraph.add] at added
    split at added
    · cases added
    · cases added
      exact buildable.append name code graph.nextAuto ih
  | addAuto _ ih => exact buildable.append _ _ _ ih
  | link _ made ih =>
    simp only [FilterGraph.link] at made
    split at made
    · cases made
    · split at made
      · cases made
      · split at made
        · cases made
        · cases made
          exact buildable.link _ ih

/-- A stream that no host has is idle. -/
theorem History.Loose.idle {code : UserCode σ} {history : History σ}
    (reachable : history.Reachable code) {graph : FilterGraph} (loose : history.Loose graph) :
    graph.flow = .idle := by
  have idle : Buildable fun graph => graph.flow = .idle :=
    { empty := rfl, append := fun _ _ _ idle => idle, link := fun _ idle => idle }
  refine loose.of_buildable idle fun episode member graph gone => ?_
  obtain ⟨operation, host, rfl⟩ := History.episode_of reachable episode member
  obtain ⟨_, _, idle⟩ := Episode.of_detached gone
  exact idle

/-! ## Histories -/

section Histories

variable {code : UserCode σ} {history : History σ}

/-- What one more operation adds to a history whose host is sound. -/
theorem History.follows (reachable : history.Reachable code)
    (sound : Sound history.past history.host) {operation : Operation σ}
    (permits : history.Permits operation)
    (ends : (operation.perform code history.host).1 ≠ .exhausted) :
    (Episode.of code operation history.host).Follows history.past :=
  Episode.of_meets (meets_perform code sound operation fun graph same =>
    (permits.loose graph same).idle reachable) ends

/-- **Every host that comes of a history is sound** for what was done in it. -/
theorem History.sound (reachable : history.Reachable code) : Sound history.past history.host := by
  refine reachable.induction (motive := fun history => Sound history.past history.host)
    sound_onChannel ?_
  intro history operation reachable sound permits ends
  rw [History.past_extend]
  exact (History.follows reachable sound permits ends).course.sound sound

/-- **Induction over turns**: what holds of a history and is preserved by every
turn of a sound host holds of every history that it leads to. -/
theorem History.Leads.turn_induction {origin : History σ} {motive : Past → Host σ → Prop}
    (reachable : origin.Reachable code) (leads : History.Leads code origin history)
    (holds : motive origin.past origin.host)
    (turn : ∀ {past past' : Past} {before after : Host σ}, Sound past before →
      motive past before → Turn (fun _ => True) past before past' after → motive past' after) :
    motive history.past history.host := by
  induction leads with
  | refl => exact holds
  | @step history operation leads permits ends ih =>
    have reachable := reachable.leads leads
    have sound := History.sound reachable
    have course := (History.follows reachable sound permits ends).course
    have kept : ∀ {fresh : FilterGraph → Prop} {past : Past} {after : Host σ},
        Course fresh history.past history.host past after → Sound past after ∧ motive past after := by
      intro fresh past after course
      induction course with
      | refl => exact ⟨sound, ih⟩
      | step _ taken both =>
        exact ⟨both.1.turn taken, turn both.1 both.2 (taken.mono fun _ _ => trivial)⟩
    rw [History.past_extend]
    exact (kept course).2

/-- What holds of new hosts and is preserved by every turn of a sound host holds
of every history. -/
theorem History.Reachable.turn_induction {motive : Past → Host σ → Prop}
    (new : ∀ channel config memory, motive .nothing (onChannel channel config memory))
    (turn : ∀ {past past' : Past} {before after : Host σ}, Sound past before →
      motive past before → Turn (fun _ => True) past before past' after → motive past' after)
    (reachable : history.Reachable code) : motive history.past history.host := by
  obtain ⟨config, memory, host, created, leads⟩ := reachable
  refine leads.turn_induction ⟨config, memory, host, created, .refl⟩ ?_ turn
  obtain ⟨channel, rfl⟩ := History.eq_of_create created
  exact new channel config memory

/-- Which controllers saw a stream start last is what the history says. -/
theorem History.saw_iff (reachable : history.Reachable code) (serial : Nat) (stream : StreamId) :
    history.past.saw serial stream ↔ history.SawLastStart serial stream := by
  refine reachable.induction (motive := fun history =>
    history.past.saw serial stream ↔ history.SawLastStart serial stream) ?_ ?_
  · intro channel config memory
    refine ⟨False.elim, ?_⟩
    rintro ⟨_, _, impossible, _⟩
    cases impossible
  · intro history operation _ ih _ _
    rw [History.past_extend, History.SawLastStart, History.lastStart?_extend, Past.next]
    dsimp only
    cases (Episode.of code operation history.host).started? with
    | none => exact ih
    | some found =>
      obtain ⟨started, report⟩ := found
      dsimp only
      by_cases here : stream = started
      · subst here
        rw [if_pos rfl, if_pos rfl]
        constructor
        · exact fun member => ⟨history.host, report, rfl, member⟩
        · rintro ⟨_, _, same, member⟩
          cases same
          exact member
      · rw [if_neg here, if_neg (Ne.symm here)]
        exact ih

end Histories

end StreamControl.Host
