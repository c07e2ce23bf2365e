import Mathlib.Algebra.GroupWithZero.Nat
import StreamControl.Proofs.Drains
import StreamControl.Proofs.StartAndStop

/-!
# User code that only answers

Hooks, filter functions and callbacks may do nothing but answer, and always the
same when they are asked the same.  What they answer is then known beforehand
(`Verdicts`), and so is what anything comes to that a host does with them: which
value it gives, and which host is left.

The host is known but for its traces, which are the journal and the event
channel: what is written there depends on what was there before, and nothing that
is done here depends on it.  `Action.Brings` says of an action what it gives and
what state it leaves whatever the traces, and the rules that follow compute this
for calls of hooks and filter functions, which leave nothing but traces
(`Session.Notes`), for a drain of the queue (`Session.brings_drain`), and for
rounds in which controllers take a step (`Host.brings_poll`,
`Host.brings_callFilterHooks`).
-/

set_option autoImplicit false

namespace StreamControl

/-! ## Actions that leave traces -/

namespace Action

variable {σ ν α β : Type} {amid : σ → ν → σ} {before between after : σ}

/-- Whatever the traces are, an action gives a value and leaves a state, but for the traces. -/
def Brings (amid : σ → ν → σ) (before : σ) (action : Action σ α) (value : α) (after : σ) : Prop :=
  ∀ traces, ∃ traces', action (amid before traces) = (.returned value, amid after traces')

theorem brings_pure (amid : σ → ν → σ) (state : σ) (value : α) :
    Brings amid state (pure value) value state :=
  fun traces => ⟨traces, rfl⟩

theorem Brings.bind {first : Action σ α} {next : α → Action σ β} {value : α} {result : β}
    (begins : Brings amid before first value between)
    (ends : Brings amid between (next value) result after) :
    Brings amid before (first >>= next) result after := by
  intro traces
  obtain ⟨traces', run⟩ := begins traces
  obtain ⟨traces'', run'⟩ := ends traces'
  exact ⟨traces'', (bind_of_returned run).trans run'⟩

/-- The state is read, with whatever traces there are. -/
theorem brings_get {next : σ → Action σ β} {result : β}
    (ends : ∀ traces, Brings amid before (next (amid before traces)) result after) :
    Brings amid before (get >>= next) result after :=
  fun traces => ends traces traces

end Action

namespace Session

open StreamControl.Action

variable {σ α β : Type}

/-- A session with other traces. -/
def amid (session : Session σ) (traces : Journal × Broadcast Event) : Session σ :=
  { session with journal := traces.1, channel := traces.2 }

/-- An action that gives a value and only leaves traces. -/
def Notes (action : Action (Session σ) α) (value : α) : Prop :=
  ∀ session, Brings amid session action value session

theorem notes_pure (value : α) : Notes (pure value : Action (Session σ) α) value :=
  fun session => brings_pure amid session value

theorem Notes.bind {first : Action (Session σ) α} {next : α → Action (Session σ) β} {value : α}
    {result : β} (begins : Notes first value) (ends : Notes (next value) result) :
    Notes (first >>= next) result :=
  fun session => (begins session).bind (ends session)

theorem notes_record (entry : Entry) : Notes (record entry : Action (Session σ) Unit) () :=
  fun _ traces => ⟨(traces.1.push entry, traces.2), rfl⟩

theorem notes_log (level : Level) (text : String) :
    Notes (log level text : Action (Session σ) Unit) () := notes_record _

theorem notes_count (metric : Metric) (first second : String) :
    Notes (count metric first second : Action (Session σ) Unit) () := notes_record _

theorem notes_openSpan (span? : Option Span) :
    Notes (openSpan span? : Action (Session σ) Unit) () := by
  cases span? with
  | none => exact notes_pure ()
  | some span => exact notes_record _

theorem notes_emit (event : Event) : Notes (emit event : Action (Session σ) Unit) () :=
  Notes.bind (fun _ traces => ⟨(traces.1, (traces.2.send event).2), rfl⟩) (notes_record _)

/-- User code that only answers is entered and left. -/
theorem notes_call (called : Call) (succeeds : α → Bool) (result : α) :
    Notes (call called succeeds (pure result) : Action (Session σ) (Except String α))
      (.ok result) :=
  (notes_record _).bind <| .bind (notes_pure (Except.ok result)) <|
    (notes_record _).bind (notes_pure _)

theorem brings_modify {change : Session σ → Session σ} (session : Session σ)
    (apart : ∀ traces, change (session.amid traces) = (change session).amid traces) :
    Brings amid session (modify change) () (change session) :=
  fun traces => ⟨traces, congrArg (Prod.mk (Ending.returned ())) (apart traces)⟩

/-- The tree is changed as can be told beforehand. -/
theorem brings_changeTree {session : Session σ}
    {change : ParameterTree → Except Fault (α × ParameterTree)} {value : α} {tree : ParameterTree}
    (changed : change session.tree = .ok (value, tree)) :
    Brings amid session (changeTree change) value { session with tree } := by
  refine brings_get fun traces => ?_
  rw [show change (session.amid traces).tree = .ok (value, tree) from changed]
  exact fun traces => ⟨(traces.1.push (.grown tree), traces.2), rfl⟩

end Session

/-! ## What user code always answers -/

/-- The answers of callbacks, hooks and filter functions to what they are asked. -/
structure Verdicts where
  /-- What a callback answers. -/
  callback : CodeRef → Delivery → Int32
  /-- What the preStart hook of a module answers. -/
  preStart : CodeRef → HookArguments → StartDecision
  /-- What its postStart, preStop and postStop hooks answer. -/
  filterHook : CodeRef → Hook → HookArguments → HookStatus
  /-- What the start and stop functions of a filter answer. -/
  filter : CodeRef → FilterFunction → FilterContext → Except Fault Unit

/-- Whatever is called between the start of a stream and the end of its stop only answers.  A
callback can be called at all. -/
structure UserCode.Gives {σ : Type} (code : UserCode σ) (verdicts : Verdicts) : Prop where
  /-- A callback may be under way. -/
  nests : 0 < code.nesting
  /-- Callbacks only answer. -/
  callback : ∀ reference delivery,
    code.callback reference delivery = .done (verdicts.callback reference delivery)
  /-- So do preStart hooks. -/
  preStart : ∀ reference arguments,
    code.preStart reference arguments = .done (verdicts.preStart reference arguments)
  /-- So do postStart, preStop and postStop hooks. -/
  filterHook : ∀ reference hook arguments,
    code.filterHook reference hook arguments = .done (verdicts.filterHook reference hook arguments)
  /-- So do the functions that filters are started and stopped with. -/
  filter : ∀ reference function context, function ≠ .construct →
    code.filter reference function context = .done (verdicts.filter reference function context)

namespace Verdicts

variable (verdicts : Verdicts)

/-- What comes of handing a value to a callback. -/
def outcome (callback : Callback) (delivery : Delivery) : DispatchOutcome :=
  if callback.isWellFormed then .invoked (verdicts.callback callback.code delivery)
  else .mismatched callback.arity

/-- What a controller decides about a filter. -/
def decision (controller : LoadedController) (stream : StreamId) (slot : FilterSlot) :
    StartDecision :=
  if controller.module.fills .preStart then
    verdicts.preStart controller.module.code (Host.hookArguments stream slot)
  else .proceed

/-- The filters held back once a controller has been asked about one more. -/
def hold (controller : LoadedController) (stream : StreamId) (held : List Nat)
    (slot : FilterSlot) : List Nat :=
  if verdicts.decision controller stream slot = .veto ∧ slot.index ∉ held then
    held ++ [slot.index]
  else held

/-- The filters held back once controllers have been asked about all of them. -/
def held (stream : StreamId) (slots : List FilterSlot) (held : List Nat)
    (controllers : List LoadedController) : List Nat :=
  controllers.foldl (fun held controller => slots.foldl (verdicts.hold controller stream) held) held

/-- How often a hook of a controller fails for some filters. -/
def failures (hook : Hook) (stream : StreamId) (slots : List FilterSlot)
    (controller : LoadedController) : Nat :=
  if controller.module.fills hook then
    slots.countP fun slot =>
      !(verdicts.filterHook controller.module.code hook (Host.hookArguments stream slot)).isOk
  else 0

/-- What a function of a filter answers. -/
def answer (function : FilterFunction) (stream : StreamId) (slot : FilterSlot) :
    Except Fault Unit :=
  match slot.code with
  | some reference => verdicts.filter reference function { stream, filter := slot.name }
  | none => .ok ()

/-- What comes of a filter at a start. -/
def start (stream : StreamId) (held : List Nat) (slot : FilterSlot) : StartResult :=
  if slot.index ∈ held then .vetoed
  else
    match verdicts.answer .start stream slot with
    | .ok () => .started
    | .error fault => .failed fault

/-- The refusal of the stop function of a filter, if any. -/
def refusal? (stream : StreamId) (slot : FilterSlot) : Option Fault :=
  match verdicts.answer .stop stream slot with
  | .ok () => none
  | .error fault => some fault

end Verdicts

/-! ## Looking through the queue -/

namespace Session

open StreamControl.Action

variable {σ : Type} {code : UserCode σ} {verdicts : Verdicts} {session : Session σ}

theorem brings_dispatch (gives : code.Gives verdicts) (session : Session σ) (cause : Cause)
    (callback : Callback) (delivery : Delivery) :
    Brings amid session (dispatch code.callees cause callback delivery)
      (verdicts.outcome callback delivery)
      { session with tally := session.tally.add (verdicts.outcome callback delivery) } := by
  have delivered : Notes (deliver code.callees cause callback delivery)
      (verdicts.outcome callback delivery) := by
    obtain ⟨depth, deep⟩ := Nat.exists_eq_add_of_lt gives.nests
    have called : code.callees.callback callback.code delivery =
        pure (verdicts.callback callback.code delivery) := by
      rw [UserCode.callees, deep, Nat.zero_add, UserCode.calleesTo]
      dsimp only
      rw [gives.callback, Program.run]
    rw [deliver, Verdicts.outcome, called]
    split
    · exact (notes_call _ _ _).bind (notes_pure _)
    · exact (notes_record _).bind (notes_pure _)
  have reported : Brings amid session (report delivery (verdicts.outcome callback delivery)) ()
      { session with tally := session.tally.add (verdicts.outcome callback delivery) } := by
    refine (brings_modify session fun _ => rfl).bind ?_
    split
    · exact ((notes_count _ _ _).bind ((notes_log _ _).bind (notes_emit _))) _
    · refine ((notes_count _ _ _).bind ?_) _
      split
      · exact (notes_log _ _).bind (notes_emit _)
      · exact notes_pure ()
    · exact ((notes_log _ _).bind (notes_emit _)) _
  exact (delivered session).bind (reported.bind (brings_pure amid _ _))

/-- No query waits twice, and nobody has answered any of those that wait. -/
structure Unanswered (session : Session σ) (queries : List (Nat × Query)) : Prop where
  /-- Tickets tell queries apart. -/
  distinct : (queries.map (·.1)).Nodup
  /-- None has been claimed. -/
  unclaimed : ∀ item ∈ queries, item.1 ∉ session.claimed

theorem Unanswered.rest {item : Nat × Query} {queries : List (Nat × Query)}
    (unanswered : session.Unanswered (item :: queries)) : session.Unanswered queries where
  distinct := (List.nodup_cons.mp unanswered.distinct).2
  unclaimed other member := unanswered.unclaimed other (List.mem_cons_of_mem _ member)

/-- When the first query is answered, the others have still not been. -/
theorem Unanswered.claim {item : Nat × Query} {queries : List (Nat × Query)}
    (unanswered : session.Unanswered (item :: queries)) (tally : Tally) :
    ({ session with claimed := item.1 :: session.claimed, tally } : Session σ).Unanswered
      queries where
  distinct := unanswered.rest.distinct
  unclaimed other member := by
    have fresh : item.1 ∉ queries.map (·.1) := (List.nodup_cons.mp unanswered.distinct).1
    rw [List.mem_cons, not_or]
    exact ⟨fun same => fresh (same ▸ List.mem_map_of_mem (f := (·.1)) member),
      unanswered.rest.unclaimed other member⟩

theorem brings_claim {ticket : Nat} (free : ticket ∉ session.claimed) :
    Brings amid session (claim ticket) true
      { session with claimed := ticket :: session.claimed } := by
  refine brings_get fun traces => ?_
  rw [if_neg (show ticket ∉ (session.amid traces).claimed from free)]
  exact fun traces => ⟨traces, rfl⟩

/-- What the answering of the queries that are due does to the claims and the tally. -/
structure Settles (session : Session σ) (queries : List (Nat × Query)) (claimed : List Nat)
    (tally : Tally) : Prop where
  /-- Only queries that are due have been claimed. -/
  due : ∀ ticket ∈ claimed, ticket ∈ session.claimed ∨
    ∃ query, (ticket, query) ∈ queries ∧ query.ready? session.tree = some true
  /-- If none is due, nothing has changed. -/
  idle : (∀ item ∈ queries, item.2.ready? session.tree ≠ some true) →
    claimed = session.claimed ∧ tally = session.tally

/-- A query that is not due is passed over. -/
theorem Settles.pass {item : Nat × Query} {rest : List (Nat × Query)} {claimed : List Nat}
    {tally : Tally} (settles : session.Settles rest claimed tally) :
    session.Settles (item :: rest) claimed tally where
  due ticket member := (settles.due ticket member).imp_right fun ⟨query, waits, due⟩ =>
    ⟨query, List.mem_cons_of_mem _ waits, due⟩
  idle none := settles.idle fun other member => none other (List.mem_cons_of_mem _ member)

/-- A query that is due is answered. -/
theorem Settles.answer {item : Nat × Query} {queries : List (Nat × Query)} {claimed : List Nat}
    {before tally : Tally} (due : item.2.ready? session.tree = some true)
    (settles : ({ session with
      claimed := item.1 :: session.claimed
      tally := before } : Session σ).Settles queries claimed tally) :
    session.Settles (item :: queries) claimed tally where
  due ticket member := by
    rcases settles.due ticket member with before | ⟨later, waits, ready⟩
    · rcases List.mem_cons.mp before with rfl | before
      · exact .inr ⟨item.2, List.mem_cons_self, due⟩
      · exact .inl before
    · exact .inr ⟨later, List.mem_cons_of_mem _ waits, ready⟩
  idle none := absurd due (none item List.mem_cons_self)

theorem brings_sweep (gives : code.Gives verdicts) (queries : List (Nat × Query)) :
    ∀ {session : Session σ}, session.Unanswered queries →
      ∃ claimed tally, session.Settles queries claimed tally ∧
        Brings amid session (sweep code.callees queries)
          (queries.filter (·.2.ready? session.tree = some false),
            queries.countP (·.2.ready? session.tree = some true))
          { session with claimed, tally } := by
  -- Every answer changes the session, so the claim is for all sessions.
  induction queries with
  | nil =>
    intro session _
    exact ⟨session.claimed, session.tally, ⟨fun _ => .inl, fun _ => ⟨rfl, rfl⟩⟩,
      brings_pure amid session _⟩
  | cons item rest ih =>
    intro session unanswered
    obtain ⟨ticket, query⟩ := item
    have free : ticket ∉ session.claimed := unanswered.unclaimed _ List.mem_cons_self
    cases located : session.tree.locate query.stream query.filter query.parameter with
    | error fault =>
      have gone := Query.ready?_of_error located
      obtain ⟨claimed, tally, settles, brings⟩ := ih unanswered.rest
      refine ⟨claimed, tally, settles.pass, ?_⟩
      rw [List.filter_cons_of_neg (by simp [gone]), List.countP_cons_of_neg (by simp [gone]), sweep]
      refine brings_get fun traces => ?_
      rw [if_neg (show ticket ∉ (session.amid traces).claimed from free)]
      refine brings_get fun traces => ?_
      rw [show (session.amid traces).tree.locate _ _ _ = _ from located]
      exact (notes_log _ _ session).bind brings
    | ok found =>
      obtain ⟨entry, parameter⟩ := found
      have ready := Query.ready?_of_ok located
      cases started : entry.started with
      | false =>
        rw [started] at ready
        obtain ⟨claimed, tally, settles, brings⟩ := ih unanswered.rest
        refine ⟨claimed, tally, settles.pass, ?_⟩
        rw [List.filter_cons_of_pos (by simp [ready]), List.countP_cons_of_neg (by simp [ready]),
          sweep]
        refine brings_get fun traces => ?_
        rw [if_neg (show ticket ∉ (session.amid traces).claimed from free)]
        refine brings_get fun traces => ?_
        rw [show (session.amid traces).tree.locate _ _ _ = _ from located]
        dsimp only
        rw [started, if_neg Bool.false_ne_true]
        exact brings.bind (brings_pure amid _ _)
      | true =>
        rw [started] at ready
        obtain ⟨claimed, tally, settles, brings⟩ := ih (unanswered.claim (session.tally.add
          (verdicts.outcome query.callback (query.delivery parameter.value))))
        refine ⟨claimed, tally, settles.answer ready, ?_⟩
        rw [List.filter_cons_of_neg (by simp [ready]), List.countP_cons_of_pos (by simp [ready]),
          sweep]
        refine brings_get fun traces => ?_
        rw [if_neg (show ticket ∉ (session.amid traces).claimed from free)]
        refine brings_get fun traces => ?_
        rw [show (session.amid traces).tree.locate _ _ _ = _ from located]
        dsimp only
        rw [started, if_pos rfl]
        refine (brings_claim free).bind ?_
        rw [if_pos rfl]
        refine (brings_dispatch gives _ _ _ _).bind ?_
        split
        · exact (notes_log _ _ _).bind (brings.bind (brings_pure amid _ _))
        · exact brings.bind (brings_pure amid _ _)

/-- A session after a drain: the queries whose filters are not started go on waiting. -/
def drained (session : Session σ) (claimed : List Nat) (tally : Tally) : Session σ :=
  { session with
    waiting := session.waiting.filter (·.2.ready? session.tree = some false)
    claimed, tally }

/-- The queries that go on waiting have not been answered. -/
theorem Unanswered.drained (unanswered : session.Unanswered session.waiting) {claimed : List Nat}
    {tally : Tally} (settles : session.Settles session.waiting claimed tally) :
    (session.drained claimed tally).Unanswered (session.drained claimed tally).waiting where
  distinct := unanswered.distinct.sublist (List.filter_sublist.map _)
  unclaimed := by
    intro item member taken
    obtain ⟨waits, idle⟩ := List.mem_filter.mp member
    rcases settles.due item.1 taken with before | ⟨query, other, due⟩
    · exact unanswered.unclaimed item waits before
    · have same := List.inj_on_of_nodup_map unanswered.distinct waits other rfl
      rw [same, due] at idle
      cases idle

/-- **A drain, when callbacks only answer.**  The queries that are due are answered; those whose
filters are not started go on waiting; the others are dropped. -/
theorem brings_drain (gives : code.Gives verdicts) (unanswered : session.Unanswered session.waiting) :
    ∃ claimed tally, session.Settles session.waiting claimed tally ∧
      Brings amid session (drain code.callees)
        (session.waiting.countP (·.2.ready? session.tree = some true))
        (session.drained claimed tally) := by
  have takes (session : Session σ) : Brings amid session takeWaiting session.waiting
      { session with waiting := [] } :=
    brings_get fun _ => (brings_modify session fun _ => rfl).bind (brings_pure amid _ _)
  have taken : ({ session with waiting := [] } : Session σ).Unanswered session.waiting :=
    ⟨unanswered.distinct, unanswered.unclaimed⟩
  obtain ⟨claimed, tally, settles, brings⟩ := brings_sweep gives session.waiting taken
  refine ⟨claimed, tally, ⟨settles.due, settles.idle⟩, ?_⟩
  rw [drain]
  refine (takes _).bind (brings.bind ((takes _).bind ?_))
  rw [sweep]
  refine (brings_pure amid _ _).bind ((brings_modify _ fun _ => rfl).bind ?_)
  simp only [List.append_nil]
  exact brings_pure amid _ _

end Session

/-! ## Calling hooks and filter functions -/

namespace Host

open StreamControl.Action Session

variable {σ α : Type} {code : UserCode σ} {verdicts : Verdicts}

theorem notes_reportHookFailure (controller : String) (hook : Hook)
    (target : Option (StreamId × String)) (failure : Int32) :
    Notes (reportHookFailure controller hook target failure : Action (Session σ) Unit) () :=
  (notes_count _ _ _).bind ((notes_log _ _).bind (notes_emit _))

theorem notes_guarded (code : UserCode σ) (serial : Nat) (hook : Hook)
    (target : Option (StreamId × String)) (succeeds : α → Bool) (result : α) :
    Notes (guarded code serial hook target succeeds (.done result)) (some result) :=
  (notes_call _ _ _).bind (notes_pure _)

theorem notes_statusOf (code : UserCode σ) (serial : Nat) (hook : Hook)
    (target : Option (StreamId × String)) (status : HookStatus) :
    Notes (statusOf code serial hook target (.done status)) status :=
  (notes_guarded code _ _ _ _ _).bind (notes_pure _)

theorem notes_callFilterHook? (gives : code.Gives verdicts) (spans : SpanConfig)
    (controller : LoadedController) (hook : Hook) (stream : StreamId) (slots : List FilterSlot) :
    Notes (callFilterHook? code spans controller hook stream slots)
      (verdicts.failures hook stream slots controller) := by
  rw [callFilterHook?, Verdicts.failures]
  split
  · induction slots with
    | nil => exact notes_pure 0
    | cons slot rest ih =>
      rw [callFilterHook, gives.filterHook]
      refine (notes_log _ _).bind ((notes_openSpan _).bind ((notes_statusOf code _ _ _ _).bind ?_))
      cases status : verdicts.filterHook controller.module.code hook (hookArguments stream slot) with
      | ok =>
        rw [List.countP_cons_of_neg (by simp [status, HookStatus.isOk])]
        refine (notes_pure 0).bind (ih.bind ?_)
        rw [Nat.zero_add]
        exact notes_pure _
      | failed failure =>
        rw [List.countP_cons_of_pos (by simp [status, HookStatus.isOk]), Nat.add_comm]
        exact (notes_reportHookFailure _ _ _ _).bind ((notes_pure 1).bind (ih.bind (notes_pure _)))
  · exact notes_pure 0

theorem notes_askAbout (gives : code.Gives verdicts) (spans : SpanConfig)
    (controller : LoadedController) (stream : StreamId) (slot : FilterSlot) :
    Notes (askAbout code spans controller stream slot)
      (verdicts.decision controller stream slot, false) := by
  rw [askAbout, Verdicts.decision]
  refine (notes_log _ _).bind ((notes_openSpan _).bind ?_)
  split
  · rw [gives.preStart]
    exact (notes_guarded code _ _ _ _ _).bind (notes_pure _)
  · exact notes_pure _

theorem notes_askAboutAll (gives : code.Gives verdicts) (spans : SpanConfig)
    (controller : LoadedController) (stream : StreamId) (slots : List FilterSlot) :
    ∀ held, Notes (askAboutAll code spans controller stream held slots)
      (slots.foldl (verdicts.hold controller stream) held, 0) := by
  induction slots with
  | nil => exact fun held => notes_pure (held, 0)
  | cons slot rest ih =>
    intro held
    rw [askAboutAll]
    refine (notes_askAbout gives spans controller stream slot).bind ?_
    rw [List.foldl_cons, Verdicts.hold]
    dsimp only
    split
    · refine (notes_log _ _).bind ((notes_emit _).bind ((notes_pure _).bind ?_))
      exact (ih _).bind (notes_pure _)
    · exact (notes_pure held).bind ((ih _).bind (notes_pure _))

/-- A filter function that only answers does not panic. -/
theorem notes_callFilter (gives : code.Gives verdicts) {function : FilterFunction}
    (runs : function ≠ .construct) (stream : StreamId) (slot : FilterSlot) :
    Notes (callFilter code function stream slot) (verdicts.answer function stream slot) := by
  have program : filterProgram code slot.code function { stream, filter := slot.name } =
      .done (verdicts.answer function stream slot) := by
    unfold filterProgram Verdicts.answer
    cases slot.code with
    | none => rfl
    | some reference => exact gives.filter reference function _ runs
  rw [callFilter, program]
  exact (notes_call _ _ _).bind (notes_pure _)

/-! ## Hosts -/

/-- A host with other traces. -/
def amid (host : Host σ) (traces : Journal × Broadcast Event) : Host σ :=
  { host with session := host.session.amid traces }

theorem brings_onSession (host : Host σ) {action : Action (Session σ) α} {value : α}
    {session : Session σ} (brings : Brings Session.amid host.session action value session) :
    Brings amid host (onSession action) value { host with session } := by
  intro traces
  obtain ⟨traces', run⟩ := brings traces
  refine ⟨traces', ?_⟩
  rw [onSession, Action.within, show (host.amid traces).session = host.session.amid traces from rfl,
    run]
  rfl

theorem brings_note {action : Action (Session σ) α} {value : α} (notes : Notes action value)
    (host : Host σ) : Brings amid host (onSession action) value host :=
  brings_onSession host (notes host.session)

/-! ## Steps of controllers -/

/-- A host some of whose controllers have taken a step with a stream. -/
def stepped (host : Host σ) (serials : List Nat) (stream : StreamId) (target : Phase) : Host σ :=
  { host with controllers := (host.outline.step serials (some stream) target).controllers }

theorem stepped_nil (host : Host σ) (stream : StreamId) (target : Phase) :
    host.stepped [] stream target = host := by
  rw [stepped, Outline.step_nil]
  rfl

theorem stepped_stepped (host : Host σ) (first second : List Nat) (stream : StreamId)
    (target : Phase) :
    (host.stepped first stream target).stepped second stream target =
      host.stepped (first ++ second) stream target :=
  congrArg (fun outline : Outline => { host with controllers := outline.controllers })
    (host.outline.step_step first second (some stream) target)

/-- Controllers that can take a step with a stream, one after the other. -/
structure Poised (outline : Outline) (controllers : List LoadedController) (stream : StreamId)
    (target : Phase) : Prop where
  /-- Serial numbers tell controllers apart. -/
  nodup : outline.serials.Nodup
  /-- None is to take the step twice. -/
  distinct : (controllers.map (·.serial)).Nodup
  /-- All are loaded. -/
  present : ∀ controller ∈ controllers, controller.serial ∈ outline.serials
  /-- All can take the step. -/
  ready : ∀ controller ∈ outline.controllers, controller.serial ∈ controllers.map (·.serial) →
    (controller.standing (some stream)).canBecome target = true

theorem Poised.rest {outline : Outline} {controller : LoadedController}
    {rest : List LoadedController} {stream : StreamId} {target : Phase}
    (poised : Poised outline (controller :: rest) stream target) :
    Poised (outline.step [controller.serial] (some stream) target) rest stream target where
  nodup := by
    rw [Outline.serials_step]
    exact poised.nodup
  distinct := (List.nodup_cons.mp poised.distinct).2
  present other member := by
    rw [Outline.serials_step]
    exact poised.present other (List.mem_cons_of_mem _ member)
  ready := ready_step (List.nodup_cons.mp poised.distinct).1 poised.ready

theorem brings_advance {host : Host σ} {controller : LoadedController}
    {rest : List LoadedController} {stream : StreamId} {target : Phase}
    (poised : Poised host.outline (controller :: rest) stream target) :
    Brings amid host (advance controller.serial (some stream) target) ()
      (host.stepped [controller.serial] stream target) := by
  obtain ⟨current, loaded, same⟩ :=
    List.mem_map.mp (poised.present controller List.mem_cons_self)
  have allowed := poised.ready current loaded
    (List.mem_map.mpr ⟨controller, List.mem_cons_self, same.symm⟩)
  have found := find?_serial poised.nodup loaded
  rw [← same, advance]
  refine brings_get fun traces => ?_
  rw [show (host.amid traces).controllers = host.controllers from rfl, found]
  dsimp only
  rw [LoadedController.advance_eq, if_pos allowed]
  refine (brings_pure amid _ _).bind ?_
  have replaced : Brings amid host (replaceController (current.moved (some stream) target)) ()
      (host.stepped [current.serial] stream target) := by
    rw [stepped, ← map_replace poised.nodup loaded (some stream) target]
    exact fun traces => ⟨traces, rfl⟩
  exact replaced.bind (brings_note ((notes_record _).bind (notes_emit _)) _)

/-- Controllers take a step and are asked about every filter, in order. -/
theorem brings_poll (gives : code.Gives verdicts) (stream : StreamId) (slots : List FilterSlot)
    (controllers : List LoadedController) :
    ∀ (host : Host σ) (held : List Nat), Poised host.outline controllers stream .preStarted →
      Brings amid host (poll code stream slots held controllers)
        (verdicts.held stream slots held controllers, 0)
        (host.stepped (controllers.map (·.serial)) stream .preStarted) := by
  induction controllers with
  | nil =>
    intro host held _
    rw [List.map_nil, stepped_nil]
    exact brings_pure amid host _
  | cons controller rest ih =>
    intro host held poised
    rw [poll]
    refine (brings_advance poised).bind (brings_get fun traces => ?_)
    refine (brings_note (notes_askAboutAll gives _ controller stream slots held) _).bind ?_
    have later := ih (host.stepped [controller.serial] stream .preStarted)
      (slots.foldl (verdicts.hold controller stream) held) poised.rest
    rw [stepped_stepped] at later
    exact later.bind (brings_pure amid _ _)

/-- Controllers have a hook called for some filters and take a step, in order. -/
theorem brings_callFilterHooks (gives : code.Gives verdicts) (hook : Hook) (target : Phase)
    (stream : StreamId) (slots : List FilterSlot) (controllers : List LoadedController) :
    ∀ host : Host σ, Poised host.outline controllers stream target →
      Brings amid host (callFilterHooks code hook target stream slots controllers)
        (controllers.map (verdicts.failures hook stream slots)).sum
        (host.stepped (controllers.map (·.serial)) stream target) := by
  induction controllers with
  | nil =>
    intro host _
    rw [List.map_nil, List.map_nil, stepped_nil]
    exact brings_pure amid host 0
  | cons controller rest ih =>
    intro host poised
    rw [callFilterHooks]
    refine brings_get fun traces => ?_
    refine (brings_note (notes_callFilterHook? gives _ controller hook stream slots) _).bind ?_
    refine (brings_advance poised).bind ?_
    have later := ih (host.stepped [controller.serial] stream target) poised.rest
    rw [stepped_stepped] at later
    exact later.bind (brings_pure amid _ _)

end Host

end StreamControl
