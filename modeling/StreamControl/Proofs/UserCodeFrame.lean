import StreamControl.Proofs.Endings
import StreamControl.Proofs.TreeShape
import StreamControl.Session.Run

/-!
# What user code leaves alone

Hooks, callbacks, setters, filter functions and programs outside reach a session
only by requests, and answering a request may run further user code.  A property
of the session that survives every small change made on the way (`Nimble`),
every query and every new value therefore survives any program, however deep
callbacks and setters nest (`UserCode.run_keeps_of`).  The induction is made once
(`UserCode.all_calleesTo`), and used for programs of which it may be known what they
ask (`UserCode.run_keeps_asking`).  Of a property that does not depend on which
callbacks are called (`Robust`) only the queries are left to look at
(`UserCode.run_keeps`).

The first use of it is the frame of user code, `Session.Kept`: the journal
only grows, by entries of certain kinds; the shape of the parameter tree stays
as it is; and the session is neither opened nor closed.
-/

set_option autoImplicit false

namespace StreamControl

/-! ## Entries that user code writes -/

/-- Whether an event is about a query or a callback. -/
def Event.isDiagnostic : Event → Bool
  | .queryRejected .. | .signatureMismatch .. | .callbackFailed .. | .callbackPanicked .. => true
  | _ => false

namespace Entry

/-- Whether an entry is a remark on what user code does: a message, a count, or an
event about a query or a callback. -/
def isRemark : Entry → Bool
  | .message .. => true
  | .counted metric _ _ => metric ≠ .hookFailures
  | .sent event => event.isDiagnostic
  | _ => false

/-- Whether an entry can be written while user code runs, other than for an
accepted query or a change of the tree. -/
def isPlain : Entry → Bool
  | .entered (.callback (.query _) _ _) | .left (.callback (.query _) _ _) _ => false
  | .skipped (.query _) _ _ => false
  | .entered (.callback ..) | .left (.callback ..) _ | .skipped .. => true
  | .pushing .. | .pushed .. => true
  | entry => entry.isRemark

/-- Whether an entry is about an accepted query. -/
def isOfQuery : Entry → Bool
  | .accepted .. => true
  | .entered (.callback (.query _) _ _) | .left (.callback (.query _) _ _) _ => true
  | .skipped (.query _) _ _ => true
  | _ => false

/-- Whether an entry shows a change of the tree. -/
def isGrown : Entry → Bool
  | .grown _ => true
  | _ => false

/-- Whether an entry can be written while user code runs. -/
def isInner (entry : Entry) : Bool := entry.isPlain || entry.isOfQuery || entry.isGrown

theorem isPlain_of_isRemark {entry : Entry} (remark : entry.isRemark = true) :
    entry.isPlain = true := by
  cases entry <;> first | exact remark | cases remark

theorem isGrown_of_isRemark {entry : Entry} (remark : entry.isRemark = true) :
    entry.isGrown = false := by
  cases entry <;> first | rfl | cases remark

theorem isGrown_of_isOfQuery {entry : Entry} (ofQuery : entry.isOfQuery = true) :
    entry.isGrown = false := by
  cases entry <;> first | rfl | cases ofQuery

theorem isInner_of_isPlain {entry : Entry} (plain : entry.isPlain = true) :
    entry.isInner = true := by
  rw [isInner, plain, Bool.true_or, Bool.true_or]

theorem isInner_of_isOfQuery {entry : Entry} (ofQuery : entry.isOfQuery = true) :
    entry.isInner = true := by
  rw [isInner, ofQuery, Bool.or_true, Bool.true_or]

end Entry

/-- The stream that user code queries, or changes something in, with a request; none if it
only reads what is there. -/
def Request.target? : Request → Option StreamId
  | .query asked => some asked.stream
  | .push owner _ _ | .create owner _ _ _ _ => some owner.stream
  | .set stream _ _ _ _ | .subscribe stream _ _ _ _ _ _ => some stream
  | .value .. | .declaredType .. | .started .. | .subscriptionCount .. | .select _ | .describe => none

/-- What a request adds to the tree. -/
inductive Request.Adds : Request → ParameterTree → ParameterTree → Prop where
  /-- A parameter. -/
  | create {before after : ParameterTree} {owner : FilterContext} {name : String}
      {type : ValueType} {initial : Value} {setter : Option CodeRef}
      (created : before.create owner.stream owner.filter name type initial setter = .ok after) :
      Adds (.create owner name type initial setter) before after
  /-- Subscriptions. -/
  | subscribe {before after : ParameterTree} {stream : StreamId} {filter : String}
      {name : Option String} {type : ValueType} {callback : Callback} {context : UserContext}
      {flags : SubscribeFlags} {made : Nat}
      (subscribed : before.subscribe stream filter name type callback context flags =
        .ok (made, after)) :
      Adds (.subscribe stream filter name type callback context flags) before after

theorem Request.Adds.addition {request : Request} {before after : ParameterTree}
    (adds : request.Adds before after) : before.Addition after := by
  cases adds with
  | create created => exact .create created
  | subscribe subscribed => exact .subscribe subscribed

/-- What a request adds, it adds to the stream that it is about. -/
theorem Request.Adds.sameBut {request : Request} {before after : ParameterTree}
    (adds : request.Adds before after) :
    ∃ stream, request.target? = some stream ∧ before.SameBut stream after := by
  cases adds with
  | create created => exact ⟨_, rfl, ParameterTree.sameBut_create created⟩
  | subscribe subscribed => exact ⟨_, rfl, ParameterTree.sameBut_subscribe subscribed⟩

/-- Whether a value is handed to a callback for something else than a query. -/
def Cause.isPlain : Cause → Bool
  | .query _ => false
  | _ => true

namespace Session

open StreamControl.Action

variable {σ α : Type} {P : Session σ → Prop} {refusal panic : Prop}

/-- A property of sessions that neither messages nor the memory affect. -/
structure Mild (P : Session σ → Prop) : Prop where
  /-- Writing a message. -/
  message : ∀ {session : Session σ} (level : Level) (text : String), P session →
    P { session with journal := session.journal.push (.message level text) }
  /-- Changing the memory. -/
  memory : ∀ {session : Session σ} (memory : σ), P session → P { session with memory }

/-- A property of sessions that nothing affects that concerns neither queries nor new
values nor callbacks. -/
structure Nimble (P : Session σ → Prop) : Prop extends Mild P where
  /-- Adding to the tree. -/
  add : ∀ {session : Session σ} {tree : ParameterTree}, session.tree.Addition tree → P session →
    P { session with tree, journal := session.journal.push (.grown tree) }

/-- A property of sessions that remarks on what user code does do not affect. -/
structure Pliant (P : Session σ → Prop) : Prop extends Mild P where
  /-- Writing a remark. -/
  remark : ∀ {session : Session σ} {entry : Entry}, entry.isRemark = true → P session →
    P { session with journal := session.journal.push entry }
  /-- Counting an outcome. -/
  tally : ∀ {session : Session σ} (tally : Tally), P session → P { session with tally }
  /-- Sending an event. -/
  channel : ∀ {session : Session σ} (channel : Broadcast Event), P session →
    P { session with channel }
  message := fun _ _ => remark rfl

/-- A property of sessions that small changes do not affect, apart from those that
belong to a new value and to handing it to callbacks. -/
structure Limber (P : Session σ → Prop) : Prop extends Pliant P, Nimble P

/-- A property of sessions that small changes do not affect. -/
structure Robust (P : Session σ → Prop) : Prop extends Limber P where
  /-- Writing a plain entry. -/
  record : ∀ {session : Session σ} {entry : Entry}, entry.isPlain = true → P session →
    P { session with journal := session.journal.push entry }
  /-- Changing the tree as user code can. -/
  edit : ∀ {session : Session σ} {tree : ParameterTree}, session.tree.Edit tree → P session →
    P { session with tree, journal := session.journal.push (.grown tree) }
  remark := fun isRemark => record (Entry.isPlain_of_isRemark isRemark)
  add := fun addition => edit addition.edit

/-! ## Small actions -/

theorem keeps_record {entry : Entry}
    (step : ∀ session, P session → P { session with journal := session.journal.push entry }) :
    Keeps P refusal panic (record entry : Action (Session σ) Unit) := keeps_modify step

/-- A change of the tree is made, and noted, unless it is refused. -/
theorem meets_changeTree {change : ParameterTree → Except Fault (α × ParameterTree)}
    {session : Session σ} {returns : α → Session σ → Prop} {refuses : Fault → Session σ → Prop}
    {panics : String → Session σ → Prop} :
    (changeTree change).Meets session returns refuses panics ↔
      match change session.tree with
      | .ok (result, tree) =>
        returns result { session with tree, journal := session.journal.push (.grown tree) }
      | .error fault => refuses fault session := by
  rw [changeTree, meets_bind, meets_get, meets_bind, meets_ofExcept]
  cases change session.tree <;> exact Iff.rfl

theorem meets_changeTree_unit {change : ParameterTree → Except Fault ParameterTree}
    {session : Session σ} {returns : Unit → Session σ → Prop} {refuses : Fault → Session σ → Prop}
    {panics : String → Session σ → Prop} :
    (changeTree fun tree => ((), ·) <$> change tree).Meets session returns refuses panics ↔
      match change session.tree with
      | .ok tree => returns () { session with tree, journal := session.journal.push (.grown tree) }
      | .error fault => refuses fault session := by
  rw [meets_changeTree]
  cases change session.tree <;> exact Iff.rfl

/-- A change of the tree keeps what its being made keeps. -/
theorem keeps_changeTree {change : ParameterTree → Except Fault (α × ParameterTree)}
    (made : ∀ (session : Session σ) result tree, change session.tree = .ok (result, tree) →
      P session → P { session with tree, journal := session.journal.push (.grown tree) }) :
    Keeps P True panic (changeTree change : Action (Session σ) α) := by
  intro session holds
  rw [meets_changeTree]
  split
  · rename_i result tree changed
    exact made session result tree changed holds
  · exact ⟨trivial, holds⟩

theorem keeps_readTree (read : ParameterTree → Except Fault α) :
    Keeps P True panic (readTree read : Action (Session σ) α) :=
  keeps_get.bind fun _ => keeps_ofExcept _

/-- Entering user code keeps what writing the two entries and the code itself
keep. -/
theorem keeps_call {call : Call} {succeeds : α → Bool} {body : Action (Session σ) α}
    (enter : ∀ session, P session → P { session with journal := session.journal.push (.entered call) })
    (leave : ∀ exit session, P session →
      P { session with journal := session.journal.push (.left call exit) })
    (inside : Keeps P refusal True body) : Keeps P refusal panic (Session.call call succeeds body) := by
  refine (keeps_record enter).bind fun _ => inside.contain.bind fun result => ?_
  exact (keeps_record (leave _)).bind fun _ => keeps_pure result

section Mild

variable (mild : Mild P)
include mild

theorem Mild.keeps_log (level : Level) (text : String) :
    Keeps P refusal panic (log level text : Action (Session σ) Unit) :=
  keeps_record fun _ => mild.message level text

end Mild

section Pliant

variable (pliant : Pliant P)
include pliant

theorem Pliant.keeps_count {metric : Metric} (other : metric ≠ .hookFailures)
    (first second : String) : Keeps P refusal panic (count metric first second : Action (Session σ) Unit) :=
  keeps_record fun _ => pliant.remark (by simpa [Entry.isRemark] using other)

theorem Pliant.keeps_emit {event : Event} (diagnostic : event.isDiagnostic = true) :
    Keeps P refusal panic (emit event : Action (Session σ) Unit) :=
  (keeps_modify fun _ => pliant.channel _).bind fun _ =>
    keeps_record fun _ => pliant.remark diagnostic

/-! ## Handing values to callbacks -/

theorem Pliant.keeps_report (delivery : Delivery) (outcome : DispatchOutcome) :
    Keeps P refusal panic (report delivery outcome : Action (Session σ) Unit) := by
  refine Keeps.bind (keeps_modify fun _ => pliant.tally _) fun _ => ?_
  cases outcome with
  | invoked code =>
    refine (pliant.keeps_count (by decide) _ _).bind fun _ => ?_
    split
    · exact (pliant.keeps_log _ _).bind fun _ => pliant.keeps_emit rfl
    · exact keeps_pure ()
  | mismatched found =>
    exact (pliant.keeps_count (by decide) _ _).bind fun _ =>
      (pliant.keeps_log _ _).bind fun _ => pliant.keeps_emit rfl
  | panicked => exact (pliant.keeps_log _ _).bind fun _ => pliant.keeps_emit rfl

section Deliver

variable {callees : Callees σ} {cause : Cause} {callback : Callback} {delivery : Delivery}
  {session : Session σ} {after : DispatchOutcome → Session σ → Prop}
  (inside : Keeps P False True (callees.callback callback.code delivery))
  (enter : callback.isWellFormed = true → P { session with
    journal := session.journal.push (.entered (.callback cause callback delivery)) })
  (skip : callback.isWellFormed = false → after (.mismatched callback.arity) { session with
    journal := session.journal.push (.skipped cause callback delivery) })
  (returned : ∀ (code : Int32) (session : Session σ), P session →
    after (.invoked code) { session with
      journal := session.journal.push (.left (.callback cause callback delivery)
        (if code = 0 then .succeeded else .failed)) })
  (panicked : ∀ session : Session σ, P session → after .panicked { session with
    journal := session.journal.push (.left (.callback cause callback delivery) .panicked) })
include inside enter skip returned panicked

omit pliant in
/-- Calling a callback of one session, if it can be called: a property holds while the
callback runs, and what came of it decides about the one that holds afterwards. -/
theorem meets_deliver_of :
    (deliver callees cause callback delivery).Meets session after (fun _ _ => False)
      (fun _ _ => False) := by
  rw [deliver]
  split
  · rename_i wellFormed
    simp only [Session.call, bind_assoc]
    rw [meets_bind, Session.record, meets_modify, meets_bind]
    refine (inside.contain _ (enter wellFormed)).mono ?_ (fun _ _ both => both.1)
      (fun _ _ both => both.1)
    intro result between holds
    rw [meets_bind, Session.record, meets_modify, meets_bind, meets_pure]
    cases result with
    | ok code =>
      rw [meets_pure]
      simpa only [decide_eq_true_eq] using returned code between holds
    | error reason =>
      rw [meets_pure]
      exact panicked between holds
  · rename_i malformed
    rw [meets_bind, Session.record, meets_modify, meets_pure]
    exact skip ((Bool.not_eq_true _).mp malformed)

omit pliant in
/-- Handing a value to a callback of one session: what came of it is reported, too. -/
theorem meets_dispatch_of (pliant : ∀ outcome, Pliant (after outcome)) :
    (dispatch callees cause callback delivery).Meets session after (fun _ _ => False)
      (fun _ _ => False) := by
  rw [dispatch, meets_bind]
  refine (meets_deliver_of inside enter skip returned panicked).always fun outcome between holds => ?_
  have report : Keeps (after outcome) False False (Session.report delivery outcome) :=
    (pliant outcome).keeps_report delivery outcome
  exact report.onward holds fun _ _ holds => holds

end Deliver

variable {callees : Callees σ}
  (callbacks : ∀ reference delivery, Keeps P False True (callees.callback reference delivery))

/-- Handing a value to a callback keeps what writing the entries about it and
the callback itself keep. -/
theorem Pliant.keeps_dispatch_of {cause : Cause} {callback : Callback} {delivery : Delivery}
    (inside : Keeps P False True (callees.callback callback.code delivery))
    (write : ∀ (entry : Entry) (session : Session σ),
      (entry = .entered (.callback cause callback delivery) ∨
        (∃ exit, entry = .left (.callback cause callback delivery) exit) ∨
        entry = .skipped cause callback delivery) →
      P session → P { session with journal := session.journal.push entry }) :
    Keeps P refusal panic (dispatch callees cause callback delivery) := by
  refine Keeps.bind ?_ fun outcome => (pliant.keeps_report _ _).bind fun _ => keeps_pure outcome
  rw [deliver]
  split
  · refine Keeps.bind (keeps_call ?_ ?_ (inside.mono False.elim id)) fun result => ?_
    · exact fun session => write _ session (.inl rfl)
    · exact fun exit session => write _ session (.inr (.inl ⟨exit, rfl⟩))
    · cases result <;> exact keeps_pure _
  · exact (keeps_record fun session => write _ session (.inr (.inr rfl))).bind fun _ => keeps_pure _

/-- The same of one session, in which the entry that comes first may be written. -/
theorem Pliant.meets_dispatch {cause : Cause} {callback : Callback} {delivery : Delivery}
    (inside : Keeps P False True (callees.callback callback.code delivery)) {session : Session σ}
    (enter : P { session with
      journal := session.journal.push (.entered (.callback cause callback delivery)) })
    (skip : P { session with journal := session.journal.push (.skipped cause callback delivery) })
    (leave : ∀ (exit : Exit) (session : Session σ), P session → P { session with
      journal := session.journal.push (.left (.callback cause callback delivery) exit) }) :
    (dispatch callees cause callback delivery).Meets session (fun _ => P) (fun _ _ => False)
      (fun _ _ => False) :=
  meets_dispatch_of inside (fun _ => enter) (fun _ => skip) (fun _ => leave _) (leave _)
    fun _ => pliant

end Pliant

/-! ## Requests -/

section Requests

variable {callees : Callees σ}
  (setters : ∀ address reference requested current,
    Keeps P False True (callees.setter address reference requested current))
include setters

theorem Mild.keeps_requestChange (mild : Mild P) {stream : StreamId} {filter name : String}
    (publishes : ∀ value, Keeps P True True (publish callees stream filter name value))
    (type : ValueType) (value : Value) :
    Keeps P True True (requestChange callees stream filter name type value) := by
  refine (keeps_readTree _).bind fun parameter => ?_
  split
  · split
    · exact (mild.keeps_log _ _).bind fun _ => keeps_pure false
    · refine ((setters _ _ _ _).mono False.elim id).bind fun answer => ?_
      cases answer with
      | none => exact keeps_pure false
      | some new => exact (publishes new).bind fun _ => keeps_pure true
  · exact keeps_refuse _

/-- Answering a request keeps what setters, its additions to the tree, its query and new values
in its stream keep. -/
theorem Mild.keeps_serve_of (mild : Mild P) :
    ∀ request : Request,
      (∀ {session : Session σ} {tree : ParameterTree}, request.Adds session.tree tree →
        P session → P { session with tree, journal := session.journal.push (.grown tree) }) →
      (∀ {stream : StreamId}, request.target? = some stream → ∀ filter name value,
        Keeps P True True (publish callees stream filter name value)) →
      (∀ query, request = .query query → Keeps P False True (Session.query callees query)) →
      Keeps P False True (serve callees request)
  | .query query, _, _, queries => queries query rfl
  | .push _ _ _, _, publishes, _ => (publishes rfl _ _ _).attempt
  | .create owner name type initial setter, adds, _, _ => by
    refine Keeps.attempt (Keeps.bind (keeps_changeTree fun session result after changed => ?_)
      fun _ => mild.keeps_log _ _)
    cases created : session.tree.create owner.stream owner.filter name type initial setter with
    | error fault => rw [created] at changed; cases changed
    | ok grown =>
      rw [created] at changed
      cases changed
      exact adds (.create created)
  | .set _ _ _ _ _, _, publishes, _ =>
    (mild.keeps_requestChange setters (publishes rfl _ _) _ _).attempt
  | .subscribe _ _ _ _ _ _ _, adds, _, _ =>
    (keeps_changeTree fun _ _ _ subscribed => adds (.subscribe subscribed)).attempt
  | .value _ _ _, _, _, _ => (keeps_readTree _).attempt
  | .declaredType _ _ _, _, _, _ => (keeps_readTree _).attempt
  | .started _ _, _, _, _ => (keeps_readTree _).attempt
  | .subscriptionCount _ _ _, _, _, _ => (keeps_readTree _).attempt
  | .select _, _, _, _ => keeps_get.bind fun _ => keeps_pure _
  | .describe, _, _, _ => keeps_get.bind fun _ => keeps_pure _

/-- Answering a request whose stream is allowed keeps what setters, additions to allowed streams,
queries about them and new values in them keep. -/
theorem Mild.keeps_serve (mild : Mild P) (allowed : StreamId → Prop)
    (adds : ∀ {stream : StreamId} {session : Session σ} {tree : ParameterTree}, allowed stream →
      session.tree.Addition tree → session.tree.SameBut stream tree → P session →
        P { session with tree, journal := session.journal.push (.grown tree) })
    (publishes : ∀ {stream : StreamId}, allowed stream → ∀ filter name value,
      Keeps P True True (publish callees stream filter name value))
    (queries : ∀ query : Query, allowed query.stream →
      Keeps P False True (Session.query callees query))
    (request : Request) (within : ∀ stream, request.target? = some stream → allowed stream) :
    Keeps P False True (serve callees request) := by
  refine mild.keeps_serve_of setters request ?_ (fun about => publishes (within _ about)) ?_
  · intro session tree added
    obtain ⟨stream, about, same⟩ := added.sameBut
    exact adds (within stream about) added.addition same
  · rintro query rfl
    exact queries query (within _ rfl)

/-- Answering a request keeps a nimble property, if setters, answering a query and
publishing a value do. -/
theorem Nimble.keeps_serve (nimble : Nimble P)
    (publishes : ∀ stream filter name value,
      Keeps P True True (publish callees stream filter name value))
    (queries : ∀ query, Keeps P False True (Session.query callees query)) (request : Request) :
    Keeps P False True (serve callees request) :=
  nimble.toMild.keeps_serve setters (fun _ => True) (fun _ addition _ => nimble.add addition)
    (fun _ => publishes _) (fun query _ => queries query) request fun _ _ => trivial

end Requests

/-! ## Publishing values -/

/-- The numbers of the subscriptions that are over. -/
def finishedOf (outcomes : List (Nat × DispatchOutcome)) : List Nat :=
  (outcomes.filter (·.2.endsSubscription)).map (·.1)

theorem finishedOf_cons {id : Nat} {outcome : DispatchOutcome}
    {outcomes : List (Nat × DispatchOutcome)} : finishedOf ((id, outcome) :: outcomes) =
      (if outcome.endsSubscription then [id] else []) ++ finishedOf outcomes := by
  rw [finishedOf, List.filter_cons]
  split <;> rfl

section Publish

variable {callees : Callees σ} {R : List Subscription → List Nat → Session σ → Prop}

/-- A value is handed to some subscribers, one after the other: of each turn it is known
who is still to come and who is over. -/
theorem meets_dispatchAll_of {delivery : Delivery}
    (turn : ∀ subscription rest spent (session : Session σ), R (subscription :: rest) spent session →
      (dispatch callees (.subscription subscription.id) subscription.callback
        { delivery with context := subscription.context }).Meets session
        (fun outcome => R rest (spent ++ if outcome.endsSubscription then [subscription.id] else []))
        (fun _ _ => False) (fun _ _ => False)) (subscribers : List Subscription) :
    ∀ {spent : List Nat} {session : Session σ}, R subscribers spent session →
      (dispatchAll callees delivery subscribers).Meets session
        (fun outcomes => R [] (spent ++ finishedOf outcomes)) (fun _ _ => False)
        (fun _ _ => False) := by
  induction subscribers with
  | nil =>
    intro spent session holds
    rw [dispatchAll, meets_pure, finishedOf, List.filter_nil, List.map_nil, List.append_nil]
    exact holds
  | cons subscription rest ih =>
    intro spent session holds
    rw [dispatchAll, meets_bind]
    refine (turn subscription rest spent session holds).always fun outcome between holds => ?_
    rw [meets_bind]
    refine (ih holds).always fun outcomes after holds => ?_
    rw [meets_pure, finishedOf_cons, ← List.append_assoc]
    exact holds

/-- What every turn keeps, they keep together. -/
theorem keeps_dispatchAll {delivery : Delivery}
    (turn : ∀ subscription : Subscription, Keeps P False False
      (dispatch callees (.subscription subscription.id) subscription.callback
        { delivery with context := subscription.context })) (subscribers : List Subscription) :
    Keeps P False False (dispatchAll callees delivery subscribers) := by
  induction subscribers with
  | nil => exact keeps_pure []
  | cons subscription rest ih =>
    exact (turn subscription).bind fun _ => ih.bind fun _ => keeps_pure _

/-- A value is stored, handed to the subscribers one after the other, and those that are
over are then taken out of the tree. -/
theorem keeps_publish_of {stream : StreamId} {filter name : String} {value : Value}
    (begin : ∀ (session : Session σ) subscribers tree,
      session.tree.store stream filter name value = .ok (subscribers, tree) → P session →
        R subscribers [] { session with
          tree, journal := (session.journal.push (.grown tree)).push (.pushing stream filter name) })
    (turn : ∀ subscription rest spent (session : Session σ), R (subscription :: rest) spent session →
      (dispatch callees (.subscription subscription.id) subscription.callback
        { value, stream, filter, parameter := name, context := subscription.context }).Meets session
        (fun outcome => R rest (spent ++ if outcome.endsSubscription then [subscription.id] else []))
        (fun _ _ => False) (fun _ _ => False))
    (finish : ∀ spent (session : Session σ), R [] spent session → P { session with
      tree := session.tree.unsubscribe stream filter name spent
      journal := (session.journal.push (.grown
        (session.tree.unsubscribe stream filter name spent))).push (.pushed stream filter name) }) :
    Keeps P True panic (publish callees stream filter name value) := by
  intro session holds
  rw [publish, meets_bind, meets_changeTree]
  split
  · rename_i subscribers tree stored
    rw [meets_bind, Session.record, meets_modify, meets_bind]
    refine (meets_dispatchAll_of turn subscribers
      (begin session subscribers tree stored holds)).always fun outcomes after holds => ?_
    rw [meets_bind, meets_get, meets_bind, plant, meets_modify, meets_bind, Session.record,
      meets_modify]
    exact finish _ after holds
  · exact ⟨trivial, holds⟩

/-- A property that the steps of a push keep, each by itself. -/
theorem keeps_publish_of_keeps {stream : StreamId} {filter name : String} {value : Value}
    (begin : ∀ (session : Session σ) subscribers tree,
      session.tree.store stream filter name value = .ok (subscribers, tree) → P session →
        P { session with
          tree, journal := (session.journal.push (.grown tree)).push (.pushing stream filter name) })
    (turn : ∀ subscription : Subscription, Keeps P False False
      (dispatch callees (.subscription subscription.id) subscription.callback
        { value, stream, filter, parameter := name, context := subscription.context }))
    (finish : ∀ spent (session : Session σ), P session → P { session with
      tree := session.tree.unsubscribe stream filter name spent
      journal := (session.journal.push (.grown
        (session.tree.unsubscribe stream filter name spent))).push (.pushed stream filter name) }) :
    Keeps P True panic (publish callees stream filter name value) :=
  keeps_publish_of (R := fun _ _ => P) begin
    (fun subscription _ _ _ holds => (turn subscription).always holds) finish

end Publish

/-! ## Looking through the queue -/

section Sweep

variable {callees : Callees σ}

/-- Queries are looked through one after the other: of each turn it is known which are
still to come, which go on waiting, and how many have been answered. -/
theorem meets_sweep_of {R : List (Nat × Query) → List (Nat × Query) → Nat → Session σ → Prop}
    (message : ∀ {rest still count session} level text, R rest still count session →
      R rest still count { session with journal := session.journal.push (.message level text) })
    (answered : ∀ {ticket query rest still count session}, ticket ∈ session.claimed →
      R ((ticket, query) :: rest) still count session → R rest still count session)
    (vanished : ∀ {ticket query rest still count session fault},
      session.tree.locate query.stream query.filter query.parameter = .error fault →
        R ((ticket, query) :: rest) still count session → R rest still count session)
    (due : ∀ {ticket query rest still count session entry parameter}, ticket ∉ session.claimed →
      session.tree.locate query.stream query.filter query.parameter = .ok (entry, parameter) →
        entry.started = true → R ((ticket, query) :: rest) still count session →
          (dispatch callees (.query ticket) query.callback (query.delivery parameter.value)).Meets
            { session with claimed := ticket :: session.claimed } (fun _ => R rest still (count + 1))
            (fun _ _ => False) (fun _ _ => False))
    (early : ∀ {ticket query rest still count session entry parameter}, ticket ∉ session.claimed →
      session.tree.locate query.stream query.filter query.parameter = .ok (entry, parameter) →
        ¬ entry.started = true → R ((ticket, query) :: rest) still count session →
          R rest (still ++ [(ticket, query)]) count session)
    {queries : List (Nat × Query)} {session : Session σ} (start : R queries [] 0 session) :
    (sweep callees queries).Meets session (fun result => R [] result.1 result.2) (fun _ _ => False)
      (fun _ _ => False) := by
  suffices onward : ∀ {still : List (Nat × Query)} {count : Nat} {session : Session σ},
      R queries still count session → (sweep callees queries).Meets session
        (fun result => R [] (still ++ result.1) (count + result.2)) (fun _ _ => False)
        (fun _ _ => False) from (onward start).imp fun result after holds => by
          rwa [List.nil_append, Nat.zero_add] at holds
  clear start session
  induction queries with
  | nil =>
    intro still count session holds
    rw [sweep, meets_pure, List.append_nil]
    exact holds
  | cons item rest ih =>
    intro still count session holds
    obtain ⟨ticket, query⟩ := item
    rw [sweep, meets_bind, meets_get]
    split
    · rename_i taken
      exact ih (answered taken holds)
    · rename_i free
      rw [meets_bind, meets_get]
      cases located : session.tree.locate query.stream query.filter query.parameter with
      | error fault =>
        dsimp only
        rw [meets_bind, Session.log, Session.record, meets_modify]
        exact ih (message _ _ (vanished located holds))
      | ok found =>
        obtain ⟨entry, parameter⟩ := found
        dsimp only
        split
        · rename_i started
          rw [meets_bind, claim, meets_bind, meets_get, if_neg free, meets_bind, meets_modify,
            meets_pure, if_pos rfl, meets_bind]
          refine (due free located started holds).always fun outcome after holds => ?_
          have further : ∀ {after : Session σ}, R rest still (count + 1) after →
              (sweep callees rest >>= fun result => pure (result.1, result.2 + 1)).Meets after
                (fun result => R [] (still ++ result.1) (count + result.2)) (fun _ _ => False)
                (fun _ _ => False) := fun holds =>
            meets_bind.mpr ((ih holds).imp fun result after holds => by
              rw [Nat.add_right_comm] at holds
              exact holds)
          split
          · rw [meets_bind, Session.log, Session.record, meets_modify]
            exact further (message _ _ holds)
          · exact further holds
        · rename_i idle
          rw [meets_bind]
          refine (ih (early free located idle holds)).imp fun result after holds => ?_
          rw [List.append_assoc] at holds
          exact holds

/-- A drain looks through what waits, and then through what has joined it. -/
theorem meets_drain_iff {session : Session σ} {returns : Nat → Session σ → Prop}
    {refuses : Fault → Session σ → Prop} {panics : String → Session σ → Prop} :
    (drain callees).Meets session returns refuses panics ↔
      (sweep callees session.waiting).Meets { session with waiting := [] }
        (fun first between => (sweep callees between.waiting).Meets { between with waiting := [] }
          (fun second after => returns (first.2 + second.2)
            { after with waiting := first.1 ++ second.1 ++ after.waiting }) refuses panics)
        refuses panics := by
  simp only [drain, takeWaiting, bind_assoc, meets_bind, meets_get, meets_modify, meets_pure]

end Sweep

section Robust

variable (robust : Robust P) {callees : Callees σ}
  (callbacks : ∀ reference delivery, Keeps P False True (callees.callback reference delivery))
include robust callbacks

theorem Robust.keeps_dispatch {cause : Cause} (plain : cause.isPlain = true)
    (callback : Callback) (delivery : Delivery) :
    Keeps P refusal panic (dispatch callees cause callback delivery) := by
  refine robust.keeps_dispatch_of (callbacks _ _) fun entry session about => robust.record ?_
  cases cause with
  | query ticket => cases plain
  | subscription id => rcases about with rfl | ⟨exit, rfl⟩ | rfl <;> rfl
  | direct => rcases about with rfl | ⟨exit, rfl⟩ | rfl <;> rfl

theorem Robust.keeps_publish (stream : StreamId) (filter name : String) (value : Value) :
    Keeps P True panic (publish callees stream filter name value) := by
  refine keeps_publish_of_keeps ?_ (fun _ => robust.keeps_dispatch callbacks rfl _ _) ?_
  · exact fun session _ tree stored holds => robust.record rfl (robust.edit (.store stored) holds)
  · exact fun _ session holds => robust.record rfl (robust.edit (.unsubscribe _ _ _ _) holds)

end Robust

end Session

/-! ## Programs -/

open StreamControl.Action

variable {σ α : Type} {P : Session σ → Prop}

/-- Whether every request that a program may make is allowed, whatever it finds in the
memory and whatever it is answered. -/
def Program.Asks (allowed : Request → Prop) : Program σ α → Prop
  | done _ | panic _ => True
  | inspect next => ∀ memory, (next memory).Asks allowed
  | remember _ next => next.Asks allowed
  | ask request next => allowed request ∧ ∀ answer, (next answer).Asks allowed

theorem Program.asks_of_forall {allowed : Request → Prop} (all : ∀ request, allowed request)
    (program : Program σ α) : program.Asks allowed := by
  induction program with
  | done | panic => exact trivial
  | inspect next ih => exact ih
  | remember memory next ih => exact ih
  | ask request next ih => exact ⟨all request, ih⟩

/-- Running a program keeps what answering the requests that it may make and changing the
memory keep. -/
theorem Program.Asks.run_keeps {allowed : Request → Prop} (callees : Callees σ)
    (memory : ∀ session memory, P session → P { session with memory })
    (requests : ∀ request, allowed request → Keeps P False True (Session.serve callees request))
    {program : Program σ α} (asks : program.Asks allowed) :
    Keeps P False True (program.run callees) := by
  induction program with
  | done result => exact keeps_pure result
  | panic reason => exact keeps_panic reason
  | inspect next ih => exact keeps_get.bind fun session => ih session.memory (asks session.memory)
  | remember value next ih =>
    exact (keeps_modify fun session => memory session value).bind fun _ => ih asks
  | ask request next ih =>
    exact (requests request asks.1).bind fun answer => ih answer (asks.2 answer)

section Nesting

variable (code : UserCode σ)

/-- Whether everything that can be called from within a session has a property. -/
structure Callees.All (Holds : {α : Type} → Action (Session σ) α → Prop) (callees : Callees σ) :
    Prop where
  /-- Callbacks have. -/
  callback : ∀ reference delivery, Holds (callees.callback reference delivery)
  /-- Setters have. -/
  setter : ∀ address reference requested current,
    Holds (callees.setter address reference requested current)

/-- Everything that can be called has each property of a family. -/
theorem Callees.All.each {ι : Type} {Holds : ι → {α : Type} → Action (Session σ) α → Prop}
    {callees : Callees σ} (all : callees.All fun action => ∀ index, Holds index action)
    (index : ι) : callees.All (Holds index) :=
  ⟨fun _ _ => all.callback _ _ index, fun _ _ _ _ => all.setter _ _ _ _ index⟩

/-- What callbacks and setters have if everything has it that they call in turn, they have
however deep they nest.  The induction is on the depth to which they still may, whichever
setters are being asked meanwhile. -/
theorem UserCode.all_calleesTo {Holds : {α : Type} → Action (Session σ) α → Prop}
    (exhaust : ∀ {α : Type}, Holds (exhaust : Action (Session σ) α))
    (callbacks : ∀ depth busy, (code.calleesTo depth busy).All Holds → ∀ reference delivery,
      Holds ((code.callback reference delivery).run (code.calleesTo depth busy)))
    (setters : ∀ depth busy, (code.calleesTo depth busy).All Holds →
      ∀ reference requested current,
        Holds ((code.setter reference requested current).run (code.calleesTo depth busy)))
    (depth : Nat) (busy : List Address) : (code.calleesTo depth busy).All Holds := by
  induction depth generalizing busy with
  | zero => exact ⟨fun _ _ => exhaust, fun _ _ _ _ => exhaust⟩
  | succ depth ih =>
    refine ⟨callbacks _ _ (ih busy), fun address reference requested current => ?_⟩
    rw [calleesTo]
    dsimp only
    split
    · exact exhaust
    · exact setters _ _ (ih _) reference requested current

section Asking

variable {ι : Type} {P : ι → Session σ → Prop} (allowed : Request → Prop)
  (memory : ∀ index session memory, P index session → P index { session with memory })
  (requests : ∀ callees : Callees σ, (∀ index, callees.All (Keeps (P index) False True)) →
    ∀ index request, allowed request →
      Keeps (P index) False True (Session.serve callees request))
  (callbacks : ∀ reference delivery, (code.callback reference delivery).Asks allowed)
  (setters : ∀ reference requested current,
    (code.setter reference requested current).Asks allowed)
include memory requests callbacks setters

/-- Callbacks and setters keep what survives the requests that they may make; of a family of
properties, each may be shown to survive by what callbacks and setters keep of the others. -/
theorem UserCode.callees_keep_asking (depth : Nat) (busy : List Address) (index : ι) :
    (code.calleesTo depth busy).All (Keeps (P index) False True) := by
  have run {callees : Callees σ}
      (all : callees.All fun action => ∀ index, Keeps (P index) False True action) {α : Type}
      {program : Program σ α} (asks : program.Asks allowed) (index : ι) :
      Keeps (P index) False True (program.run callees) :=
    asks.run_keeps _ (memory index) (requests _ all.each index)
  exact (code.all_calleesTo (fun _ => keeps_exhaust) (fun _ _ all _ _ => run all (callbacks _ _))
    (fun _ _ all _ _ _ => run all (setters _ _ _)) depth busy).each index

/-- **What survives the requests that user code may make survives user code**, however
deep callbacks and setters nest. -/
theorem UserCode.run_keeps_asking (index : ι) {program : Program σ α}
    (asks : program.Asks allowed) : Keeps (P index) False True (code.run program) :=
  asks.run_keeps _ (memory index) (requests _
    (code.callees_keep_asking allowed memory requests callbacks setters code.nesting []) index)

end Asking

section Nimble

variable {ι : Type} {P : ι → Session σ → Prop} (nimble : ∀ index, Session.Nimble (P index))
  (queries : ∀ callees : Callees σ,
    (∀ index reference delivery,
      Keeps (P index) False True (callees.callback reference delivery)) →
        ∀ index query, Keeps (P index) False True (Session.query callees query))
  (publishes : ∀ callees : Callees σ,
    (∀ index reference delivery,
      Keeps (P index) False True (callees.callback reference delivery)) →
        ∀ index stream filter name value,
          Keeps (P index) True True (Session.publish callees stream filter name value))
include nimble queries publishes

/-- Answering a request keeps what survives small changes, queries and new values. -/
theorem UserCode.serve_keeps_of {callees : Callees σ}
    (all : ∀ index, callees.All (Keeps (P index) False True)) (index : ι) (request : Request) :
    Keeps (P index) False True (Session.serve callees request) :=
  (nimble index).keeps_serve (all index).setter
    (publishes _ (fun index => (all index).callback) index)
    (queries _ (fun index => (all index).callback) index) request

/-- Callbacks and setters keep what survives small changes, queries and new values. -/
theorem UserCode.callees_keep_of (depth : Nat) (busy : List Address) (index : ι) :
    (code.calleesTo depth busy).All (Keeps (P index) False True) :=
  code.callees_keep_asking (fun _ => True) (fun index _ => (nimble index).memory)
    (fun _ all index request _ => serve_keeps_of nimble queries publishes all index request)
    (fun _ _ => Program.asks_of_forall (fun _ => trivial) _)
    (fun _ _ _ => Program.asks_of_forall (fun _ => trivial) _) depth busy index

/-- What survives small changes, queries and new values survives user code. -/
theorem UserCode.run_keeps_of (index : ι) (program : Program σ α) :
    Keeps (P index) False True (code.run program) :=
  code.run_keeps_asking (fun _ => True) (fun index _ => (nimble index).memory)
    (fun _ all index request _ => serve_keeps_of nimble queries publishes all index request)
    (fun _ _ => Program.asks_of_forall (fun _ => trivial) _)
    (fun _ _ _ => Program.asks_of_forall (fun _ => trivial) _) index
    (program.asks_of_forall fun _ => trivial)

end Nimble

section Robust

variable (robust : Session.Robust P)
  (queries : ∀ callees : Callees σ,
    (∀ reference delivery, Keeps P False True (callees.callback reference delivery)) →
      ∀ query, Keeps P False True (Session.query callees query))
include robust queries

/-- If calls of callbacks matter no more than other small changes, queries are all
there is to look at. -/
theorem UserCode.callees_keep (depth : Nat) (busy : List Address) :
    (code.calleesTo depth busy).All (Keeps P False True) :=
  code.callees_keep_of (ι := Unit) (fun _ => robust.toNimble)
    (fun _ callbacks _ => queries _ (callbacks ()))
    (fun _ callbacks _ _ _ _ _ => robust.keeps_publish (callbacks ()) _ _ _ _) depth busy ()

theorem UserCode.run_keeps (program : Program σ α) : Keeps P False True (code.run program) :=
  code.run_keeps_of (ι := Unit) (fun _ => robust.toNimble)
    (fun _ callbacks _ => queries _ (callbacks ()))
    (fun _ callbacks _ _ _ _ _ => robust.keeps_publish (callbacks ()) _ _ _ _) () program

end Robust

end Nesting

/-! ## Properties that the queue does not affect -/

namespace Session

/-- A property of sessions that neither messages nor the memory nor the queue affect. -/
structure Supple (P : Session σ → Prop) : Prop extends Mild P where
  /-- Changing the queue, what is claimed of it, and the number of the next
  ticket. -/
  queue : ∀ {session : Session σ} (waiting : List (Nat × Query)) (claimed : List Nat)
    (nextTicket : Nat), P session → P { session with waiting, claimed, nextTicket }

/-- A property of sessions that neither queries nor the queue affect, nor remarks on what
user code does. -/
structure Easy (P : Session σ → Prop) : Prop extends Pliant P, Supple P where
  /-- Writing an entry about an accepted query. -/
  recordQuery : ∀ {session : Session σ} {entry : Entry}, entry.isOfQuery = true → P session →
    P { session with journal := session.journal.push entry }

/-- A property of sessions that neither queries nor the queue affect, nor small changes
apart from those that belong to a new value and to handing it to subscribers. -/
structure Slack (P : Session σ → Prop) : Prop extends Limber P, Easy P

/-- A property that neither small changes nor changes of the queue affect. -/
structure Lax (P : Session σ → Prop) : Prop extends Robust P, Slack P

section Supple

variable (supple : Supple P) {refusal panic : Prop} {callees : Callees σ}
  (answers : ∀ ticket callback delivery,
    Keeps P refusal panic (dispatch callees (.query ticket) callback delivery))
include supple answers

omit answers in
theorem Supple.keeps_claim (ticket : Nat) :
    Keeps P refusal panic (claim ticket : Action (Session σ) Bool) := by
  refine keeps_get.bind fun session => ?_
  split
  · exact keeps_pure false
  · exact (keeps_modify fun session => supple.queue session.waiting _ session.nextTicket).bind
      fun _ => keeps_pure true

theorem Supple.keeps_recheck (ticket : Nat) (query : Query) :
    Keeps P refusal panic (recheck callees ticket query) := by
  refine keeps_get.bind fun session => ?_
  split
  · exact keeps_pure ()
  · split
    · refine (supple.keeps_claim ticket).bind fun claimed => ?_
      split
      · exact (answers _ _ _).bind fun _ => supple.keeps_log _ _
      · exact keeps_pure ()
    · exact keeps_pure ()

theorem Supple.keeps_defer (ticket : Nat) (query : Query) :
    Keeps P refusal panic (defer callees ticket query) := by
  refine keeps_get.bind fun session => ?_
  split
  · exact (keeps_modify fun session => supple.queue _ session.claimed session.nextTicket).bind
      fun _ => (supple.keeps_log _ _).bind fun _ => supple.keeps_recheck answers ticket query
  · exact supple.keeps_log _ _

theorem Supple.keeps_sweep :
    ∀ queries, Keeps P refusal panic (sweep callees queries)
  | [] => keeps_pure _
  | (ticket, query) :: rest => by
    have further := Supple.keeps_sweep rest
    refine keeps_get.bind fun session => ?_
    split
    · exact further
    · refine keeps_get.bind fun session => ?_
      split
      · exact (supple.keeps_log _ _).bind fun _ => further
      · split
        · refine (supple.keeps_claim ticket).bind fun claimed => ?_
          split
          · refine (answers _ _ _).bind fun outcome => ?_
            split
            · exact (supple.keeps_log _ _).bind fun _ => further.bind fun _ => keeps_pure _
            · exact further.bind fun _ => keeps_pure _
          · exact further
        · exact further.bind fun _ => keeps_pure _

omit answers in
theorem Supple.keeps_takeWaiting : Keeps P refusal panic (takeWaiting : Action (Session σ) _) :=
  keeps_get.bind fun _ => (keeps_modify fun session =>
    supple.queue [] session.claimed session.nextTicket).bind fun _ => keeps_pure _

theorem Supple.keeps_drain : Keeps P refusal panic (drain callees) := by
  refine supple.keeps_takeWaiting.bind fun first => (supple.keeps_sweep answers first).bind fun _ => ?_
  refine supple.keeps_takeWaiting.bind fun second => (supple.keeps_sweep answers second).bind fun _ => ?_
  exact (keeps_modify fun session => supple.queue _ session.claimed session.nextTicket).bind
    fun _ => keeps_pure _

end Supple

section Easy

variable (easy : Easy P) {refusal panic : Prop} {callees : Callees σ}
  (callbacks : ∀ reference delivery, Keeps P False True (callees.callback reference delivery))
include easy callbacks

theorem Easy.keeps_answer (ticket : Nat) (callback : Callback) (delivery : Delivery) :
    Keeps P refusal panic (dispatch callees (.query ticket) callback delivery) := by
  refine easy.keeps_dispatch_of (callbacks _ _) fun entry session about => easy.recordQuery ?_
  rcases about with rfl | ⟨exit, rfl⟩ | rfl <;> rfl

omit callbacks in
theorem Easy.keeps_accept (query : Query) :
    Keeps P refusal panic (accept query : Action (Session σ) Nat) :=
  keeps_get.bind fun _ => (keeps_modify fun session =>
    easy.queue session.waiting session.claimed _).bind fun _ =>
      (keeps_record fun _ => easy.recordQuery rfl).bind fun _ => keeps_pure _

theorem Easy.keeps_query (query : Query) :
    Keeps P refusal panic (Session.query callees query) := by
  refine keeps_get.bind fun session => ?_
  split
  · exact (easy.keeps_count (by decide) _ _).bind fun _ => (easy.keeps_log _ _).bind fun _ =>
      (easy.keeps_emit rfl).bind fun _ => keeps_pure _
  · refine (easy.keeps_count (by decide) _ _).bind fun _ =>
      (easy.keeps_accept query).bind fun ticket => ?_
    split
    · exact (easy.keeps_answer callbacks _ _ _).bind fun _ => (easy.keeps_log _ _).bind
        fun _ => keeps_pure _
    · exact (easy.keeps_defer (easy.keeps_answer callbacks) _ _).bind fun _ => keeps_pure _

theorem Easy.keeps_drain : Keeps P refusal panic (drain callees) :=
  easy.toSupple.keeps_drain (easy.keeps_answer callbacks)

end Easy

section Family

variable {ι : Type} {P : ι → Session σ → Prop} (code : UserCode σ)
  (slack : ∀ index, Slack (P index))
  (publishes : ∀ callees : Callees σ,
    (∀ index reference delivery,
      Keeps (P index) False True (callees.callback reference delivery)) →
        ∀ index stream filter name value,
          Keeps (P index) True True (publish callees stream filter name value))
include slack publishes

/-- Of a family of properties that queries do not affect, new values are all there is to
look at. -/
theorem Slack.keeps_callback_of (index : ι) (reference : CodeRef) (delivery : Delivery) :
    Keeps (P index) False True (code.callees.callback reference delivery) :=
  (code.callees_keep_of (fun index => (slack index).toNimble)
    (fun _ callbacks index => (slack index).keeps_query (callbacks index)) publishes _ _
    index).callback reference delivery

theorem Slack.keeps_run_of (index : ι) (program : Program σ α) :
    Keeps (P index) False True (code.run program) :=
  code.run_keeps_of (fun index => (slack index).toNimble)
    (fun _ callbacks index => (slack index).keeps_query (callbacks index)) publishes index program

theorem Slack.keeps_drain_of (index : ι) : Keeps (P index) False False (drain code.callees) :=
  (slack index).keeps_drain (Slack.keeps_callback_of code slack publishes index)

end Family

section UserCode

variable (code : UserCode σ) (lax : Lax P)
include lax

theorem Lax.callees_keep (depth : Nat) (busy : List Address) :
    (code.calleesTo depth busy).All (Keeps P False True) :=
  code.callees_keep lax.toRobust (fun _ callbacks => lax.keeps_query callbacks) depth busy

theorem Lax.keeps_callback (reference : CodeRef) (delivery : Delivery) :
    Keeps P False True (code.callees.callback reference delivery) :=
  (lax.callees_keep code _ _).callback reference delivery

/-- User code keeps a property that neither small changes nor the queue
affect. -/
theorem Lax.keeps_run (program : Program σ α) : Keeps P False True (code.run program) :=
  code.run_keeps lax.toRobust (fun _ callbacks => lax.keeps_query callbacks) program

end UserCode

/-! ## The frame of user code -/

/-- What user code leaves of a session. -/
structure Kept (before after : Session σ) : Prop where
  /-- The journal has grown by entries that user code can write. -/
  written : ∃ entries : List Entry,
    after.journal.toList = before.journal.toList ++ entries ∧
      ∀ entry ∈ entries, entry.isInner = true
  /-- The tree has its shape. -/
  tree : before.tree.Kept after.tree
  /-- It is as open as it was. -/
  isOpen : after.isOpen = before.isOpen

theorem Kept.refl (session : Session σ) : Kept session session :=
  ⟨⟨[], (List.append_nil _).symm, fun _ member => nomatch member⟩, .refl _, rfl⟩

theorem Kept.push {before after : Session σ} (kept : Kept before after) {entry : Entry}
    (inner : entry.isInner = true) :
    Kept before { after with journal := after.journal.push entry } := by
  obtain ⟨⟨entries, journal, all⟩, tree, isOpen⟩ := kept
  refine ⟨⟨entries ++ [entry], ?_, ?_⟩, tree, isOpen⟩
  · rw [Array.toList_push, journal, List.append_assoc]
  · intro other member
    rcases List.mem_append.mp member with old | new
    · exact all other old
    · rw [List.mem_singleton.mp new]
      exact inner

/-- The frame is not affected by small changes nor by the queue. -/
theorem kept_lax (origin : Session σ) : Lax (Kept origin) where
  record plain kept := kept.push (Entry.isInner_of_isPlain plain)
  memory _ kept := ⟨kept.written, kept.tree, kept.isOpen⟩
  tally _ kept := ⟨kept.written, kept.tree, kept.isOpen⟩
  channel _ kept := ⟨kept.written, kept.tree, kept.isOpen⟩
  edit edit kept :=
    have grown := kept.push rfl
    ⟨grown.written, kept.tree.trans edit.kept, kept.isOpen⟩
  recordQuery ofQuery kept := kept.push (Entry.isInner_of_isOfQuery ofQuery)
  queue _ _ _ kept := ⟨kept.written, kept.tree, kept.isOpen⟩

end Session

end StreamControl
