import StreamControl.Proofs.History
import StreamControl.Proofs.StartAndStop

/-!
# What survives everything a host does

Whatever a host does, it does by small changes of a few kinds (`Host.Deed`): it
writes entries of its own and sends events, it runs user code and drains the
queue, it changes the tree as user code cannot, controllers come and go, and the
host is shut down and dropped.  `Host.Does` says of each kind what it changes.

Each operation is gone through once, for a property that survives the kinds of
changes that it may involve (`Operation.Involves`, `survives_perform`).  A property
that survives all of them is `Host.Enduring` and holds along every history,
however the operations end (`Host.History.Leads.endures`).  Where a property is
broken and mended again, the operation is gone through in two parts, up to the
drain of the queue and from there on.
-/

set_option autoImplicit false

namespace StreamControl

/-! ## Entries that a host writes itself -/

/-- Whether a call is one of a hook or of a filter function. -/
def Call.isOfHost : Call → Bool
  | .callback .. => false
  | _ => true

/-- Whether an event announces a change of a controller, a filter or a stream. -/
def Event.isNews : Event → Bool
  | .controllerLoaded _ | .controllerUnloaded _ | .lifecycleChanged .. => true
  | .startVetoed .. | .filterStarted .. | .filterFailed .. | .filterStopped .. => true
  | .streamStarted _ | .streamStopped _ => true
  | _ => false

/-- Whether an event is one that a start or a stop sends about a filter, or a start about its
stream. -/
def Event.isOfCycle : Event → Bool
  | .startVetoed .. | .filterStarted .. | .filterFailed .. | .filterStopped .. => true
  | .streamStarted _ => true
  | _ => false

/-- Whether an event reports the failure of a hook. -/
def Event.isFailure : Event → Bool
  | .hookFailed .. | .constructFailed .. => true
  | _ => false

theorem Event.not_news_of_isFailure {event : Event} (failure : event.isFailure = true) :
    event.isNews = false := by
  cases event <;> first | rfl | cases failure

/-- Whether an entry is about neither a query, nor a callback, nor a value that is
pushed, nor the tree, nor the first or last step of a controller, nor a failure, nor the
end of a stop. -/
def Entry.isOfHost : Entry → Bool
  | .accepted .. | .skipped .. | .pushing .. | .pushed .. | .grown _ | .counted .. => false
  | .entered call | .left call _ => call.isOfHost
  | .advanced _ stream? _ _ => stream?.isSome
  | .sent (.streamStopped _) => false
  | .sent event => event.isNews
  | _ => true

/-- Whether an entry is one that a call of a hook or of a filter function is written down
with: a message, a span, or where the call begins or ends. -/
def Entry.isOfCall : Entry → Bool
  | .message .. | .opened _ => true
  | .entered call | .left call _ => call.isOfHost
  | _ => false

theorem Entry.isOfHost_of_isOfCall {entry : Entry} (ofCall : entry.isOfCall = true) :
    entry.isOfHost = true := by
  cases entry <;> first | exact ofCall | rfl | cases ofCall

theorem Entry.isOfHost_of_isOfCycle {event : Event} (ofCycle : event.isOfCycle = true) :
    (Entry.sent event).isOfHost = true := by
  cases event <;> first | rfl | cases ofCycle

theorem Entry.isGrown_of_isOfHost {entry : Entry} (ofHost : entry.isOfHost = true) :
    entry.isGrown = false := by
  cases entry <;> first | rfl | cases ofHost

/-- Whether an entry shows that such an event was sent. -/
def Entry.isNews : Entry → Bool
  | .sent event => event.isNews
  | _ => false

theorem Entry.not_news_of_isOfCall {entry : Entry} (ofCall : entry.isOfCall = true) :
    entry.isNews = false := by
  cases entry <;> first | rfl | cases ofCall

/-- User code sends no news. -/
theorem Entry.not_news_of_isPlain {entry : Entry} (plain : entry.isPlain = true) :
    entry.isNews = false := by
  cases entry with
  | sent event => cases event <;> first | rfl | cases plain
  | _ => rfl

theorem Entry.not_news_of_isOfQuery {entry : Entry} (ofQuery : entry.isOfQuery = true) :
    entry.isNews = false := by
  cases entry <;> first | rfl | cases ofQuery

/-- The programs that a host runs of user code. -/
inductive UserCode.Offers {σ : Type} (code : UserCode σ) : {α : Type} → Program σ α → Prop where
  | construct (reference : CodeRef) (arguments : List String) :
      Offers code (code.construct reference arguments)
  | help (reference : CodeRef) : Offers code (code.help reference)
  | preStart (reference : CodeRef) (arguments : HookArguments) :
      Offers code (code.preStart reference arguments)
  | filterHook (reference : CodeRef) (hook : Hook) (arguments : HookArguments) :
      Offers code (code.filterHook reference hook arguments)
  | destroy (reference : CodeRef) : Offers code (code.destroy reference)
  | filter (reference : Option CodeRef) (function : FilterFunction) (context : FilterContext) :
      Offers code (Host.filterProgram code reference function context)

namespace Session

open StreamControl.Action

variable {σ α : Type}

/-- A session in which the failure of a hook is counted and reported. -/
def failing (controller hook : String) (level : Level) (text : String) (event : Event)
    (session : Session σ) : Session σ :=
  { session with
    channel := (session.channel.send event).2
    journal := ((session.journal.push (.counted .hookFailures controller hook)).push
      (.message level text)).push (.sent event) }

/-- What survives the small changes that a report consists of survives the report. -/
theorem failing_of {P : Session σ → Prop} {session : Session σ} {controller hook : String}
    {level : Level} {text : String} {event : Event}
    (channel : ∀ (session : Session σ) channel, P session → P { session with channel })
    (counted : ∀ (session : Session σ) metric first second, P session →
      P { session with journal := session.journal.push (.counted metric first second) })
    (message : ∀ (session : Session σ) level text, P session →
      P { session with journal := session.journal.push (.message level text) })
    (sent : ∀ session : Session σ, P session →
      P { session with journal := session.journal.push (.sent event) }) (holds : P session) :
    P (session.failing controller hook level text event) :=
  sent _ (message _ _ _ (counted _ _ _ _ (channel _ _ holds)))

/-- A property of sessions that calls of hooks and of filter functions keep. -/
structure Modest (code : UserCode σ) (P : Session σ → Prop) : Prop where
  /-- An entry is written that belongs to a call. -/
  remark : ∀ {session : Session σ} {entry : Entry}, entry.isOfCall = true → P session →
    P { session with journal := session.journal.push entry }
  /-- A hook has failed. -/
  fail : ∀ {session : Session σ} (controller hook : String) (level : Level) (text : String)
    {event : Event}, event.isFailure = true → P session →
      P (session.failing controller hook level text event)
  /-- An event is sent. -/
  channel : ∀ {session : Session σ} (channel : Broadcast Event), P session →
    P { session with channel }
  /-- User code is run. -/
  run : ∀ {β : Type} (program : Program σ β), code.Offers program →
    Keeps P False True (code.run program)

/-- A property of sessions that hooks and filter functions keep, along with what a
host writes about them, apart from news. -/
structure Sober (code : UserCode σ) (P : Session σ → Prop) : Prop extends Modest code P where
  /-- An entry is written that is no news. -/
  note : ∀ {session : Session σ} {entry : Entry}, entry.isOfHost = true → entry.isNews = false →
    P session → P { session with journal := session.journal.push entry }
  remark := fun ofCall =>
    note (Entry.isOfHost_of_isOfCall ofCall) (Entry.not_news_of_isOfCall ofCall)

/-- A property of sessions that news do not affect either. -/
structure Sturdy (code : UserCode σ) (P : Session σ → Prop) : Prop extends Sober code P where
  /-- An entry is written. -/
  record : ∀ {session : Session σ} {entry : Entry}, entry.isOfHost = true → P session →
    P { session with journal := session.journal.push entry }
  note := fun ofHost _ => record ofHost

/-- A journal only grows. -/
theorem prefix_push {prior : List Entry} {journal : Journal} (written : prior <+: journal.toList)
    (entry : Entry) : prior <+: (journal.push entry).toList := by
  rw [Array.toList_push]
  exact written.trans (List.prefix_append _ _)

theorem lax_written (prior : List Entry) :
    Lax fun session : Session σ => prior <+: session.journal.toList where
  record _ written := prefix_push written _
  memory _ written := written
  tally _ written := written
  channel _ written := written
  edit _ written := prefix_push written _
  recordQuery _ written := prefix_push written _
  queue _ _ _ written := written

/-- Nothing at all is asked. -/
theorem lax_true : Lax fun _ : Session σ => True where
  record _ _ := trivial
  memory _ _ := trivial
  tally _ _ := trivial
  channel _ _ := trivial
  edit _ _ := trivial
  recordQuery _ _ := trivial
  queue _ _ _ _ := trivial

variable {code : UserCode σ} {P : Session σ → Prop} {refusal panic : Prop}

section Modest

variable (modest : Modest code P)
include modest

theorem Modest.keeps_record {entry : Entry} (ofCall : entry.isOfCall = true) :
    Keeps P refusal panic (Session.record entry : Action (Session σ) Unit) :=
  Session.keeps_record fun _ => modest.remark ofCall

theorem Modest.keeps_log (level : Level) (text : String) :
    Keeps P refusal panic (log level text : Action (Session σ) Unit) := modest.keeps_record rfl

theorem Modest.keeps_openSpan :
    ∀ span?, Keeps P refusal panic (openSpan span? : Action (Session σ) Unit)
  | some _ => modest.keeps_record rfl
  | none => keeps_pure ()

theorem Modest.keeps_failing (controller hook : String) (level : Level) (text : String)
    {event : Event} (failure : event.isFailure = true) :
    Keeps P refusal panic (do
      count .hookFailures controller hook
      log level text
      emit event : Action (Session σ) Unit) := fun _ holds =>
  modest.fail controller hook level text failure holds

/-- A hook or a filter function is entered; a panic is contained. -/
theorem Modest.keeps_call {call : Call} (ofHost : call.isOfHost = true) (succeeds : α → Bool)
    {program : Program σ α} (offered : code.Offers program) :
    Keeps P False panic (Session.call call succeeds (code.run program)) :=
  Session.keeps_call (fun _ => modest.remark ofHost) (fun _ _ => modest.remark ofHost)
    (modest.run program offered)

end Modest

theorem Sturdy.keeps_record (sturdy : Sturdy code P) {entry : Entry}
    (ofHost : entry.isOfHost = true) :
    Keeps P refusal panic (Session.record entry : Action (Session σ) Unit) :=
  Session.keeps_record fun _ => sturdy.record ofHost

theorem Sturdy.keeps_emit (sturdy : Sturdy code P) {event : Event}
    (ofHost : (Entry.sent event).isOfHost = true) :
    Keeps P refusal panic (emit event : Action (Session σ) Unit) :=
  (keeps_modify fun _ => sturdy.channel _).bind fun _ => sturdy.keeps_record ofHost

end Session

namespace Host

open StreamControl.Action Session

variable {σ α : Type}

/-! ## Hooks and filter functions -/

variable {code : UserCode σ} {P : Session σ → Prop} {panic : Prop}

section Modest

variable (modest : Session.Modest code P)
include modest

theorem keeps_reportHookFailure {refusal : Prop} (controller : String) (hook : Hook)
    (target : Option (StreamId × String)) (failure : Int32) :
    Keeps P refusal panic (reportHookFailure controller hook target failure) :=
  modest.keeps_failing _ _ _ _ rfl

theorem keeps_guarded (serial : Nat) (hook : Hook) (target : Option (StreamId × String))
    (succeeds : α → Bool) {program : Program σ α} (offered : code.Offers program) :
    Keeps P False panic (guarded code serial hook target succeeds program) := by
  refine (modest.keeps_call rfl succeeds offered).bind fun result => ?_
  cases result with
  | ok value => exact keeps_pure _
  | error reason => exact (modest.keeps_log _ _).bind fun _ => keeps_pure _

theorem keeps_statusOf (serial : Nat) (hook : Hook) (target : Option (StreamId × String))
    {program : Program σ HookStatus} (offered : code.Offers program) :
    Keeps P False panic (statusOf code serial hook target program) :=
  (keeps_guarded modest serial hook target _ offered).bind fun _ => keeps_pure _

theorem keeps_construct (spans : SpanConfig) (controller : LoadedController)
    (arguments : List String) : Keeps P False panic (construct code spans controller arguments) := by
  refine (modest.keeps_log _ _).bind fun _ => (modest.keeps_openSpan _).bind fun _ => ?_
  split
  · exact keeps_statusOf modest _ _ _ (.construct _ _)
  · exact keeps_pure _

theorem keeps_destroy (spans : SpanConfig) (controller : LoadedController) :
    Keeps P False panic (destroy code spans controller) := by
  refine (modest.keeps_log _ _).bind fun _ => (modest.keeps_openSpan _).bind fun _ => ?_
  split
  · exact keeps_statusOf modest _ _ _ (.destroy _)
  · exact keeps_pure _

theorem keeps_callFilterHook (spans : SpanConfig) (controller : LoadedController) (hook : Hook)
    (stream : StreamId) :
    ∀ slots, Keeps P False panic (callFilterHook code spans controller hook stream slots)
  | [] => keeps_pure 0
  | slot :: rest => by
    have further := keeps_callFilterHook spans controller hook stream rest
    refine (modest.keeps_log _ _).bind fun _ => (modest.keeps_openSpan _).bind fun _ => ?_
    refine (keeps_statusOf modest _ _ _ (.filterHook _ _ _)).bind fun status => ?_
    cases status with
    | ok => exact (keeps_pure 0).bind fun _ => further.bind fun _ => keeps_pure _
    | failed failure =>
      exact (keeps_reportHookFailure modest _ _ _ _).bind fun _ => (keeps_pure 1).bind fun _ =>
        further.bind fun _ => keeps_pure _

theorem keeps_callFilterHook? (spans : SpanConfig) (controller : LoadedController) (hook : Hook)
    (stream : StreamId) (slots : List FilterSlot) :
    Keeps P False panic (callFilterHook? code spans controller hook stream slots) := by
  rw [callFilterHook?]
  split
  · exact keeps_callFilterHook modest spans controller hook stream slots
  · exact keeps_pure 0

theorem keeps_askAbout (spans : SpanConfig) (controller : LoadedController) (stream : StreamId)
    (slot : FilterSlot) : Keeps P False panic (askAbout code spans controller stream slot) := by
  refine (modest.keeps_log _ _).bind fun _ => (modest.keeps_openSpan _).bind fun _ => ?_
  split
  · refine (keeps_guarded modest _ _ _ _ (.preStart _ _)).bind fun decision? => ?_
    cases decision? with
    | some decision => exact keeps_pure _
    | none => exact (keeps_reportHookFailure modest _ _ _ _).bind fun _ => keeps_pure _
  · exact keeps_pure _

theorem keeps_callFilter (function : FilterFunction) (stream : StreamId) (slot : FilterSlot) :
    Keeps P False True (callFilter code function stream slot) := by
  refine (modest.keeps_call rfl _ (.filter _ _ _)).bind fun result => ?_
  cases result with
  | ok value => exact keeps_pure value
  | error reason => exact keeps_panic reason

end Modest

/-- A controller is asked about some filters; what is told of them are vetoes. -/
theorem keeps_askAboutAll (modest : Session.Modest code P)
    (tell : ∀ {session : Session σ} (controller : String) (stream : StreamId) (filter : String),
      P session → P { session with
        journal := session.journal.push (.sent (.startVetoed controller stream filter)) })
    (spans : SpanConfig) (controller : LoadedController) (stream : StreamId) :
    ∀ slots held, Keeps P False panic (askAboutAll code spans controller stream held slots)
  | [], _ => keeps_pure _
  | slot :: rest, held => by
    have further := keeps_askAboutAll modest tell spans controller stream rest
    have veto : Keeps P False panic (Session.emit (.startVetoed controller.name stream slot.name)) :=
      (keeps_modify fun _ => modest.channel _).bind fun _ =>
        Session.keeps_record fun _ => tell _ _ _
    refine (keeps_askAbout modest spans controller stream slot).bind fun answer => ?_
    dsimp only
    split
    · exact (modest.keeps_log _ _).bind fun _ => veto.bind fun _ =>
        (keeps_pure _).bind fun held => (further held).bind fun _ => keeps_pure _
    · exact (keeps_pure held).bind fun held => (further held).bind fun _ => keeps_pure _

theorem keeps_announceStep (sturdy : Session.Sturdy code P) {refusal : Prop}
    (controller : LoadedController) (stream : StreamId) (origin target : Phase) :
    Keeps P refusal panic (announceStep controller (some stream) origin target) :=
  (sturdy.keeps_record rfl).bind fun _ => sturdy.keeps_emit rfl

/-! ## What a host does -/

/-- A kind of small change that a host makes. -/
inductive Deed where
  /-- The streams change, or the phases of controllers. -/
  | stir
  /-- An entry is written, or an event is sent; it may be news. -/
  | note (news : Bool)
  /-- A program that the host runs is run. -/
  | run
  /-- A program of somebody outside is run. -/
  | outside
  /-- The queue is drained. -/
  | drain
  /-- A stream is made known under the next number. -/
  | attach
  /-- A filter is made known. -/
  | enroll
  /-- A filter of a stream is marked. -/
  | mark (stream : StreamId) (started : Bool)
  /-- The subscriptions in a stream that do not stay are removed. -/
  | settle (stream : StreamId)
  /-- It is announced that a stream has stopped. -/
  | announce (stream : StreamId)
  /-- A stream is forgotten. -/
  | forget (stream : StreamId)
  /-- A serial number is used up. -/
  | skip
  /-- A controller is constructed and loaded. -/
  | join
  /-- A controller is destroyed and gone. -/
  | leave
  /-- A shutdown begins. -/
  | shutDown
  /-- A shutdown drops what waits. -/
  | discard
  /-- The session is closed. -/
  | close

/-- A host with an entry more in its journal. -/
def writing (entry : Entry) (host : Host σ) : Host σ :=
  { host with session := { host.session with journal := host.session.journal.push entry } }

/-- A host with another tree, which is noted. -/
def planting (tree : ParameterTree) (host : Host σ) : Host σ :=
  { host with session := { host.session with
      tree, journal := host.session.journal.push (.grown tree) } }

/-- What a change of each kind makes of a host. -/
inductive Does (code : UserCode σ) : Deed → Host σ → Host σ → Prop where
  | stir (before after : Host σ) (session : after.session = before.session)
      (serials : after.outline.serials = before.outline.serials)
      (nextStream : after.nextStream = before.nextStream)
      (nextSerial : after.nextSerial = before.nextSerial)
      (isShutDown : after.isShutDown = before.isShutDown) : Does code .stir before after
  | write (host : Host σ) {entry : Entry} (ofHost : entry.isOfHost = true) {news : Bool}
      (shows : entry.isNews = news) : Does code (.note news) host (host.writing entry)
  | send (host : Host σ) (channel : Broadcast Event) :
      Does code (.note false) host { host with session := { host.session with channel } }
  | fail (host : Host σ) (controller hook : String) (level : Level) (text : String) {event : Event}
      (failure : event.isFailure = true) :
      Does code (.note false) host
        { host with session := host.session.failing controller hook level text event }
  | run (host : Host σ) {β : Type} (program : Program σ β) (offered : code.Offers program)
      (ends : (code.run program host.session).1 ≠ .exhausted) :
      Does code .run host { host with session := (code.run program host.session).2 }
  | outside (host : Host σ) {β : Type} (program : Program σ β)
      (ends : (code.run program host.session).1 ≠ .exhausted) :
      Does code .outside host { host with session := (code.run program host.session).2 }
  | drain (host : Host σ) (ends : (Session.drain code.callees host.session).1 ≠ .exhausted) :
      Does code .drain host { host with session := (Session.drain code.callees host.session).2 }
  | attach (host : Host σ) (room : host.nextStream + 1 ≠ 0) :
      Does code .attach host { host.planting (host.session.tree.addStream ⟨host.nextStream⟩) with
        nextStream := host.nextStream + 1 }
  | enroll (host : Host σ) {tree : ParameterTree} {stream : StreamId} {filter : String}
      (added : host.session.tree.addFilter stream filter = .ok tree) :
      Does code .enroll host (host.planting tree)
  | mark (host : Host σ) {tree : ParameterTree} {stream : StreamId} {filter : String}
      {started : Bool} (marked : host.session.tree.setStarted stream filter started = .ok tree) :
      Does code (.mark stream started) host (host.planting tree)
  | settle (host : Host σ) (stream : StreamId) :
      Does code (.settle stream) host (host.planting (host.session.tree.dropUnkept stream).2)
  | announce (host : Host σ) (stream : StreamId) :
      Does code (.announce stream) host (host.writing (.sent (.streamStopped stream)))
  | forget (host : Host σ) (stream : StreamId) :
      Does code (.forget stream) host (host.planting (host.session.tree.removeStream stream))
  | skip (host : Host σ) : Does code .skip host { host with nextSerial := host.nextSerial + 1 }
  | join (host : Host σ) (controller : LoadedController)
      (serial : controller.serial = host.nextSerial) :
      Does code .join host
        { host.writing (.advanced controller.serial none .unconstructed .constructed) with
          controllers := host.controllers ++ [controller]
          nextSerial := host.nextSerial + 1 }
  | leave (host : Host σ) (origin : Phase) {serial : Nat}
      (loaded : serial ∈ host.outline.serials) :
      Does code .leave host
        { host.writing (.advanced serial none origin .destroyed) with
          controllers := host.controllers.filter (·.serial ≠ serial) }
  | shutDown (host : Host σ) : Does code .shutDown host { host with isShutDown := true }
  | discard (host : Host σ) (down : host.isShutDown = true) :
      Does code .discard host { host with session := { host.session with waiting := [] } }
  | close (host : Host σ) : Does code .close host { host with session := host.session.close }

/-- Changes of a kind lead from one property to another. -/
def Carries (code : UserCode σ) (deed : Deed) (P Q : Host σ → Prop) : Prop :=
  ∀ ⦃before after : Host σ⦄, Does code deed before after → P before → Q after

/-- A property survives changes of a kind. -/
def Survives (code : UserCode σ) (P : Host σ → Prop) (deed : Deed) : Prop :=
  Carries code deed P P

/-- A property survives changes of the kinds that everything involves. -/
structure Steady (code : UserCode σ) (P : Host σ → Prop) : Prop where
  stir : Survives code P .stir
  note : Survives code P (.note false)
  run : Survives code P .run

/-- A property survives calls of hooks and of filter functions, and changes of the streams. -/
structure Paced (code : UserCode σ) (P : Host σ → Prop) : Prop where
  /-- Calls. -/
  modest : ∀ host : Host σ, Modest code fun session => P { host with session }
  /-- Changes of the streams. -/
  streams : ∀ {host : Host σ} (streams : OrderedMap StreamId FilterGraph), P host →
    P { host with streams }

/-- A property survives the events of a start or a stop as well, and steps of controllers with
streams, each taken as a whole. -/
structure Stepping (code : UserCode σ) (P : Host σ → Prop) : Prop extends Paced code P where
  /-- Events. -/
  tell : ∀ (host : Host σ) {event : Event}, event.isOfCycle = true → P host →
    P (host.writing (.sent event))
  /-- Steps. -/
  advance : ∀ (serial : Nat) (stream : StreamId) (target : Phase),
    Keeps P True False (Host.advance serial (some stream) target)

/-- A property survives messages, and the sending of an event before it is noted. -/
structure Mute (P : Host σ → Prop) : Prop where
  message : ∀ {host : Host σ} (level : Level) (text : String), P host →
    P (host.writing (.message level text))
  channel : ∀ {host : Host σ} (channel : Broadcast Event), P host →
    P { host with session := { host.session with channel } }

theorem Steady.mute {code : UserCode σ} {P : Host σ → Prop} (steady : Steady code P) : Mute P where
  message _ _ holds := steady.note (.write _ rfl rfl) holds
  channel channel holds := steady.note (.send _ channel) holds

/-- A property survives news as well, which nearly everything involves. -/
structure Patient (code : UserCode σ) (P : Host σ → Prop) : Prop extends Steady code P where
  news : Survives code P (.note true)

/-- A property survives changes of all kinds. -/
def Enduring (code : UserCode σ) (P : Host σ → Prop) : Prop := ∀ deed, Survives code P deed

theorem Enduring.patient {code : UserCode σ} {P : Host σ → Prop} (enduring : Enduring code P) :
    Patient code P := ⟨⟨enduring _, enduring _, enduring _⟩, enduring _⟩

section Actions

variable {code : UserCode σ} {P Q : Host σ → Prop} {refusal panic : Prop}

theorem keeps_onSession {action : Action (Session σ) α}
    (keeps : ∀ host : Host σ, Keeps (fun session => P { host with session }) refusal panic action) :
    Keeps P refusal panic (onSession action) :=
  fun host holds => meets_within.mpr (keeps host host.session holds)

theorem keeps_attached (stream : StreamId) : Keeps P True panic (attached stream) := by
  refine keeps_get.bind fun host => ?_
  split
  · exact keeps_pure _
  · exact keeps_refuse _

/-- A change of the tree that cannot be refused. -/
theorem meets_planting {change : ParameterTree → α × ParameterTree} {host : Host σ}
    {returns : α → Host σ → Prop} {refuses : Fault → Host σ → Prop}
    {panics : String → Host σ → Prop} :
    (onSession (Session.changeTree fun tree => .ok (change tree))).Meets host returns refuses panics ↔
      returns (change host.session.tree).1 (host.planting (change host.session.tree).2) := by
  rw [onSession, meets_within, meets_changeTree]
  exact Iff.rfl

theorem meets_drain (drain : Carries code .drain P Q) {host : Host σ} (holds : P host) :
    (onSession (Session.drain code.callees)).Meets host (fun _ => Q) (fun _ _ => False)
      (fun _ _ => False) := by
  have endings : Keeps (fun _ => True) False False (Session.drain code.callees) :=
    lax_true.keeps_drain (lax_true.keeps_callback code)
  have drained := endings.of_endings (P := fun session => Q { host with session }) fun ends =>
    drain (.drain host ends) holds
  exact meets_within.mpr (drained.mono (fun _ _ h => h) (fun _ _ h => h.1) (fun _ _ h => h.1))

end Actions

/-! ## Hooks, phases and marks -/

section Steady

variable {code : UserCode σ} {P : Host σ → Prop} {refusal panic : Prop} (steady : Steady code P)
include steady

theorem Steady.sober (host : Host σ) : Sober code fun session => P { host with session } where
  note {session _} ofHost old holds := steady.note (.write { host with session } ofHost old) holds
  channel {session} channel holds :=
    steady.note (.send { host with session } channel) holds
  fail {session} controller hook level text _ failure holds :=
    steady.note (.fail { host with session } controller hook level text failure) holds
  run program offered session holds := (lax_true.keeps_run code program).of_endings fun ends =>
    steady.run (.run { host with session } program offered ends) holds

theorem Steady.paced : Paced code P where
  modest host := (steady.sober host).toModest
  streams {host} streams holds :=
    steady.stir (.stir host { host with streams } rfl rfl rfl rfl rfl) holds

end Steady

section Paced

variable {code : UserCode σ} {P : Host σ → Prop} {refusal panic : Prop} (paced : Paced code P)
include paced

theorem Paced.mute : Mute P where
  message {host} _ _ holds := (paced.modest host).remark rfl holds
  channel {host} channel holds := (paced.modest host).channel channel holds

theorem Paced.keeps_log (level : Level) (text : String) :
    Keeps P refusal panic (onSession (Session.log level text)) :=
  keeps_onSession fun host => (paced.modest host).keeps_log level text

theorem Paced.keeps_openSpan (span? : Option Span) :
    Keeps P refusal panic (onSession (Session.openSpan span?)) :=
  keeps_onSession fun host => (paced.modest host).keeps_openSpan span?

theorem Paced.keeps_emit {event : Event}
    (tell : ∀ host : Host σ, P host → P (host.writing (.sent event))) :
    Keeps P refusal panic (onSession (Session.emit event)) :=
  keeps_onSession fun host => (keeps_modify fun _ => (paced.modest host).channel _).bind fun _ =>
    Session.keeps_record fun session => tell { host with session }

theorem Paced.keeps_modifyStream (stream : StreamId) (change : FilterGraph → FilterGraph) :
    Keeps P refusal panic (modifyStream stream change) :=
  keeps_modify fun _ => paced.streams _

theorem Paced.keeps_callFilter (function : FilterFunction) (stream : StreamId)
    (slot : FilterSlot) :
    Keeps P refusal True (onSession (callFilter code function stream slot)) :=
  keeps_onSession fun host =>
    (Host.keeps_callFilter (paced.modest host) function stream slot).mono False.elim id

theorem Paced.keeps_markFilter {stream : StreamId} {started : Bool}
    (mark : Survives code P (.mark stream started)) (slot : FilterSlot) (state : FilterState) :
    Keeps P True panic (markFilter stream slot state started) := by
  refine (paced.keeps_modifyStream stream _).bind fun _ => keeps_onSession fun host session holds => ?_
  rw [meets_changeTree_unit]
  split
  · rename_i tree marked
    exact mark (.mark { host with session } marked) holds
  · exact ⟨trivial, holds⟩

end Paced

theorem Steady.keeps_log {code : UserCode σ} {P : Host σ → Prop} {refusal panic : Prop}
    (steady : Steady code P) (level : Level) (text : String) :
    Keeps P refusal panic (onSession (Session.log level text)) := steady.paced.keeps_log level text

theorem serials_replaced (controllers : List LoadedController) (controller : LoadedController) :
    (controllers.map fun other =>
      if other.serial = controller.serial then controller else other).map (·.serial) =
        controllers.map (·.serial) := by
  rw [List.map_map]
  refine List.map_congr_left fun other _ => ?_
  rw [Function.comp_apply]
  split
  · rename_i same
    exact same.symm
  · rfl

/-- When a controller that was replaced is gone, it makes no difference that it was. -/
theorem filter_replaced (controllers : List LoadedController) (controller : LoadedController) :
    (controllers.map fun other =>
      if other.serial = controller.serial then controller else other).filter
        (·.serial ≠ controller.serial) =
      controllers.filter (·.serial ≠ controller.serial) := by
  induction controllers with
  | nil => rfl
  | cons first rest ih =>
    rw [List.map_cons]
    by_cases here : first.serial = controller.serial
    · rw [if_pos here, List.filter_cons_of_neg (by simp), List.filter_cons_of_neg (by simpa using here),
        ih]
    · rw [if_neg here, List.filter_cons_of_pos (by simpa using here),
        List.filter_cons_of_pos (by simpa using here), ih]

section Patient

variable {code : UserCode σ} {P : Host σ → Prop} {refusal panic : Prop} (patient : Patient code P)
include patient

theorem Patient.writes {entry : Entry} (ofHost : entry.isOfHost = true) {host : Host σ}
    (holds : P host) : P (host.writing entry) := by
  cases news : entry.isNews with
  | false => exact patient.note (.write host ofHost news) holds
  | true => exact patient.news (.write host ofHost news) holds

theorem Patient.sturdy (host : Host σ) : Sturdy code fun session => P { host with session } where
  toSober := patient.sober host
  record ofHost holds := patient.writes ofHost holds

theorem Patient.keeps_replaceController (controller : LoadedController) :
    Keeps P refusal panic (replaceController controller) :=
  keeps_modify fun _ => patient.stir (.stir _ _ rfl (serials_replaced _ _) rfl rfl rfl)

theorem Patient.keeps_advance (serial : Nat) (stream : StreamId) (target : Phase) :
    Keeps P True panic (advance serial (some stream) target) := by
  refine keeps_get.bind fun host => ?_
  split
  · exact keeps_pure ()
  · refine (keeps_ofExcept _).bind fun step => (patient.keeps_replaceController _).bind fun _ => ?_
    exact keeps_onSession fun host => keeps_announceStep (patient.sturdy host) _ _ _ _

theorem Patient.stepping : Stepping code P where
  toPaced := patient.toSteady.paced
  tell _ _ ofCycle holds := patient.writes (Entry.isOfHost_of_isOfCycle ofCycle) holds
  advance serial stream target := patient.keeps_advance serial stream target

end Patient

section Stepping

variable {code : UserCode σ} {P : Host σ → Prop} {refusal panic : Prop} (stepping : Stepping code P)
include stepping

theorem Stepping.keeps_advance (serial : Nat) (stream : StreamId) (target : Phase) :
    Keeps P True panic (Host.advance serial (some stream) target) :=
  (stepping.advance serial stream target).mono id False.elim

theorem Stepping.keeps_emit {event : Event} (ofCycle : event.isOfCycle = true) :
    Keeps P refusal panic (onSession (Session.emit event)) :=
  stepping.toPaced.keeps_emit fun host => stepping.tell host ofCycle

theorem Stepping.keeps_callFilterHooks (hook : Hook) (target : Phase) (stream : StreamId)
    (slots : List FilterSlot) :
    ∀ controllers, Keeps P True panic (callFilterHooks code hook target stream slots controllers)
  | [] => keeps_pure 0
  | controller :: rest => by
    have further := Stepping.keeps_callFilterHooks hook target stream slots rest
    refine keeps_get.bind fun host => Keeps.bind ?_ fun _ =>
      (stepping.keeps_advance _ _ _).bind fun _ => further.bind fun _ => keeps_pure _
    exact keeps_onSession fun host =>
      (keeps_callFilterHook? (stepping.modest host) _ controller hook stream slots).mono False.elim id

theorem Stepping.keeps_poll (stream : StreamId) (slots : List FilterSlot) :
    ∀ controllers held, Keeps P True panic (poll code stream slots held controllers)
  | [], _ => keeps_pure _
  | controller :: rest, held => by
    have further := Stepping.keeps_poll stream slots rest
    refine (stepping.keeps_advance _ _ _).bind fun _ => keeps_get.bind fun host => ?_
    refine Keeps.bind ?_ fun _ => (further _).bind fun _ => keeps_pure _
    exact keeps_onSession fun host => (keeps_askAboutAll (stepping.modest host)
      (fun {session} _ _ _ => stepping.tell { host with session } rfl) _ controller stream slots
        held).mono False.elim id

/-! ## Starting and stopping -/

section Start

variable {stream : StreamId} (mark : Survives code P (.mark stream true))
include mark

theorem Stepping.keeps_startFilter (held : List Nat) (slot : FilterSlot) :
    Keeps P True True (startFilter code stream held slot) := by
  rw [startFilter]
  split
  · exact (stepping.keeps_modifyStream stream _).bind fun _ => keeps_pure _
  · refine (stepping.keeps_callFilter .start stream slot).bind fun result => ?_
    cases result with
    | ok value =>
      exact (stepping.keeps_markFilter mark slot _).bind fun _ =>
        (stepping.keeps_log _ _).bind fun _ => (stepping.keeps_emit rfl).bind fun _ => keeps_pure _
    | error fault =>
      exact (stepping.keeps_modifyStream stream _).bind fun _ =>
        (stepping.keeps_log _ _).bind fun _ => (stepping.keeps_emit rfl).bind fun _ => keeps_pure _

theorem Stepping.keeps_startFilters (held : List Nat) :
    ∀ slots, Keeps P True True (startFilters code stream held slots)
  | [] => keeps_pure _
  | slot :: rest => (stepping.keeps_startFilter mark held slot).bind fun _ =>
    (Stepping.keeps_startFilters held rest).bind fun _ => keeps_pure _

theorem Stepping.keeps_openStart (graph : FilterGraph) (host : Host σ) :
    Keeps P True True (openStart code stream graph host) := by
  refine (stepping.keeps_openSpan _).bind fun _ => ?_
  refine (stepping.keeps_poll stream graph.slots _ []).bind fun polled => ?_
  refine (stepping.keeps_startFilters mark _ graph.slots).bind fun results => ?_
  exact (stepping.keeps_modifyStream stream _).bind fun _ => keeps_pure _

end Start

theorem Stepping.keeps_closeStart (stream : StreamId) (controllers : List LoadedController)
    (results : List (FilterSlot × StartResult)) :
    Keeps P True panic (closeStart code stream controllers results) :=
  (stepping.keeps_callFilterHooks _ _ stream _ _).bind fun _ =>
    (stepping.keeps_log _ _).bind fun _ => (stepping.keeps_emit rfl).bind fun _ => keeps_pure _

section Stop

variable {stream : StreamId} (mark : Survives code P (.mark stream false))
include mark

theorem Stepping.keeps_stopFilter (slot : FilterSlot) :
    Keeps P True True (stopFilter code stream slot) := by
  have finish : ∀ refusal : Option Fault, Keeps P True True (do
      markFilter stream slot .stopped false
      onSession (Session.emit (.filterStopped stream slot.name))
      return refusal) := fun refusal =>
    (stepping.keeps_markFilter mark slot _).bind fun _ =>
      (stepping.keeps_emit rfl).bind fun _ => keeps_pure refusal
  refine (stepping.keeps_callFilter .stop stream slot).bind fun result => ?_
  cases result with
  | ok value => exact (keeps_pure none).bind finish
  | error fault =>
    exact (stepping.keeps_log _ _).bind fun _ => (keeps_pure (some fault)).bind finish

theorem Stepping.keeps_stopFilters :
    ∀ slots, Keeps P True True (stopFilters code stream slots)
  | [] => keeps_pure _
  | slot :: rest => (stepping.keeps_stopFilter mark slot).bind fun _ =>
    (Stepping.keeps_stopFilters rest).bind fun _ => keeps_pure _

end Stop

end Stepping

section Operations

variable {code : UserCode σ} {P Q R : Host σ → Prop} {refusal panic : Prop}

/-- A start, up to the drain of the queue and from there on. -/
theorem meets_start_of (before : Stepping code P) {stream : StreamId}
    (mark : Survives code P (.mark stream true)) (drain : Carries code .drain P Q)
    (after : Stepping code Q) {host : Host σ} (holds : P host) :
    (start code stream).Meets host (fun _ => Q) (fun _ after => P after ∨ Q after)
      (fun _ => P) := by
  have attach : Keeps P True False (attached stream) := keeps_attached stream
  refine attach.next holds (fun _ _ both => .inl both.2) (fun _ _ both => both.2)
    fun graph between holds => ?_
  split
  · exact .inl holds
  · rw [startIdle_eq, meets_bind, meets_get]
    refine (before.keeps_openStart mark graph between).next holds (fun _ _ both => .inl both.2)
      (fun _ _ both => both.2) fun opened _ holds => ?_
    rw [meets_bind]
    refine (meets_drain drain holds).always fun answered drained holds => ?_
    have close : Keeps Q True False _ :=
      after.keeps_closeStart stream between.controllers opened.2
    rw [meets_bind]
    exact (close drained holds).mono (fun _ _ holds => holds) (fun _ _ both => .inr both.2)
      fun _ _ both => both.1.elim

/-- A stop, up to the removal of the subscriptions that do not stay, then up to the drain of
the queue, and then up to the announcement. -/
theorem meets_stop_by {R Q S : Nat → Host σ → Prop} (before : Stepping code P) {stream : StreamId}
    (mark : Survives code P (.mark stream false))
    (settle : ∀ host : Host σ, P host → R (host.session.tree.dropUnkept stream).1
      (host.planting (host.session.tree.dropUnkept stream).2))
    (drain : ∀ removed, Carries code .drain (R removed) (Q removed))
    (after : ∀ removed, Mute (Q removed))
    (announce : ∀ removed, Carries code (.announce stream) (Q removed) (S removed)) {host : Host σ}
    (holds : P host) :
    (stop code stream).Meets host (fun report => S report.subscriptionsRemoved) (fun _ => P)
      (fun _ => P) := by
  have go {α β : Type} {first : Action (Host σ) α} {next : α → Action (Host σ) β} {host : Host σ}
      {returns : β → Host σ → Prop} (keeps : Keeps P True True first) (holds : P host)
      (further : ∀ value after, P after →
        (next value).Meets after returns (fun _ => P) (fun _ => P)) :
      (first >>= next).Meets host returns (fun _ => P) (fun _ => P) :=
    keeps.next holds (fun _ _ both => both.2) (fun _ _ both => both.2) further
  refine go (keeps_attached stream) holds fun graph between holds => ?_
  split
  · exact holds
  · rw [stopRunning, meets_bind, meets_get]
    refine go (before.keeps_openSpan _) holds fun _ _ holds => ?_
    refine go (before.keeps_callFilterHooks _ _ stream _ _) holds fun failures _ holds => ?_
    refine go (before.keeps_stopFilters mark _) holds fun refusals _ holds => ?_
    refine go (before.keeps_modifyStream stream _) holds fun _ _ holds => ?_
    refine go (before.keeps_callFilterHooks _ _ stream _ _) holds fun more settling holds => ?_
    rw [meets_bind, meets_planting, meets_bind]
    refine (meets_drain (drain _) (settle settling holds)).always fun answered drained holds => ?_
    rw [meets_bind, onSession, meets_within, Session.log, Session.record, meets_modify, meets_bind,
      onSession, meets_within, Session.emit, meets_bind, meets_modify, Session.record, meets_modify,
      meets_pure]
    have logged := (after _).message .info "stream stopped" holds
    exact announce _ (.announce _ stream)
      ((after _).channel (drained.session.channel.send (.streamStopped stream)).2 logged)

/-- A stop, up to the drain of the queue and from there on. -/
theorem meets_stop_of (before : Stepping code P) {stream : StreamId}
    (mark : Survives code P (.mark stream false)) (settle : Survives code P (.settle stream))
    (drain : Carries code .drain P Q) (after : Paced code Q)
    (announce : Survives code Q (.announce stream)) {host : Host σ} (holds : P host) :
    (stop code stream).Meets host (fun _ => Q) (fun _ => P) (fun _ => P) :=
  meets_stop_by (R := fun _ => P) (Q := fun _ => Q) (S := fun _ => Q) before mark
    (fun host holds => settle (.settle host stream) holds) (fun _ => drain) (fun _ => after.mute)
    (fun _ => announce) holds

theorem keeps_stop_of (stepping : Stepping code P) {stream : StreamId}
    (mark : Survives code P (.mark stream false)) (settle : Survives code P (.settle stream))
    (drain : Survives code P .drain) (announce : Survives code P (.announce stream)) :
    Keeps P True True (stop code stream) := fun _ holds =>
  (meets_stop_of stepping mark settle drain stepping.toPaced announce holds).mono
    (fun _ _ holds => holds) (fun _ _ holds => ⟨trivial, holds⟩) fun _ _ holds => ⟨trivial, holds⟩

/-! ## Attaching and detaching -/

/-- Detaching a stream breaks a property and mends it. -/
theorem meets_removeStream_of (before : Paced code P) {stream : StreamId}
    (forget : Carries code (.forget stream) P R) (drain : Carries code .drain R Q)
    (after : Paced code Q) {host : Host σ} (holds : P host) :
    (removeStream code stream).Meets host (fun _ => Q) (fun _ => P) (fun _ _ => False) := by
  have attach : Keeps P True False (attached stream) := keeps_attached stream
  refine attach.next holds (fun _ _ both => both.2) (fun _ _ both => both.1) fun graph between holds => ?_
  split
  · exact holds
  · rw [meets_bind, meets_modify, meets_bind, meets_planting, meets_bind]
    have erased := before.streams (between.streams.erase stream) holds
    refine (meets_drain drain (forget (.forget _ stream) erased)).always fun answered drained holds => ?_
    exact (((after.keeps_log _ _).bind fun _ => keeps_pure graph : Keeps Q False False _) drained
      holds).mono (fun _ _ holds => holds) (fun _ _ both => both.1.elim) fun _ _ both => both.1

section Attach

variable (paced : Paced code P)
include paced

theorem Paced.keeps_constructFilters (enroll : Survives code P .enroll) (stream : StreamId) :
    ∀ slots (host : Host σ),
      Keeps (fun session => P { host with session }) True True (constructFilters code stream slots)
  | [], _ => keeps_pure ()
  | slot :: rest, host => by
    refine Keeps.bind (fun session holds => ?_) fun _ =>
      ((Host.keeps_callFilter (paced.modest host) .construct stream slot).mono False.elim id).bind
        fun result => (keeps_ofExcept result).bind fun _ =>
          Paced.keeps_constructFilters enroll stream rest host
    rw [meets_changeTree_unit]
    split
    · rename_i tree added
      exact enroll (.enroll { host with session } added) holds
    · exact ⟨trivial, holds⟩

end Attach

/-- Attaching a stream; if it fails, that breaks a property. -/
theorem meets_addStream_of (before : Paced code P) (attach : Survives code P .attach)
    (enroll : Survives code P .enroll) {host : Host σ}
    (forget : Carries code (.forget ⟨host.nextStream⟩) P Q) (after : Paced code Q)
    (graph : FilterGraph) (holds : P host) :
    (addStream code graph).Meets host (fun _ => P) (fun _ => Q) (fun _ => P) := by
  rw [addStream, meets_bind, takeStreamId, meets_bind, meets_get]
  dsimp only
  split
  · exact holds
  · rename_i room
    rw [meets_bind, meets_modify, meets_pure, meets_bind, meets_planting]
    have construct : Keeps P False True (onSession
        (constructFilters code ⟨host.nextStream⟩ graph.slots).attempt) :=
      keeps_onSession fun host => (before.keeps_constructFilters enroll _ graph.slots host).attempt
    refine construct.next (attach (.attach _ room) holds) (fun _ _ both => both.1.elim)
      (fun _ _ both => both.2) fun result constructed holds => ?_
    cases result with
    | error fault =>
      rw [meets_bind, meets_planting]
      exact (after.keeps_log _ _).onward (forget (.forget _ _) holds) fun _ _ holds => holds
    | ok value =>
      exact ((before.keeps_log _ _).bind fun _ => Keeps.bind
        (keeps_modify fun _ => before.streams _) fun _ => keeps_pure _).always holds

/-! ## Loading and unloading -/

/-- A host that a controller has joined, with what is noted of it. -/
def joined (controller : LoadedController) (channel : Broadcast Event) (host : Host σ) : Host σ :=
  { host with
    controllers := host.controllers ++ [controller.moved none .constructed]
    nextSerial := host.nextSerial + 1
    session := { host.session with
      channel
      journal := (host.session.journal.push
        (.advanced controller.serial none .unconstructed .constructed)).push
          (.sent (.lifecycleChanged controller.name none .unconstructed .constructed)) } }

/-- A host that a controller has left, with what is noted of it. -/
def parted (controller : LoadedController) (channel : Broadcast Event) (host : Host σ) : Host σ :=
  { host with
    controllers := host.controllers.filter (·.serial ≠ controller.serial)
    session := { host.session with
      channel
      journal := (host.session.journal.push
        (.advanced controller.serial none controller.phase .destroyed)).push
          (.sent (.lifecycleChanged controller.name none controller.phase .destroyed)) } }

section Paced

variable (paced : Paced code P)
include paced

/-- A load that fails uses up a serial number; another adds a controller, as one change. -/
theorem Paced.keeps_load
    (skip : ∀ host : Host σ, P host → P { host with nextSerial := host.nextSerial + 1 })
    (join : ∀ (host : Host σ) (controller : LoadedController) (channel : Broadcast Event),
      controller.serial = host.nextSerial → controller.phase = .unconstructed →
        controller.streamPhases = .empty → P host → P (host.joined controller channel))
    (tell : ∀ (host : Host σ) (name : String), P host →
      P (host.writing (.sent (.controllerLoaded name))))
    (path : String) (requested : Option String) (module : ControllerModule)
    (arguments : List String) :
    Keeps P True False (load code path requested module arguments) := by
  intro host holds
  rw [load, meets_bind, meets_get, meets_bind, meets_ofExcept]
  split
  · rename_i name _
    rw [meets_bind, takeSerial, meets_bind, meets_get, meets_bind, meets_modify, meets_pure]
    dsimp only
    generalize hcontroller : ({ serial := host.nextSerial, name, path, module } :
      LoadedController) = controller
    have serial : controller.serial = host.nextSerial := by rw [← hcontroller]
    have phase : controller.standing none = .unconstructed := by rw [← hcontroller]; rfl
    have phases : controller.streamPhases = .empty := by rw [← hcontroller]
    rw [meets_bind, onSession, meets_within]
    -- The serial number is used up before the hook is called, which makes no difference to it.
    refine (keeps_construct (paced.modest host) _ _ _ host.session holds).mono ?_
      (fun _ _ both => both.1.elim) fun _ _ both => ⟨both.1, skip _ both.2⟩
    intro status session holds
    cases status with
    | failed failure =>
      exact ⟨trivial, (paced.modest { host with nextSerial := host.nextSerial + 1 }).fail _ _ _ _ rfl
        (skip { host with session } holds)⟩
    | ok =>
      dsimp only
      rw [LoadedController.advance_eq, phase, if_pos (by rfl), meets_bind, meets_ofExcept]
      dsimp only
      rw [meets_bind, onSession, meets_within, announceStep, meets_bind, Session.record,
        meets_modify, Session.emit, meets_bind, meets_modify, Session.record, meets_modify,
        meets_bind, meets_modify]
      have joined := join { host with session } controller
        (session.channel.send (.lifecycleChanged controller.name none .unconstructed
          .constructed)).2 serial phase phases holds
      exact ((paced.keeps_log _ _).bind fun _ => (paced.keeps_emit (tell · name)).bind fun _ =>
        keeps_pure name : Keeps P True False _) _ joined
  · exact ⟨trivial, holds⟩

/-- A controller leaves, whatever its destroy hook has answered. -/
theorem Paced.meets_leave
    (leave : ∀ {host : Host σ} {controller : LoadedController} (channel : Broadcast Event),
      controller ∈ host.controllers → controller.phase.canBecome .destroyed = true → P host →
        P (host.parted controller channel))
    (tell : ∀ (host : Host σ) (name : String), P host →
      P (host.writing (.sent (.controllerUnloaded name))))
    (host : Host σ) {serial : Nat} (loaded : serial ∈ host.outline.serials) (name : String)
    (holds : P host) :
    (do
      advance serial none .destroyed
      modify fun host => { host with
        controllers := host.controllers.filter (·.serial ≠ serial) }
      onSession (Session.log .info "controller unloaded")
      onSession (Session.emit (.controllerUnloaded name)) : Action (Host σ) Unit).Meets
      host (fun _ => P) (fun _ after => True ∧ P after) (fun _ after => False ∧ P after) := by
  rw [meets_bind, advance, meets_bind, meets_get]
  split
  · rename_i absent
    obtain ⟨same, present, equal⟩ := List.mem_map.mp loaded
    exact absurd (decide_eq_true equal) (List.find?_eq_none.mp absent same present)
  · rename_i other there
    obtain rfl : other.serial = serial := by simpa using List.find?_some there
    rw [LoadedController.advance_eq]
    split
    · rename_i allowed
      rw [meets_bind, meets_ofExcept]
      dsimp only
      rw [meets_bind, replaceController, meets_modify, onSession, meets_within, announceStep,
        meets_bind, Session.record, meets_modify, Session.emit, meets_bind, meets_modify,
        Session.record, meets_modify, meets_bind, meets_modify]
      have gone := leave (host.session.channel.send
        (.lifecycleChanged other.name none other.phase .destroyed)).2
          (List.mem_of_find?_eq_some there) allowed holds
      have others := filter_replaced host.controllers (other.moved none .destroyed)
      rw [LoadedController.serial_moved] at others
      rw [parted, ← others] at gone
      exact ((paced.keeps_log _ _).bind fun _ => paced.keeps_emit (tell · name) :
        Keeps P True False _) _ gone
    · exact ⟨trivial, holds⟩

/-- An unload that is not refused removes a controller, as one change. -/
theorem Paced.keeps_unload
    (leave : ∀ {host : Host σ} {controller : LoadedController} (channel : Broadcast Event),
      controller ∈ host.controllers → controller.phase.canBecome .destroyed = true → P host →
        P (host.parted controller channel))
    (tell : ∀ (host : Host σ) (name : String), P host →
      P (host.writing (.sent (.controllerUnloaded name)))) (name : String) :
    Keeps P True False (unload code name) := by
  intro host holds
  rw [unload, meets_bind, loaded, meets_bind, meets_get]
  cases found : host.controller? name with
  | none => exact ⟨trivial, holds⟩
  | some controller =>
    have member : controller.serial ∈ host.outline.serials :=
      host.outline.mem_serials (List.mem_of_find?_eq_some found)
    dsimp only
    rw [meets_pure]
    split
    · exact ⟨trivial, holds⟩
    · rw [meets_bind, meets_get, meets_bind, onSession, meets_within]
      refine (keeps_destroy (paced.modest host) _ controller host.session holds).mono ?_
        (fun _ _ both => both.1.elim) fun _ _ both => both
      intro status session holds
      cases status with
      | ok => exact paced.meets_leave leave tell { host with session } member name holds
      | failed failure =>
        dsimp only
        rw [meets_bind, onSession, meets_within]
        exact (keeps_reportHookFailure (paced.modest host) _ _ _ _ session holds).mono
          (fun _ session holds =>
            paced.meets_leave leave tell { host with session } member name holds)
          (fun _ _ both => both) fun _ _ both => both

end Paced

section Load

variable (patient : Patient code P)
include patient

theorem Patient.keeps_load (skip : Survives code P .skip) (join : Survives code P .join)
    (path : String) (requested : Option String) (module : ControllerModule)
    (arguments : List String) :
    Keeps P True False (load code path requested module arguments) :=
  patient.toSteady.paced.keeps_load (fun host holds => skip (.skip host) holds)
    (fun host controller channel serial _ _ holds =>
      patient.writes rfl (patient.note (.send _ channel)
        (join (.join host (controller.moved none .constructed) serial) holds)))
    (fun _ _ holds => patient.writes rfl holds) path requested module arguments

theorem Patient.keeps_unload (leave : Survives code P .leave) (name : String) :
    Keeps P True False (unload code name) :=
  patient.toSteady.paced.keeps_unload
    (fun {host controller} channel loaded _ holds =>
      patient.writes rfl (patient.note (.send _ channel)
        (leave (.leave host controller.phase (host.outline.mem_serials loaded)) holds)))
    (fun _ _ holds => patient.writes rfl holds) name

end Load

theorem Paced.keeps_help (paced : Paced code P) (name : String) :
    Keeps P refusal panic (help code name) := by
  refine keeps_get.bind fun host => ?_
  split
  · exact keeps_pure none
  · split
    · exact keeps_onSession fun host =>
        (keeps_guarded (paced.modest host) _ _ _ _ (.help _)).mono False.elim id
    · exact keeps_pure none

/-! ## Shutting down -/

/-- A host that is shut down stays so. -/
theorem enduring_isShutDown (code : UserCode σ) :
    Enduring code fun host => host.isShutDown = true := by
  intro deed before after does down
  cases does with
  | stir before after _ _ _ _ isShutDown => exact isShutDown.trans down
  | shutDown => rfl
  | _ => exact down

theorem Survives.and {deed : Deed} (one : Survives code P deed) (other : Survives code Q deed) :
    Survives code (fun host => P host ∧ Q host) deed :=
  fun _ _ does holds => ⟨one does holds.1, other does holds.2⟩

theorem Patient.and (one : Patient code P) (other : Patient code Q) :
    Patient code fun host => P host ∧ Q host where
  stir := one.stir.and other.stir
  note := one.note.and other.note
  run := one.run.and other.run
  news := one.news.and other.news

/-- A property survives the stop of any stream. -/
structure Stoppable (code : UserCode σ) (P : Host σ → Prop) : Prop extends Patient code P where
  mark : ∀ stream, Survives code P (.mark stream false)
  settle : ∀ stream, Survives code P (.settle stream)
  drain : Survives code P .drain
  announce : ∀ stream, Survives code P (.announce stream)

theorem Enduring.stoppable (enduring : Enduring code P) : Stoppable code P :=
  ⟨enduring.patient, fun _ => enduring _, fun _ => enduring _, enduring _, fun _ => enduring _⟩

theorem Stoppable.keeps_stop (stoppable : Stoppable code P) (stream : StreamId) :
    Keeps P True True (stop code stream) :=
  keeps_stop_of stoppable.toPatient.stepping (stoppable.mark stream) (stoppable.settle stream)
    stoppable.drain (stoppable.announce stream)

section Parts

variable (log : ∀ level text, Keeps P False True (onSession (Session.log level text)))
include log

/-- What stops keep, stops of several streams keep. -/
theorem keeps_stopAll (stop : ∀ stream, Keeps P True True (stop code stream)) :
    ∀ streams, Keeps P False True (stopAll code streams)
  | [] => keeps_pure ()
  | stream :: rest => by
    have further := keeps_stopAll stop rest
    refine (stop stream).attempt.bind fun result => ?_
    cases result with
    | ok report => exact further
    | error fault => exact (log _ _).bind fun _ => further

/-- What unloads keep, unloads of several controllers keep. -/
theorem keeps_unloadAll (unload : ∀ name, Keeps P True True (unload code name)) :
    ∀ names, Keeps P False True (unloadAll code names)
  | [] => keeps_pure ()
  | name :: rest => by
    have further := keeps_unloadAll unload rest
    refine (unload name).attempt.bind fun result => ?_
    cases result with
    | ok value => exact further
    | error fault => exact (log _ _).bind fun _ => further

/-- What the parts of a shutdown keep holds after it, if it holds once the host is
marked as shut down. -/
theorem meets_shutdown_of (stop : ∀ stream, Keeps P True True (stop code stream))
    (unload : ∀ name, Keeps P True True (unload code name))
    (discard : Keeps P False True (onSession Session.discardWaiting)) {host : Host σ}
    (begun : host.isShutDown = false → P { host with isShutDown := true })
    (again : host.isShutDown = true → P host) :
    (shutdown code).Meets host (fun _ => P) (fun _ after => False ∧ P after)
      (fun _ after => True ∧ P after) := by
  rw [shutdown, meets_bind, meets_get]
  split
  · rename_i down
    exact again down
  · rename_i up
    rw [meets_bind, meets_modify]
    have finish : ∀ dropped : Nat, Keeps P False True (do
        if dropped ≠ 0 then
          onSession (Session.log .debug "pending parameter queries dropped at shutdown")
        onSession (Session.log .debug "control host shut down")) := by
      intro dropped
      dsimp only
      split
      · exact (log _ _).bind fun _ => log _ _
      · exact log _ _
    have all : Keeps P False True _ :=
      (keeps_stopAll log stop host.runningStreams).bind fun _ => keeps_get.bind fun between =>
        (keeps_unloadAll log unload between.controllerNames.reverse).bind fun _ =>
          discard.bind finish
    exact all _ (begun (Bool.eq_false_iff.mpr up))

end Parts

/-- What a shutdown comes to, and closing the session keeps, holds after a drop. -/
theorem meets_drop_of {host : Host σ}
    (shutdown : (shutdown code).Meets host (fun _ => P) (fun _ after => False ∧ P after)
      (fun _ after => True ∧ P after))
    (close : ∀ host : Host σ, P host → P { host with session := host.session.close }) :
    (drop code).Meets host (fun _ => P) (fun _ after => False ∧ P after)
      (fun _ after => True ∧ P after) := by
  rw [drop, meets_bind, meets_contain]
  refine shutdown.mono (fun _ after holds => ?_) (fun _ _ both => both) fun reason after both => ?_
  · exact close after holds
  · exact ⟨trivial, close after both.2⟩

/-- What survives the stops and the unloads of a shutdown, and what it does besides, survives
the shutdown. -/
theorem Paced.meets_shutdown (paced : Paced code P)
    (stop : ∀ stream, Keeps P True True (stop code stream))
    (unload : ∀ name, Keeps P True False (unload code name))
    (shutDown : Survives code P .shutDown) (discard : Survives code P .discard) {host : Host σ}
    (holds : P host) :
    (shutdown code).Meets host (fun _ => P) (fun _ after => False ∧ P after)
      (fun _ after => True ∧ P after) := by
  -- From the beginning on the host is marked as shut down, and stays so.
  have down := enduring_isShutDown code
  refine (meets_shutdown_of (P := fun host => host.isShutDown = true ∧ P host)
    (fun level text => (down.patient.toSteady.keeps_log level text).and (paced.keeps_log level text))
    (fun stream => (down.stoppable.keeps_stop stream).and (stop stream))
    (fun name => ((down.patient.keeps_unload (down .leave) name).and (unload name)).mono id
      False.elim)
    (fun host holds => ⟨holds.1, discard (.discard host holds.1) holds.2⟩)
    (fun _ => ⟨rfl, shutDown (.shutDown host) holds⟩) fun down => ⟨down, holds⟩).mono
      (fun _ _ both => both.2) (fun _ _ both => both.1.elim) fun _ _ both => ⟨trivial, both.2.2⟩

end Operations

/-! ## Histories -/

/-- The streams that an operation may stop. -/
def Operation.Stops : Operation σ → StreamId → Prop
  | .stop stopped, stream => stream = stopped
  | .shutdown, _ | .drop, _ => True
  | _, _ => False

/-- The kinds of changes that an operation may make, done to a host. -/
def Operation.Involves (host : Host σ) : Operation σ → Deed → Prop
  | _, .stir | _, .note false | _, .run => True
  | .outside _, .outside => True
  | .load .., .note true | .unload _, .note true | .start _, .note true | .stop _, .note true => True
  | .shutdown, .note true | .drop, .note true => True
  | .addStream _, .attach | .addStream _, .enroll => True
  | .addStream _, .forget stream => stream = ⟨host.nextStream⟩
  | .removeStream removed, .forget stream => stream = removed
  | .load .., .skip | .load .., .join => True
  | .unload _, .leave | .shutdown, .leave | .drop, .leave => True
  | .start started, .mark stream true => stream = started
  | operation, .mark stream false | operation, .settle stream
  | operation, .announce stream => operation.Stops stream
  | .removeStream _, .drain | .start _, .drain | .stop _, .drain => True
  | .shutdown, .drain | .drop, .drain => True
  | .shutdown, .shutDown | .shutdown, .discard | .drop, .shutDown | .drop, .discard => True
  | .drop, .close => True
  | _, _ => False

/-- Whether a change is made only when a stream has stopped. -/
def Deed.isOfStop : Deed → Bool
  | .settle _ | .announce _ => true
  | _ => false

/-- Whether a change is not part of a call or a step, nor of the coming or going of a
controller. -/
def Deed.isApart : Deed → Bool
  | .stir | .note _ | .run | .skip | .join | .leave => false
  | _ => true

/-- The controllers that an operation may unload. -/
def Operation.Unloads : Operation σ → String → Prop
  | .unload unloaded, name => name = unloaded
  | .shutdown, _ | .drop, _ => True
  | _, _ => False

variable {code : UserCode σ} {P : Host σ → Prop}

/-- What survives the parts of an operation, each taken as a whole, survives the operation,
however it ends. -/
theorem Paced.survives_perform (paced : Paced code P) {operation : Operation σ} {host : Host σ}
    (survives : ∀ deed, operation.Involves host deed → deed.isOfStop = false →
      deed.isApart = true → Survives code P deed)
    (start : ∀ stream, operation = .start stream → Stepping code P)
    (stop : ∀ stream, operation.Stops stream → Keeps P True True (Host.stop code stream))
    (load : ∀ path requested module arguments, operation = .load path requested module arguments →
      Keeps P True False (Host.load code path requested module arguments))
    (unload : ∀ name, operation.Unloads name → Keeps P True False (Host.unload code name))
    (holds : P host) :
    (operation.perform code).Meets host (fun _ => P) (fun _ => P) (fun _ => P) := by
  have always {α : Type} {refusal panic : Prop} {action : Action (Host σ) α}
      (keeps : Keeps P refusal panic action) :
      action.Meets host (fun _ => P) (fun _ => P) (fun _ => P) :=
    (keeps host holds).mono (fun _ _ holds => holds) (fun _ _ both => both.2) fun _ _ both => both.2
  cases operation with
  | addStream graph =>
    exact meets_addStream_of paced (survives _ trivial rfl rfl) (survives _ trivial rfl rfl)
      (survives _ rfl rfl rfl) paced graph holds
  | removeStream stream =>
    exact (meets_removeStream_of paced (survives _ rfl rfl rfl) (survives _ trivial rfl rfl) paced
      holds).mono (fun _ _ holds => holds) (fun _ _ holds => holds) fun _ _ impossible =>
        impossible.elim
  | load path requested module arguments => exact always (load path requested module arguments rfl)
  | unload name => exact always (unload name rfl)
  | start stream =>
    have stepping := start stream rfl
    exact (meets_start_of stepping (survives _ rfl rfl rfl) (survives _ trivial rfl rfl) stepping
      holds).mono (fun _ _ holds => holds) (fun _ _ holds => holds.elim id id) fun _ _ holds => holds
  | stop stream => exact always (stop stream rfl)
  | shutdown =>
    exact (paced.meets_shutdown (fun stream => stop stream trivial) (fun name => unload name trivial)
      (survives _ trivial rfl rfl) (survives _ trivial rfl rfl) holds).mono
        (fun _ _ holds => holds) (fun _ _ both => both.2) fun _ _ both => both.2
  | drop =>
    exact (meets_drop_of (paced.meets_shutdown (fun stream => stop stream trivial)
      (fun name => unload name trivial) (survives _ trivial rfl rfl) (survives _ trivial rfl rfl)
        holds) fun host => survives .close trivial rfl rfl (.close host)).mono
          (fun _ _ holds => holds) (fun _ _ both => both.2) fun _ _ both => both.2
  | help name => exact always (paced.keeps_help name : Keeps P False False _)
  | outside program =>
    have outside : Survives code P .outside := survives _ trivial rfl rfl
    exact always (keeps_onSession fun host session holds =>
      (lax_true.keeps_run code program).of_endings fun ends =>
        outside (.outside { host with session } program ends) holds)
  | listen change =>
    exact always (keeps_onSession fun host => keeps_modify fun _ =>
      (paced.modest host).channel _ : Keeps P False False _)

/-- What survives all else that an operation may involve, and the stops that it makes,
survives the operation, however it ends. -/
theorem survives_perform_by {operation : Operation σ} {host : Host σ}
    (survives : ∀ deed, operation.Involves host deed → deed.isOfStop = false → Survives code P deed)
    (stop : ∀ stream, operation.Stops stream → Keeps P True True (Host.stop code stream))
    (holds : P host) :
    (operation.perform code).Meets host (fun _ => P) (fun _ => P) (fun _ => P) := by
  have steady : Steady code P := by
    refine ⟨survives _ ?_ rfl, survives _ ?_ rfl, survives _ ?_ rfl⟩ <;>
      simp only [Operation.Involves]
  have patient (news : operation.Involves host (.note true)) : Patient code P :=
    ⟨steady, survives _ news rfl⟩
  refine steady.paced.survives_perform (fun deed involved apart _ => survives deed involved apart)
    ?start stop ?load ?unload holds
  case start =>
    rintro stream rfl
    exact (patient trivial).stepping
  case load =>
    rintro path requested module arguments rfl
    exact (patient trivial).keeps_load (survives _ trivial rfl) (survives _ trivial rfl) path
      requested module arguments
  case unload =>
    intro name unloads
    cases operation with
    | unload _ | shutdown | drop =>
      exact (patient trivial).keeps_unload (survives _ trivial rfl) name
    | _ => exact unloads.elim

/-- What survives all that an operation may involve survives the operation, however it
ends. -/
theorem survives_perform {operation : Operation σ} {host : Host σ}
    (survives : ∀ deed, operation.Involves host deed → Survives code P deed) (holds : P host) :
    (operation.perform code).Meets host (fun _ => P) (fun _ => P) (fun _ => P) := by
  refine survives_perform_by (fun deed involved _ => survives deed involved) (fun stream stops => ?_)
    holds
  have patient (news : operation.Involves host (.note true)) : Patient code P :=
    ⟨⟨survives _ (by simp only [Operation.Involves]), survives _ (by simp only [Operation.Involves]),
      survives _ (by simp only [Operation.Involves])⟩, survives _ news⟩
  cases operation with
  | stop _ | shutdown | drop =>
    exact keeps_stop_of (patient trivial).stepping (survives _ stops) (survives _ stops)
      (survives _ trivial) (survives _ stops)
  | _ => exact stops.elim

/-- What survives all that an operation may involve holds after it. -/
theorem Episode.survives {operation : Operation σ} {host : Host σ}
    (survives : ∀ deed, operation.Involves host deed → Survives code P deed) (holds : P host)
    (ends : (operation.perform code host).1 ≠ .exhausted) : P (operation.perform code host).2 :=
  (survives_perform survives holds).of_ne_exhausted ends

/-- What endures all else, and stops, holds along every history. -/
theorem History.Leads.endures_by {origin history : History σ} (leads : Leads code origin history)
    (survives : ∀ deed : Deed, deed.isOfStop = false → Survives code P deed)
    (stop : ∀ stream, Keeps P True True (Host.stop code stream)) (holds : P origin.host) :
    P history.host := by
  induction leads with
  | refl => exact holds
  | step operation _ _ ends ih =>
    exact (survives_perform_by (fun deed _ => survives deed) (fun stream _ => stop stream)
      ih).of_ne_exhausted ends

/-- **Whatever endures holds along every history.** -/
theorem History.Leads.endures {origin history : History σ} (leads : Leads code origin history)
    (enduring : Enduring code P) (holds : P origin.host) : P history.host :=
  leads.endures_by (fun deed _ => enduring deed) enduring.stoppable.keeps_stop holds

/-- What has been written stays written. -/
theorem enduring_written (code : UserCode σ) (prior : List Entry) :
    Enduring code fun host => prior <+: host.session.journal.toList := by
  intro deed before after does written
  cases does with
  | stir before after session =>
    rw [session]
    exact written
  | write | attach | enroll | mark | settle | announce | forget | join | leave =>
    exact prefix_push written _
  | fail => exact prefix_push (prefix_push (prefix_push written _) _) _
  | run _ program _ ends | outside _ program ends =>
    exact ((lax_written prior).keeps_run code program).of_ne_exhausted written ends
  | drain _ ends =>
    have drained : Keeps (fun session => prior <+: session.journal.toList) False False
        (Session.drain code.callees) :=
      (lax_written prior).keeps_drain ((lax_written prior).keeps_callback code)
    exact drained.of_ne_exhausted written ends
  | send | skip | shutDown | discard | close => exact written

/-- A panic of a filter is not forgotten. -/
theorem enduring_alarmed (code : UserCode σ) : Enduring code fun host => ¬ host.Calm :=
  fun deed _ _ does alarmed calm => alarmed fun entry member =>
    calm entry ((enduring_written code _ deed does List.prefix_rfl).subset member)

/-- A host that is calm after an operation has been before. -/
theorem Episode.calm_before (operation : Operation σ) {host : Host σ}
    (ends : (operation.perform code host).1 ≠ .exhausted)
    (calm : (operation.perform code host).2.Calm) : host.Calm :=
  Classical.byContradiction fun alarmed =>
    Episode.survives (fun deed _ => enduring_alarmed code deed) alarmed ends calm

theorem History.Leads.written {origin history : History σ} (leads : Leads code origin history) :
    origin.host.session.journal.toList <+: history.host.session.journal.toList :=
  leads.endures (enduring_written code _) List.prefix_rfl

/-- A host that is calm has always been. -/
theorem History.Leads.calm {origin history : History σ} (leads : Leads code origin history)
    (calm : history.host.Calm) : origin.host.Calm :=
  fun entry member => calm entry (leads.written.subset member)

end Host

end StreamControl
