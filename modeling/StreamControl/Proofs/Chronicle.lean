import StreamControl.Proofs.ControllerNames
import StreamControl.Proofs.Enduring
import StreamControl.Proofs.Reception

/-!
# The chronicle of a host

Whoever hears every event of a host can keep a chronicle of it: the names of the
loaded controllers and their phases, which streams run, and what has last been
told of each filter (`Chronicle.hear`).  A reader that keeps up does hear every
event (`Broadcast.drain_sent`).

Nothing but news changes the chronicle, and user code sends none, so only the
operations that load or unload controllers and that start or stop streams do.
`Host.Tells` says what they make of it.  At a start the news are out of step with
the host: that a filter is held back is told while the controllers are asked, and
the filter is marked later, when the others start.
-/

set_option autoImplicit false

namespace StreamControl

/-! ## Readers that keep up -/

namespace Broadcast

variable {ε : Type} {channel : Broadcast ε} {reader : ReaderId}

/-- A reader that is not too far behind is given all that it has not been given. -/
theorem drainUpTo_eq (limit : Nat) : ∀ {channel : Broadcast ε} {number : Nat},
    channel.position? reader = some number → channel.oldest ≤ number →
      channel.items.size - number < limit →
        (channel.drainUpTo limit reader).1 = channel.items.toList.drop number := by
  induction limit with
  | zero => exact fun _ _ few => absurd few (Nat.not_lt_zero _)
  | succ limit ih =>
    intro channel number position room few
    rw [drainUpTo, tryReceive, receivePastLag, receive, position]
    dsimp only
    rw [if_neg (Nat.not_lt.mpr room)]
    cases found : channel.items[number]? with
    | none =>
      have beyond : channel.items.size ≤ number := Array.getElem?_eq_none_iff.mp found
      rw [List.drop_eq_nil_of_le (by simpa using beyond)]
      cases channel.isOpen <;> rfl
    | some item =>
      obtain ⟨present, rfl⟩ := Array.getElem?_eq_some_iff.mp found
      have fewer : (channel.moveTo reader (number + 1)).items.size - (number + 1) < limit :=
        show channel.items.size - (number + 1) < limit by omega
      have rest := ih (position?_moveTo position (number + 1)) (Nat.le_succ_of_le room) fewer
      exact (congrArg (channel.items[number] :: ·) rest).trans
        (List.drop_eq_getElem_cons (i := number) (by simpa using present)).symm

/-- A reader that keeps up is given exactly what is sent, in order. -/
theorem drain_sent (items : List ε) (current : channel.position? reader = some channel.items.size)
    (room : items.length ≤ channel.room) :
    ((items.foldl (fun channel item => (channel.send item).2) channel).drain reader).1 = items := by
  have sent (items : List ε) : ∀ {channel : Broadcast ε}, channel.readers ≠ [] →
      items.foldl (fun channel item => (channel.send item).2) channel =
        { channel with items := channel.items ++ items.toArray } := by
    induction items with
    | nil => exact fun _ => by simp
    | cons item rest ih =>
      intro channel someone
      have one : (channel.send item).2 = { channel with items := channel.items.push item } := by
        rw [send, if_neg someone]
      rw [List.foldl_cons, one, ih (by exact someone)]
      simp
  have someone : channel.readers ≠ [] := by
    intro nobody
    rw [position?, nobody] at current
    cases current
  have position : ({ channel with items := channel.items ++ items.toArray } :
      Broadcast ε).position? reader = some channel.items.size := current
  rw [sent items someone, drain, backlog, position, drainUpTo_eq _ position]
  · simp
  · simp only [oldest, Array.size_append, List.size_toArray]
    omega
  · exact Nat.lt_succ_self _

end Broadcast

/-! ## Names that can be used -/

/-- A name that a controller is to be registered under is free and not too long. -/
theorem ControllerName.usable_of_resolve {path : String} {requested : Option String} {limit : Nat}
    {taken : String → Bool} {name : String}
    (resolved : ControllerName.resolve path requested limit taken = .ok name) :
    Usable limit taken name := by
  unfold resolve at resolved
  split at resolved
  · split at resolved
    · cases resolved
    · rename_i free
      obtain ⟨rfl, fits⟩ := checkLength_eq_ok_iff.mp resolved
      exact ⟨Bool.eq_false_iff.mpr free, fits⟩
  · simp only [bind, Except.bind] at resolved
    split at resolved
    · cases resolved
    · rename_i short
      split at resolved
      · split at resolved
        · rename_i found
          obtain ⟨rfl, fits⟩ := checkLength_eq_ok_iff.mp resolved
          exact ⟨by simpa using List.find?_some found, fits⟩
        · cases resolved
      · rename_i free
        cases resolved
        obtain ⟨rfl, fits⟩ := checkLength_eq_ok_iff.mp short
        exact ⟨Bool.eq_false_iff.mpr free, fits⟩

/-! ## Chronicles -/

/-- The phases of a controller. -/
structure Phases where
  /-- Its phase as a whole. -/
  whole : Phase := .unconstructed
  /-- Its phase with every stream it has seen start. -/
  streams : OrderedMap StreamId Phase := .empty

/-- The phases after a step. -/
def Phases.moved (phases : Phases) (stream? : Option StreamId) (target : Phase) : Phases where
  whole := target
  streams := match stream? with
    | some stream => phases.streams.insert stream target
    | none => phases.streams

/-- Only the last of several steps with a stream shows. -/
@[simp] theorem Phases.moved_moved (phases : Phases) (stream? : Option StreamId)
    (target further : Phase) :
    (phases.moved stream? target).moved stream? further = phases.moved stream? further := by
  cases stream? with
  | none => rfl
  | some stream =>
    refine congrArg (Phases.mk further) (OrderedMap.ext_find? fun other => ?_)
    simp only [moved, OrderedMap.find?_insert]
    split <;> rfl

/-- The phases of a loaded controller. -/
def LoadedController.phases (controller : LoadedController) : Phases :=
  ⟨controller.phase, controller.streamPhases⟩

/-- What can be known of a host from its events. -/
structure Chronicle where
  /-- The names of the loaded controllers, in load order. -/
  names : List String := []
  /-- The phases of the controllers. -/
  phases : String → Phases := fun _ => {}
  /-- Which streams run. -/
  runs : StreamId → Bool := fun _ => false
  /-- What has last been told of each filter. -/
  state? : StreamId → String → Option FilterState := fun _ _ => none

namespace Chronicle

variable (chronicle : Chronicle) (stream : StreamId)

/-- Some controllers have taken a step. -/
def step (names : List String) (stream? : Option StreamId) (target : Phase) : Chronicle :=
  { chronicle with phases := fun name =>
      if name ∈ names then (chronicle.phases name).moved stream? target else chronicle.phases name }

/-- Some filters are told to be in a state. -/
def tell (filters : List String) (state : FilterState) : Chronicle :=
  { chronicle with state? := fun other filter =>
      if other = stream ∧ filter ∈ filters then some state else chronicle.state? other filter }

/-- A stream runs from now on, or does not. -/
def setRuns (runs : Bool) : Chronicle :=
  { chronicle with runs := fun other => if other = stream then runs else chronicle.runs other }

/-- A controller is loaded. -/
def load (name : String) : Chronicle := { chronicle with names := chronicle.names ++ [name] }

/-- A controller is gone, and its phases with it. -/
def unload (name : String) : Chronicle :=
  { chronicle with
    names := chronicle.names.filter (· ≠ name)
    phases := fun other => if other = name then {} else chronicle.phases other }

/-- The chronicle after one more event. -/
def hear : Event → Chronicle
  | .controllerLoaded name => chronicle.load name
  | .controllerUnloaded name => chronicle.unload name
  | .lifecycleChanged name stream? _ target => chronicle.step [name] stream? target
  | .startVetoed _ stream filter => chronicle.tell stream [filter] .idle
  | .filterStarted stream filter => chronicle.tell stream [filter] .started
  | .filterFailed stream filter _ => chronicle.tell stream [filter] .failed
  | .filterStopped stream filter => chronicle.tell stream [filter] .stopped
  | .streamStarted stream => chronicle.setRuns stream true
  | .streamStopped stream => chronicle.setRuns stream false
  | _ => chronicle

/-- Only news matter. -/
theorem hear_of_not_news {event : Event} (old : event.isNews = false) :
    chronicle.hear event = chronicle := by
  cases event <;> first | rfl | cases old

@[simp] theorem step_nil (stream? : Option StreamId) (target : Phase) :
    chronicle.step [] stream? target = chronicle := by
  simp only [step, List.not_mem_nil, if_false]

@[simp] theorem tell_nil (state : FilterState) : chronicle.tell stream [] state = chronicle := by
  simp only [tell, List.not_mem_nil, and_false, if_false]

/-- The same step, first of some controllers and then of others. -/
theorem step_step (first second : List String) (stream? : Option StreamId) (target : Phase) :
    (chronicle.step first stream? target).step second stream? target =
      chronicle.step (first ++ second) stream? target := by
  simp only [step, List.mem_append]
  congr 1
  funext name
  by_cases one : name ∈ first <;> by_cases two : name ∈ second <;> simp [one, two]

/-- Of two steps of the same controllers with the same stream the second shows. -/
theorem step_again (names : List String) (stream? : Option StreamId) (target further : Phase) :
    (chronicle.step names stream? target).step names stream? further =
      chronicle.step names stream? further := by
  simp only [step]
  congr 1
  funext name
  by_cases member : name ∈ names <;> simp [member]

/-- With a controller its phases are gone. -/
theorem unload_step (name : String) (stream? : Option StreamId) (target : Phase) :
    (chronicle.step [name] stream? target).unload name = chronicle.unload name := by
  simp only [step, unload, List.mem_singleton]
  congr 1
  funext other
  by_cases here : other = name <;> simp [here]

/-- Steps and what is told of filters do not meet. -/
theorem step_tell (filters names : List String) (state : FilterState)
    (stream? : Option StreamId) (target : Phase) :
    (chronicle.tell stream filters state).step names stream? target =
      (chronicle.step names stream? target).tell stream filters state := rfl

/-- The same is told, first of some filters and then of others. -/
theorem tell_tell (first second : List String) (state : FilterState) :
    (chronicle.tell stream first state).tell stream second state =
      chronicle.tell stream (first ++ second) state := by
  simp only [tell, List.mem_append]
  congr 1
  funext other filter
  by_cases here : other = stream <;> by_cases one : filter ∈ first <;>
    by_cases two : filter ∈ second <;> simp [here, one, two]

/-- A filter has been gone through at a start.  That one is held back has been told
before. -/
def settle : FilterSlot × StartResult → Chronicle
  | (_, .vetoed) => chronicle
  | (slot, result) => chronicle.tell stream [slot.name] result.state

/-- Filters have been gone through at a start. -/
def settled (results : List (FilterSlot × StartResult)) : Chronicle :=
  results.foldl (fun chronicle => chronicle.settle stream) chronicle

/-- A start has come as far as these filters, after some were held back. -/
def starting (names vetoed : List String) (results : List (FilterSlot × StartResult)) :
    Chronicle :=
  ((chronicle.step names (some stream) .preStarted).tell stream vetoed .idle).settled stream results

/-- A start is over. -/
def started (names vetoed : List String) (results : List (FilterSlot × StartResult)) : Chronicle :=
  ((chronicle.starting stream names vetoed results).step names (some stream) .started).setRuns stream
    true

/-- A stop is over. -/
def stopped (names filters : List String) : Chronicle :=
  (((chronicle.step names (some stream) .preStopped).tell stream filters .stopped).step names
    (some stream) .stopped).setRuns stream false

/-- Going through filters matters only to what is told of them. -/
theorem settled_eq (results : List (FilterSlot × StartResult)) :
    chronicle.settled stream results =
      { chronicle with state? := (chronicle.settled stream results).state? } := by
  induction results generalizing chronicle with
  | nil => rfl
  | cons result rest ih =>
    obtain ⟨slot, result⟩ := result
    rw [show chronicle.settled stream ((slot, result) :: rest) =
      (chronicle.settle stream (slot, result)).settled stream rest from rfl, ih]
    cases result <;> rfl

end Chronicle

/-! ## News in the journal -/

/-- The event that an entry shows. -/
def Entry.event? : Entry → Option Event
  | .sent event => some event
  | _ => none

/-- The events that have been sent, in order. -/
def Journal.events (journal : Journal) : List Event := journal.toList.filterMap Entry.event?

/-- The chronicle that the events make. -/
def Journal.chronicle (journal : Journal) : Chronicle :=
  journal.events.foldl Chronicle.hear {}

theorem Journal.chronicle_push (journal : Journal) (entry : Entry) :
    Journal.chronicle (journal.push entry) =
      (entry.event?.map journal.chronicle.hear).getD journal.chronicle := by
  rw [chronicle, events, Array.toList_push, List.filterMap_append, List.foldl_append]
  cases entry <;> rfl

theorem Journal.chronicle_push_sent (journal : Journal) (event : Event) :
    Journal.chronicle (journal.push (.sent event)) = journal.chronicle.hear event :=
  journal.chronicle_push _

theorem Journal.chronicle_push_of_not_news (journal : Journal) {entry : Entry}
    (old : entry.isNews = false) : Journal.chronicle (journal.push entry) = journal.chronicle := by
  rw [chronicle_push]
  cases entry with
  | sent event => exact Chronicle.hear_of_not_news _ old
  | _ => rfl

namespace Session

open StreamControl.Action

variable {σ α : Type}

theorem lax_chronicle (chronicle : Chronicle) :
    Lax fun session : Session σ => session.journal.chronicle = chronicle where
  record plain same :=
    (Journal.chronicle_push_of_not_news _ (Entry.not_news_of_isPlain plain)).trans same
  memory _ same := same
  tally _ same := same
  channel _ same := same
  edit _ same := (Journal.chronicle_push_of_not_news _ rfl).trans same
  recordQuery ofQuery same :=
    (Journal.chronicle_push_of_not_news _ (Entry.not_news_of_isOfQuery ofQuery)).trans same
  queue _ _ _ same := same

theorem chronicle_failing (session : Session σ) (controller hook : String) (level : Level)
    (text : String) {event : Event} (failure : event.isFailure = true) :
    (session.failing controller hook level text event).journal.chronicle =
      session.journal.chronicle := by
  have old : (Entry.sent event).isNews = false := Event.not_news_of_isFailure failure
  rw [failing, Journal.chronicle_push_of_not_news _ old, Journal.chronicle_push_of_not_news _ rfl,
    Journal.chronicle_push_of_not_news _ rfl]

theorem keeps_drain_chronicle (code : UserCode σ) (chronicle : Chronicle) {refusal panic : Prop} :
    Keeps (fun session => session.journal.chronicle = chronicle) refusal panic
      (drain code.callees) :=
  (lax_chronicle chronicle).keeps_drain ((lax_chronicle chronicle).keeps_callback code)

theorem sober_chronicle (code : UserCode σ) (chronicle : Chronicle) :
    Sober code fun session => session.journal.chronicle = chronicle where
  note _ old same := (Journal.chronicle_push_of_not_news _ old).trans same
  fail _ _ _ _ _ failure same := (chronicle_failing _ _ _ _ _ failure).trans same
  channel _ same := same
  run program _ := (lax_chronicle chronicle).keeps_run code program

/-- An action that always returns and changes the chronicle in a certain way. -/
def Hears (change : Chronicle → Chronicle) (action : Action (Session σ) α) : Prop :=
  ∀ session, action.Meets session
    (fun _ after => after.journal.chronicle = change session.journal.chronicle) (fun _ _ => False)
    (fun _ _ => False)

theorem hears_record {entry : Entry} (old : entry.isNews = false) :
    Hears id (record entry : Action (Session σ) Unit) :=
  fun session => Journal.chronicle_push_of_not_news session.journal old

/-- An event changes the chronicle as it is heard. -/
theorem hears_emit (event : Event) :
    Hears (·.hear event) (emit event : Action (Session σ) Unit) := by
  intro session
  rw [emit, meets_bind, meets_modify, record, meets_modify]
  exact Journal.chronicle_push_sent _ _

end Session

namespace Host

open StreamControl.Action Session

variable {σ α β : Type}

/-- The chronicle that the events of a host make. -/
def chronicle (host : Host σ) : Chronicle := host.session.journal.chronicle

/-! ## What becomes of the chronicle -/

/-- The serial numbers of the loaded controllers, and their names. -/
def roll (host : Host σ) : List (Nat × String) :=
  host.controllers.map fun controller => (controller.serial, controller.name)

theorem serials_eq_roll (host : Host σ) : host.outline.serials = host.roll.map (·.1) := by
  rw [roll, List.map_map]
  rfl

/-- What the chronicle is now; the controllers are the same. -/
structure Tells (chronicle : Chronicle) (before after : Host σ) : Prop where
  /-- The chronicle now. -/
  chronicle : after.chronicle = chronicle
  /-- The controllers are those there were. -/
  roll : after.roll = before.roll

theorem Tells.refl (host : Host σ) : Tells host.chronicle host host := ⟨rfl, rfl⟩

theorem Tells.trans {chronicle chronicle' : Chronicle} {first second third : Host σ}
    (one : Tells chronicle first second) (two : Tells chronicle' second third) :
    Tells chronicle' first third := ⟨two.chronicle, two.roll.trans one.roll⟩

theorem Tells.nodup {chronicle : Chronicle} {before after : Host σ}
    (tells : Tells chronicle before after) (nodup : before.outline.serials.Nodup) :
    after.outline.serials.Nodup := by
  rwa [serials_eq_roll, tells.roll, ← serials_eq_roll]

/-- Doing something in the session that sends no news. -/
theorem Tells.quiet {chronicle : Chronicle} {before between : Host σ}
    (tells : Tells chronicle before between) {action : Action (Session σ) α}
    (quiet : Keeps (fun session => session.journal.chronicle = chronicle) True True action) :
    (onSession action).Yields between fun _ => Tells chronicle before :=
  yields_within.mpr ((quiet.yields tells.chronicle).imp fun _ _ same => ⟨same, tells.roll⟩)

/-- Going on, after some news, with something that sends none. -/
theorem Tells.next {chronicle : Chronicle} {before between : Host σ}
    (tells : Tells chronicle before between) {first : Action (Session σ) α}
    (quiet : Keeps (fun session => session.journal.chronicle = chronicle) True True first)
    {further : α → Action (Host σ) β} {returns : β → Host σ → Prop}
    (rest : ∀ value after, Tells chronicle before after → (further value).Yields after returns) :
    (onSession first >>= further).Yields between returns :=
  yields_bind.mpr ((tells.quiet quiet).imp rest)

/-- Going on with an event. -/
theorem Tells.emit {chronicle : Chronicle} {before between : Host σ}
    (tells : Tells chronicle before between) (event : Event)
    {further : Unit → Action (Host σ) β} {returns : β → Host σ → Prop}
    (rest : ∀ after, Tells (chronicle.hear event) before after → (further ()).Yields after returns) :
    (onSession (Session.emit event) >>= further).Yields between returns := by
  rw [yields_bind, onSession, yields_within]
  refine (hears_emit event between.session).yields.imp fun _ session heard => rest _ ⟨?_, tells.roll⟩
  rw [← tells.chronicle]
  exact heard

/-- Going on with a change of a filter graph. -/
theorem Tells.modifyStream {chronicle : Chronicle} {before between : Host σ}
    (tells : Tells chronicle before between) (stream : StreamId)
    (change : FilterGraph → FilterGraph)
    {further : Unit → Action (Host σ) β} {returns : β → Host σ → Prop}
    (rest : ∀ after, Tells chronicle before after → (further ()).Yields after returns) :
    (modifyStream stream change >>= further).Yields between returns :=
  yields_bind.mpr (rest _ ⟨tells.chronicle, tells.roll⟩)

/-! ## Steps of controllers -/

theorem hears_announceStep (controller : LoadedController) (stream? : Option StreamId)
    (origin target : Phase) :
    Hears (·.step [controller.name] stream? target)
      (announceStep controller stream? origin target : Action (Session σ) Unit) := by
  intro session
  rw [announceStep, meets_bind]
  refine (hears_record rfl session).always fun _ recorded same => ?_
  refine (hears_emit _ recorded).always fun _ after heard => ?_
  rw [heard, same]
  rfl

theorem roll_replaced {host : Host σ} (nodup : host.outline.serials.Nodup)
    {controller : LoadedController} (member : controller ∈ host.controllers)
    (stream? : Option StreamId) (target : Phase) :
    (host.controllers.map fun other => if other.serial = controller.serial then
      controller.moved stream? target else other).map (fun other => (other.serial, other.name)) =
        host.roll := by
  rw [roll, List.map_map]
  refine List.map_congr_left fun other present => ?_
  rw [Function.comp_apply]
  split
  · rename_i same
    have again := find?_serial nodup present
    rw [same, find?_serial nodup member, Option.some.injEq] at again
    rw [← again]
    rfl
  · rfl

/-- A step of a controller is announced under its name. -/
theorem tells_advance {host : Host σ} (nodup : host.outline.serials.Nodup) {serial : Nat}
    {name : String} (member : (serial, name) ∈ host.roll) (stream? : Option StreamId)
    (target : Phase) :
    (advance serial stream? target).Yields host fun _ =>
      Tells (host.chronicle.step [name] stream? target) host := by
  obtain ⟨controller, loaded, same⟩ := List.mem_map.mp member
  cases same
  rw [advance, yields_bind, yields_get, find?_serial nodup loaded]
  dsimp only
  rw [LoadedController.advance_eq, yields_bind]
  split
  · have replaced : Tells host.chronicle host { host with
        controllers := host.controllers.map fun other =>
          if other.serial = controller.serial then controller.moved stream? target else other } :=
      ⟨rfl, roll_replaced nodup loaded stream? target⟩
    refine yields_pure.mpr ?_
    dsimp only
    rw [yields_bind, replaceController, yields_modify, onSession, yields_within]
    exact (hears_announceStep _ _ _ _ _).yields.imp fun _ session heard => ⟨heard, replaced.roll⟩
  · exact trivial

/-- Controllers step in order, each after one of its hooks has been called. -/
theorem tells_callFilterHooks (code : UserCode σ) (hook : Hook) (target : Phase)
    (stream : StreamId) (slots : List FilterSlot) (controllers : List LoadedController) :
    ∀ {host : Host σ}, host.outline.serials.Nodup →
      (∀ controller ∈ controllers, (controller.serial, controller.name) ∈ host.roll) →
      (callFilterHooks code hook target stream slots controllers).Yields host fun _ =>
        Tells (host.chronicle.step (controllers.map (·.name)) (some stream) target) host := by
  induction controllers with
  | nil =>
    intro host _ _
    rw [List.map_nil, Chronicle.step_nil]
    exact Tells.refl host
  | cons controller rest ih =>
    intro host nodup present
    rw [callFilterHooks, yields_bind, yields_get]
    refine (Tells.refl host).next ((keeps_callFilterHook? (sober_chronicle code _).toModest _
      controller hook stream slots).mono False.elim id) fun failures called tells => ?_
    rw [yields_bind]
    have member : (controller.serial, controller.name) ∈ called.roll :=
      tells.roll ▸ present controller List.mem_cons_self
    refine (tells_advance (tells.nodup nodup) member _ _).imp fun _ moved stepped => ?_
    have both := tells.trans stepped
    rw [yields_bind]
    refine (ih (both.nodup nodup) fun other later => ?_).imp fun more after further => ?_
    · rw [both.roll]
      exact present other (List.mem_cons_of_mem _ later)
    · rw [both.chronicle, tells.chronicle, Chronicle.step_step] at further
      exact both.trans further

/-! ## Vetoes -/

/-- The filters that a controller is the first to hold back are told to be idle. -/
theorem yields_askAboutAll (code : UserCode σ) (spans : SpanConfig)
    (controller : LoadedController) (stream : StreamId) (slots : List FilterSlot) :
    ∀ held (session : Session σ),
      (askAboutAll code spans controller stream held slots).Yields session fun answer after =>
        ∃ vetoed, vetoed ⊆ slots ∧ answer.1 = held ++ vetoed.map (·.index) ∧
          after.journal.chronicle =
            session.journal.chronicle.tell stream (vetoed.map (·.name)) .idle := by
  induction slots with
  | nil => exact fun held session => ⟨[], List.Subset.refl _, (List.append_nil _).symm,
      (Chronicle.tell_nil _ _ _).symm⟩
  | cons slot rest ih =>
    intro held session
    rw [askAboutAll, yields_bind]
    have ask : Keeps (fun after : Session σ => after.journal.chronicle = session.journal.chronicle)
        False False (askAbout code spans controller stream slot) :=
      keeps_askAbout (sober_chronicle code _).toModest spans controller stream slot
    refine (ask.yields rfl).imp fun answer asked same => ?_
    dsimp only
    split
    · rw [yields_bind]
      refine (hears_record rfl asked).yields.imp fun _ noted unchanged => ?_
      rw [yields_bind]
      refine (hears_emit _ noted).yields.imp fun _ announced heard => ?_
      rw [yields_bind, yields_pure, yields_bind]
      refine (ih _ announced).imp fun last after further => ?_
      obtain ⟨vetoed, among, numbers, told⟩ := further
      refine ⟨slot :: vetoed, List.cons_subset_cons slot among, ?_, ?_⟩
      · rw [numbers, List.map_cons, List.append_assoc]
        rfl
      · rw [told, heard, unchanged, id, same]
        exact Chronicle.tell_tell _ _ _ _ _
    · rw [yields_bind, yields_pure, yields_bind]
      refine (ih held asked).imp fun last after further => ?_
      obtain ⟨vetoed, among, numbers, told⟩ := further
      exact ⟨vetoed, List.subset_cons_of_subset _ among, numbers, same ▸ told⟩

/-- Controllers step in order and are then asked, and what is told is which filters are
held back. -/
theorem tells_poll (code : UserCode σ) (stream : StreamId) (slots : List FilterSlot)
    (controllers : List LoadedController) :
    ∀ {host : Host σ} (held : List Nat), host.outline.serials.Nodup →
      (∀ controller ∈ controllers, (controller.serial, controller.name) ∈ host.roll) →
      (poll code stream slots held controllers).Yields host fun polled after =>
        ∃ vetoed, vetoed ⊆ slots ∧ polled.1 = held ++ vetoed.map (·.index) ∧
          Tells ((host.chronicle.step (controllers.map (·.name)) (some stream) .preStarted).tell
            stream (vetoed.map (·.name)) .idle) host after := by
  induction controllers with
  | nil =>
    intro host held _ _
    refine ⟨[], List.nil_subset _, (List.append_nil _).symm, ?_⟩
    rw [List.map_nil, List.map_nil, Chronicle.step_nil, Chronicle.tell_nil]
    exact Tells.refl host
  | cons controller rest ih =>
    intro host held nodup present
    rw [poll, yields_bind]
    refine (tells_advance nodup (present controller List.mem_cons_self) _ _).imp
      fun _ moved tells => ?_
    rw [yields_bind, yields_get, yields_bind, onSession, yields_within]
    refine (yields_askAboutAll code _ controller stream slots held _).imp fun answer session told => ?_
    obtain ⟨vetoed, among, numbers, told⟩ := told
    have asked : Tells (moved.chronicle.tell stream (vetoed.map (·.name)) .idle) host
        { moved with session } := ⟨told, tells.roll⟩
    rw [tells.chronicle] at asked
    rw [yields_bind]
    refine (ih answer.1 (asked.nodup nodup) fun other later => ?_).imp fun polled after further => ?_
    · rw [asked.roll]
      exact present other (List.mem_cons_of_mem _ later)
    · obtain ⟨more, others, rest, last⟩ := further
      refine ⟨vetoed ++ more, List.append_subset.mpr ⟨among, others⟩, ?_, ?_⟩
      · rw [List.map_append, ← List.append_assoc, ← numbers]
        exact rest
      · rw [asked.chronicle, Chronicle.step_tell, Chronicle.step_step, Chronicle.tell_tell,
          ← List.map_append] at last
        exact asked.trans last

/-! ## Starts -/

theorem tells_markFilter {chronicle : Chronicle} {before between : Host σ}
    (tells : Tells chronicle before between) (stream : StreamId) (slot : FilterSlot)
    (state : FilterState) (started : Bool) :
    (markFilter stream slot state started).Yields between fun _ => Tells chronicle before := by
  refine tells.modifyStream stream _ fun changed tells => ?_
  rw [onSession, yields_within]
  have edit : Keeps (fun session : Session σ => session.journal.chronicle = chronicle) True False
      (Session.changeTree fun tree => ((), ·) <$> tree.setStarted stream slot.name started) := by
    intro session same
    rw [meets_changeTree_unit]
    split
    · exact (Journal.chronicle_push_of_not_news _ rfl).trans same
    · exact ⟨trivial, same⟩
  exact (edit.yields tells.chronicle).imp fun _ _ same => ⟨same, tells.roll⟩

/-- What comes of a filter at a start is told, unless it is held back. -/
theorem tells_startFilter (code : UserCode σ) (stream : StreamId) (held : List Nat)
    (slot : FilterSlot) (host : Host σ) :
    (startFilter code stream held slot).Yields host fun result after =>
      (result = .vetoed → slot.index ∈ held) ∧
        Tells (host.chronicle.settle stream (slot, result)) host after := by
  rw [startFilter]
  split
  · rename_i here
    exact (Tells.refl host).modifyStream stream _ fun _ tells => ⟨fun _ => here, tells⟩
  · refine (Tells.refl host).next ((keeps_callFilter (sober_chronicle code _).toModest .start stream
      slot).mono False.elim id) fun result called tells => ?_
    cases result with
    | ok value =>
      dsimp only
      rw [yields_bind]
      refine (tells_markFilter tells stream slot .started true).imp fun _ marked tells => ?_
      refine tells.next ((sober_chronicle code _).keeps_log _ _)
        fun _ logged tells => ?_
      exact tells.emit _ fun after tells => ⟨(fun same => by cases same), tells⟩
    | error fault =>
      dsimp only
      refine tells.modifyStream stream _ fun marked tells => ?_
      refine tells.next ((sober_chronicle code _).keeps_log _ _)
        fun _ logged tells => ?_
      exact tells.emit _ fun after tells => ⟨(fun same => by cases same), tells⟩

theorem tells_startFilters (code : UserCode σ) (stream : StreamId) (held : List Nat)
    (slots : List FilterSlot) :
    ∀ host : Host σ, (startFilters code stream held slots).Yields host fun results after =>
      (∀ result ∈ results, result.2 = .vetoed → result.1.index ∈ held) ∧
        Tells (host.chronicle.settled stream results) host after := by
  induction slots with
  | nil => exact fun host => ⟨(fun _ member => nomatch member), Tells.refl host⟩
  | cons slot rest ih =>
    intro host
    rw [startFilters, yields_bind]
    refine (tells_startFilter code stream held slot host).imp fun result between first => ?_
    obtain ⟨vetoed, tells⟩ := first
    rw [yields_bind]
    refine (ih between).imp fun results after further => ?_
    obtain ⟨others, more⟩ := further
    rw [tells.chronicle] at more
    exact ⟨List.forall_mem_cons.mpr ⟨vetoed, others⟩, tells.trans more⟩

/-- Up to where the filters that can are started, every filter is told of, when it is
held back or when it is gone through. -/
theorem tells_openStart (code : UserCode σ) {host : Host σ} {stream : StreamId}
    {graph : FilterGraph} (nodup : host.outline.serials.Nodup) :
    (openStart code stream graph host).Yields host fun opened after =>
      ∃ vetoed, vetoed ⊆ graph.slots ∧
        (∀ result ∈ opened.2, result.2 = .vetoed → ∃ slot ∈ vetoed, slot.index = result.1.index) ∧
        Tells (host.chronicle.starting stream host.controllerNames (vetoed.map (·.name)) opened.2)
          host after := by
  rw [openStart]
  refine (Tells.refl host).next ((sober_chronicle code _).keeps_openSpan _) fun _ opened tells => ?_
  rw [yields_bind]
  refine (tells_poll code stream graph.slots host.controllers [] (tells.nodup nodup)
    fun controller member => ?_).imp fun polled asked told => ?_
  · rw [tells.roll]
    exact List.mem_map_of_mem member
  obtain ⟨vetoed, among, numbers, told⟩ := told
  rw [tells.chronicle] at told
  have polls := tells.trans told
  rw [yields_bind]
  refine (tells_startFilters code stream polled.1 graph.slots asked).imp
    fun results started further => ?_
  obtain ⟨held, starts⟩ := further
  rw [polls.chronicle] at starts
  refine (polls.trans starts).modifyStream stream _ fun after tells => ?_
  refine ⟨vetoed, among, fun result member same => ?_, tells⟩
  have number := held result member same
  rw [numbers, List.nil_append] at number
  exact List.mem_map.mp number

theorem tells_closeStart (code : UserCode σ) {host between : Host σ} {stream : StreamId}
    (nodup : between.outline.serials.Nodup) (roll : between.roll = host.roll)
    (results : List (FilterSlot × StartResult)) :
    (closeStart code stream host.controllers results).Yields between fun _ =>
      Tells ((between.chronicle.step host.controllerNames (some stream) .started).setRuns stream
        true) between := by
  rw [closeStart, yields_bind]
  refine (tells_callFilterHooks code .postStart .started stream (startedSlots results)
    host.controllers nodup fun controller member => ?_).imp fun failures told tells => ?_
  · rw [roll]
    exact List.mem_map_of_mem member
  · refine tells.next ((sober_chronicle code _).keeps_log _ _)
      fun _ logged tells => ?_
    exact tells.emit _ fun after tells => tells

/-! ## Stops -/

theorem tells_stopFilter (code : UserCode σ) (stream : StreamId) (slot : FilterSlot)
    (host : Host σ) :
    (stopFilter code stream slot).Yields host fun _ =>
      Tells (host.chronicle.tell stream [slot.name] .stopped) host := by
  rw [stopFilter]
  refine (Tells.refl host).next ((keeps_callFilter (sober_chronicle code _).toModest .stop stream
    slot).mono False.elim id) fun result called tells => ?_
  -- What follows is the same whether or not the function refused.
  have finish : ∀ (refusal : Option Fault) (between : Host σ), Tells host.chronicle host between →
      (do
        markFilter stream slot .stopped false
        onSession (Session.emit (.filterStopped stream slot.name))
        return refusal : Action (Host σ) (Option Fault)).Yields between fun _ =>
          Tells (host.chronicle.tell stream [slot.name] .stopped) host := by
    intro refusal between tells
    rw [yields_bind]
    refine (tells_markFilter tells stream slot .stopped false).imp fun _ marked tells => ?_
    exact tells.emit _ fun after tells => tells
  cases result with
  | ok value => exact finish none called tells
  | error fault =>
    exact tells.next ((sober_chronicle code _).keeps_log _ _)
      fun _ between tells => finish (some fault) between tells

theorem tells_stopFilters (code : UserCode σ) (stream : StreamId) (slots : List FilterSlot) :
    ∀ host : Host σ, (stopFilters code stream slots).Yields host fun _ =>
      Tells (host.chronicle.tell stream (slots.map (·.name)) .stopped) host := by
  induction slots with
  | nil =>
    intro host
    rw [List.map_nil, Chronicle.tell_nil]
    exact Tells.refl host
  | cons slot rest ih =>
    intro host
    rw [stopFilters, yields_bind]
    refine (tells_stopFilter code stream slot host).imp fun refusal between tells => ?_
    rw [yields_bind]
    refine (ih between).imp fun others after more => ?_
    rw [tells.chronicle, Chronicle.tell_tell] at more
    exact tells.trans more

theorem tells_stopRunning (code : UserCode σ) {host : Host σ} {stream : StreamId}
    {graph : FilterGraph} (nodup : host.outline.serials.Nodup) :
    (stopRunning code stream graph).Yields host fun _ =>
      Tells (host.chronicle.stopped stream ((host.witnesses stream).map (·.name))
        ((runningSlots graph).map (·.name))) host := by
  have present : ∀ controller ∈ host.witnesses stream,
      (controller.serial, controller.name) ∈ host.roll :=
    fun controller member => List.mem_map_of_mem (mem_witnesses.mp member).1
  rw [stopRunning, yields_bind, yields_get]
  refine (Tells.refl host).next ((sober_chronicle code _).keeps_openSpan _) fun _ opened tells => ?_
  rw [yields_bind]
  refine (tells_callFilterHooks code .preStop .preStopped stream (runningSlots graph)
    (host.witnesses stream) (tells.nodup nodup) (tells.roll ▸ present)).imp fun before told more => ?_
  rw [tells.chronicle] at more
  have first := tells.trans more
  rw [yields_bind]
  refine (tells_stopFilters code stream (runningSlots graph) told).imp fun refusals halted more => ?_
  rw [first.chronicle] at more
  refine (first.trans more).modifyStream stream _ fun idle second => ?_
  rw [yields_bind]
  refine (tells_callFilterHooks code .postStop .stopped stream (runningSlots graph)
    (host.witnesses stream) (second.nodup nodup) (second.roll ▸ present)).imp
      fun after told more => ?_
  rw [second.chronicle] at more
  have third := second.trans more
  have settle (chronicle : Chronicle) :
      Keeps (fun session : Session σ => session.journal.chronicle = chronicle) True True
        (Session.changeTree fun tree => .ok (tree.dropUnkept stream)) := by
    intro session same
    rw [meets_changeTree]
    exact (Journal.chronicle_push_of_not_news _ rfl).trans same
  refine third.next (settle _) fun removed _ tells => ?_
  refine tells.next (keeps_drain_chronicle code _) fun _ _ tells => ?_
  refine tells.next ((sober_chronicle code _).keeps_log _ _)
    fun _ logged tells => ?_
  exact tells.emit _ fun after tells => tells

theorem tells_stop (code : UserCode σ) {host : Host σ} (stream : StreamId)
    (nodup : host.outline.serials.Nodup) :
    (stop code stream).Yields host fun _ after => ∃ graph, host.stream? stream = some graph ∧
      Tells (host.chronicle.stopped stream ((host.witnesses stream).map (·.name))
        ((runningSlots graph).map (·.name))) host after := by
  rw [stop, yields_bind, attached, yields_bind, yields_get]
  cases found : host.stream? stream with
  | none => exact trivial
  | some graph =>
    dsimp only
    rw [yields_pure]
    split
    · exact trivial
    · exact (tells_stopRunning code nodup).imp fun _ _ tells => ⟨graph, rfl, tells⟩

/-! ## Loading and unloading -/

/-- A controller that is loaded gets a name that is free, and is told to be
constructed before it is told to be loaded. -/
theorem tells_load (code : UserCode σ) (path : String) (requested : Option String)
    (module : ControllerModule) (arguments : List String) (host : Host σ) :
    (load code path requested module arguments).Meets host
      (fun name after => host.controller? name = none ∧
        after.chronicle = (host.chronicle.step [name] none .constructed).load name)
      (fun _ after => after.chronicle = host.chronicle) (fun _ _ => False) := by
  have sober := sober_chronicle (σ := σ) code host.chronicle
  rw [load, meets_bind, meets_get, meets_bind, meets_ofExcept]
  split
  · rename_i name resolved
    have unused := Bool.eq_false_iff.mp (ControllerName.usable_of_resolve resolved).1
    have free : host.controller? name = none := Option.not_isSome_iff_eq_none.mp unused
    rw [meets_bind, takeSerial, meets_bind, meets_get, meets_bind, meets_modify, meets_pure]
    dsimp only
    generalize hcontroller : ({ serial := host.nextSerial, name, path, module } :
      LoadedController) = controller
    have phase : controller.standing none = .unconstructed := by rw [← hcontroller]; rfl
    have named : controller.name = name := by rw [← hcontroller]
    rw [meets_bind, onSession, meets_within]
    refine (keeps_construct sober.toModest _ controller arguments _ rfl).mono ?_ (fun _ _ both => both.1.elim)
      fun _ _ both => both.1
    intro status session same
    cases status with
    | failed failure =>
      dsimp only
      rw [meets_bind, onSession, meets_within]
      refine (hears_record rfl session).always fun _ counted first => ?_
      rw [meets_bind, onSession, meets_within]
      refine (hears_record rfl counted).always fun _ logged second => ?_
      rw [meets_bind, onSession, meets_within]
      refine (hears_emit _ logged).always fun _ _ heard => ?_
      exact heard.trans (second.trans (first.trans same))
    | ok =>
      dsimp only
      rw [LoadedController.advance_eq, phase, if_pos (by rfl), meets_bind, meets_ofExcept]
      dsimp only
      rw [meets_bind, onSession, meets_within]
      refine (hears_announceStep _ _ _ _ session).always fun _ announced stepped => ?_
      rw [meets_bind, meets_modify, meets_bind, onSession, meets_within]
      refine (hears_record rfl announced).always fun _ logged unchanged => ?_
      rw [meets_bind, onSession, meets_within]
      refine (hears_emit _ logged).always fun _ after heard => ⟨free, heard.trans ?_⟩
      rw [unchanged, id, stepped, same, ← named]
      rfl
  · rfl

/-- A controller that is unloaded is told to be destroyed, and then to be unloaded. -/
theorem tells_unload (code : UserCode σ) (name : String) {host : Host σ}
    (nodup : host.outline.serials.Nodup) :
    (unload code name).Yields host fun _ after => after.chronicle = host.chronicle.unload name := by
  have sober := sober_chronicle (σ := σ) code host.chronicle
  rw [unload, yields_bind, loaded, yields_bind, yields_get]
  cases found : host.controller? name with
  | none => exact trivial
  | some controller =>
    have member := List.mem_of_find?_eq_some found
    have named : controller.name = name := by
      simpa using List.find?_some (found : host.controllers.find? _ = _)
    dsimp only
    rw [yields_pure]
    split
    · exact trivial
    · rw [yields_bind, yields_get]
      have finish : ∀ between : Host σ, Tells host.chronicle host between → (do
          advance controller.serial none .destroyed
          modify fun host => { host with
            controllers := host.controllers.filter (·.serial ≠ controller.serial) }
          onSession (Session.log .info "controller unloaded")
          onSession (Session.emit (.controllerUnloaded name)) : Action (Host σ) Unit).Yields
          between fun _ after => after.chronicle = host.chronicle.unload name := by
        intro between tells
        have present : (controller.serial, name) ∈ between.roll := by
          rw [tells.roll, ← named]
          exact List.mem_map_of_mem member
        rw [yields_bind]
        refine (tells_advance (tells.nodup nodup) present none .destroyed).imp
          fun _ stepped step => ?_
        rw [yields_bind, yields_modify]
        refine (Tells.refl _).next ((sober_chronicle code _).keeps_log _ _) fun _ logged last => ?_
        rw [onSession, yields_within]
        refine (hears_emit _ logged.session).yields.imp fun _ after heard => heard.trans ?_
        have same : logged.chronicle = stepped.chronicle := last.chronicle
        rw [step.chronicle, tells.chronicle] at same
        exact (congrArg (Chronicle.unload · name) same).trans (Chronicle.unload_step _ _ _ _)
      refine (Tells.refl host).next ((keeps_destroy sober.toModest _ controller).mono False.elim id)
        fun status destroyed tells => ?_
      cases status with
      | ok => exact finish destroyed tells
      | failed failure =>
        exact tells.next (keeps_reportHookFailure sober.toModest _ _ _ _) fun _ between tells =>
          finish between tells

/-! ## Operations that send no news -/

theorem survives_chronicle (code : UserCode σ) (chronicle : Chronicle) {deed : Deed}
    (old : deed ≠ .note true) (still : ∀ stream, deed ≠ .announce stream) :
    Survives code (fun host => host.chronicle = chronicle) deed := by
  intro before after does same
  have quiet {entry : Entry} (old : entry.isNews = false) :
      Journal.chronicle (before.session.journal.push entry) = chronicle :=
    (Journal.chronicle_push_of_not_news _ old).trans same
  cases does with
  | stir before after session =>
    rw [Host.chronicle, session]
    exact same
  | @write _ _ _ news shows =>
    cases news with
    | false => exact quiet shows
    | true => exact absurd rfl old
  | fail _ _ _ _ _ failure => exact (Session.chronicle_failing _ _ _ _ _ failure).trans same
  | run _ program _ ends | outside _ program ends =>
    exact ((lax_chronicle chronicle).keeps_run code program).of_ne_exhausted same ends
  | drain _ ends =>
    have drained : Keeps _ False False _ := keeps_drain_chronicle code chronicle
    exact drained.of_ne_exhausted same ends
  | announce _ stream => exact absurd rfl (still stream)
  | attach | enroll | mark | settle | forget | join | leave => exact quiet rfl
  | send | skip | shutDown | discard | close => exact same

/-- An operation that sends no news leaves the chronicle as it is, however it ends. -/
theorem meets_perform_quietly (code : UserCode σ) (operation : Operation σ) {host : Host σ}
    (quiet : ¬ operation.Involves host (.note true)) :
    (operation.perform code).Meets host (fun _ after => after.chronicle = host.chronicle)
      (fun _ after => after.chronicle = host.chronicle)
      (fun _ after => after.chronicle = host.chronicle) := by
  refine survives_perform (fun deed involved => survives_chronicle code _
    (fun same => quiet (same ▸ involved)) fun stream same => ?_) rfl
  subst same
  cases operation <;> first | exact involved | exact quiet trivial

end Host

end StreamControl
