import Mathlib.Data.List.Nodup
import StreamControl.Proofs.HookOrder
import StreamControl.Proofs.Inquiries
import StreamControl.Proofs.LateAnswers
import StreamControl.Proofs.Refusals

/-!
# What a start reports

A start that goes to its end is told in full by what it writes (`Host.Unfolds`).  Every
controller is called for every filter, also for those that are held back already.  A filter is
held back if some controller has objected to it, by a veto or by a panic, and what is announced
of it is the veto of the first one.  All other filters are started, each once, in the order of
the stream.

The report says the same: which filters have started, are held back or have failed, how many
queries that waited were answered, and how many failures of hooks were announced.  As long as no
filter panics, every start of a stream that does not run is of this kind (`Host.start_unfolds`).
-/

set_option autoImplicit false

namespace StreamControl

/-- The filter that a fault says could not be started. -/
def Fault.unstarted? : Fault → Option String
  | filterStartFailed filter _ => some filter
  | _ => none

/-- The names of the filters of a graph that are in a state, in stream order. -/
def FilterGraph.namesIn (graph : FilterGraph) (state : FilterState) : List String :=
  (graph.slots.filter (·.state = state)).map (·.name)

namespace Host

open StreamControl.Action Session

variable {σ α : Type} {seen : List Cue}

/-! ## Hooks that are told -/

/-- Hooks other than preStart are not asked. -/
theorem cue?_left_hook {hook : Hook} (told : hook ≠ .preStart) (serial : Nat)
    (target : Option (StreamId × String)) (exit : Exit) :
    (Entry.left (.hook serial hook target) exit).cue? = none := by
  cases hook <;> first | rfl | exact absurd rfl told

/-- A controller is told of some filters, and each failure is announced. -/
theorem yields_callFilterHook_cues (code : UserCode σ) (spans : SpanConfig)
    (controller : LoadedController) {hook : Hook} (told : hook ≠ .preStart) (stream : StreamId)
    (slots : List FilterSlot) :
    ∀ {seen : List Cue} {session : Session σ}, session.cues = seen →
      (callFilterHook code spans controller hook stream slots).Yields session fun failures after =>
        after.cues = seen ++ List.replicate failures .hookFailed := by
  induction slots with
  | nil => exact fun same => same.trans (List.append_nil _).symm
  | cons slot rest ih =>
    intro seen session same
    rw [callFilterHook]
    refine (Uncued.log _ _).next same fun _ _ same => ?_
    refine (Uncued.openSpan _).next same fun _ _ same => ?_
    rw [yields_bind, statusOf, yields_bind]
    refine (yields_guarded_cues code _ _ _ _ _ same).imp fun answer? between same => ?_
    rw [cue?_left_hook told, Option.toList_none, List.append_nil] at same
    rw [yields_pure]
    cases answer?.getD (.failed hookPanicCode) with
    | ok =>
      rw [yields_bind, yields_pure, yields_bind]
      refine (ih same).imp fun failures after further => ?_
      rw [yields_pure, Nat.zero_add]
      exact further
    | failed failure =>
      dsimp only
      rw [yields_bind]
      refine (yields_reportHookFailure_cues _ _ _ _ same).imp fun _ reported same => ?_
      rw [yields_bind, yields_pure, yields_bind]
      refine (ih same).imp fun failures after further => ?_
      rw [yields_pure, further, List.append_assoc, Nat.add_comm, List.replicate_succ]
      rfl

/-- Controllers are told of some filters one after another. -/
theorem yields_callFilterHooks_cues (code : UserCode σ) {hook : Hook} (told : hook ≠ .preStart)
    (target : Phase) (stream : StreamId) (slots : List FilterSlot)
    (controllers : List LoadedController) :
    ∀ {seen : List Cue} {host : Host σ}, host.session.cues = seen →
      (callFilterHooks code hook target stream slots controllers).Yields host fun failures after =>
        after.session.cues = seen ++ List.replicate failures .hookFailed := by
  induction controllers with
  | nil => exact fun same => same.trans (List.append_nil _).symm
  | cons controller rest ih =>
    intro seen host same
    rw [callFilterHooks, yields_bind, yields_get, yields_bind, onSession, yields_within]
    have call : (callFilterHook? code host.config.spans controller hook stream slots).Yields
        host.session fun failures after =>
          after.cues = seen ++ List.replicate failures .hookFailed := by
      rw [callFilterHook?]
      split
      · exact yields_callFilterHook_cues code _ _ told _ _ same
      · exact same.trans (List.append_nil _).symm
    refine call.imp fun failures called same => ?_
    have same : ({ host with session := called } : Host σ).session.cues =
        seen ++ List.replicate failures .hookFailed := same
    refine (uncued_advance _ _ _ _).next_yields same fun _ moved same => ?_
    rw [yields_bind]
    refine (ih same).imp fun more after further => ?_
    rw [yields_pure, further, List.append_assoc, List.replicate_append_replicate]

/-! ## Filters that are started -/

theorem uncued_modifyStream (stream : StreamId) (change : FilterGraph → FilterGraph) :
    Keeps (fun host : Host σ => host.session.cues = seen) True True (modifyStream stream change) :=
  keeps_modify fun _ same => same

theorem uncued_callFilter (code : UserCode σ) (function : FilterFunction) (stream : StreamId)
    (slot : FilterSlot) : Uncued (callFilter code function stream slot) := by
  intro seen
  refine Keeps.bind ?_ fun result => ?_
  · exact (Uncued.record rfl seen).bind fun _ => (Uncued.contain_run code _ seen).bind fun _ =>
      (Uncued.record rfl seen).bind fun _ => keeps_pure _
  · cases result with
    | ok result => exact keeps_pure _
    | error reason => exact (keeps_panic reason).mono id id

/-- A filter is held back or not, and nothing shows. -/
theorem yields_startFilter_cues (code : UserCode σ) (stream : StreamId) (held : List Nat)
    (slot : FilterSlot) {host : Host σ} (same : host.session.cues = seen) :
    (startFilter code stream held slot).Yields host fun result after =>
      (result = .vetoed ↔ slot.index ∈ held) ∧ after.session.cues = seen := by
  rw [startFilter]
  split
  · rename_i here
    exact (uncued_modifyStream _ _).next_yields same fun _ _ same =>
      ⟨⟨fun _ => here, fun _ => rfl⟩, same⟩
  · rename_i there
    refine (uncued_callFilter code .start stream slot).aside same fun result called same => ?_
    cases result with
    | ok value =>
      have mark : Keeps (fun host : Host σ => host.session.cues = seen) True True
          (markFilter stream slot .started true) :=
        (uncued_modifyStream _ _).bind fun _ => (Uncued.changeTree _).onSession _
      refine mark.next_yields same fun _ _ same => ?_
      refine (Uncued.log _ _).aside same fun _ _ same => (Uncued.emit rfl).aside same
        fun _ _ same => ?_
      exact ⟨⟨(fun vetoed => by cases vetoed), fun here => absurd here there⟩, same⟩
    | error fault =>
      refine (uncued_modifyStream _ _).next_yields same fun _ _ same => ?_
      refine (Uncued.log _ _).aside same fun _ _ same => (Uncued.emit rfl).aside same
        fun _ _ same => ?_
      exact ⟨⟨(fun vetoed => by cases vetoed), fun here => absurd here there⟩, same⟩

theorem yields_startFilters_cues (code : UserCode σ) (stream : StreamId) (held : List Nat)
    (slots : List FilterSlot) :
    ∀ {host : Host σ}, host.session.cues = seen →
      (startFilters code stream held slots).Yields host fun results after =>
        (results.filter (·.2 = .vetoed)).map (·.1.name) =
            (slots.filter (·.index ∈ held)).map (·.name) ∧
          after.session.cues = seen := by
  induction slots with
  | nil => exact fun same => ⟨rfl, same⟩
  | cons slot rest ih =>
    intro host same
    rw [startFilters, yields_bind]
    refine (yields_startFilter_cues code stream held slot same).imp fun result between both => ?_
    obtain ⟨vetoed, same⟩ := both
    rw [yields_bind]
    refine (ih same).imp fun results after further => ⟨?_, further.2⟩
    rw [List.filter_cons, List.filter_cons]
    simp only [decide_eq_true_eq, vetoed]
    split
    · rw [List.map_cons, List.map_cons, further.1]
    · exact further.1

/-! ## The whole start -/

/-- What the controllers were asked at a start, and what came of it. -/
structure Asks (stream : StreamId) (slots : List FilterSlot) (controllers : List LoadedController)
    (report : StartReport) (shown : List Cue) (inquiries : List Inquiry) : Prop where
  /-- Each controller was asked, in order. -/
  controllers : inquiries.map (·.controller) = controllers
  /-- Each was asked about every filter, in order. -/
  covers : ∀ inquiry ∈ inquiries, inquiry.Covers slots
  /-- What shows are the inquiries, and then the failures of hooks that were told. -/
  told : ∃ failures, shown =
    Inquiry.cues stream [] inquiries ++ List.replicate failures .hookFailed
  /-- The filters that are held back are reported. -/
  vetoed : report.vetoed =
    (slots.filter (·.index ∈ Inquiry.heldBack [] inquiries)).map (·.name)
  /-- The announced failures are reported. -/
  hookFailures : report.hookFailures = shown.count .hookFailed

theorem yields_startIdle_asks (code : UserCode σ) (stream : StreamId) (graph : FilterGraph)
    (host : Host σ) :
    (startIdle code stream graph).Yields host fun report after =>
      ∃ shown inquiries, Asks stream graph.slots host.controllers report shown inquiries ∧
        after.session.cues = host.session.cues ++ shown := by
  rw [startIdle, yields_bind, yields_get]
  refine (Uncued.openSpan _).aside rfl fun _ opened same => ?_
  rw [yields_bind]
  refine (yields_poll_cues code stream graph.slots host.controllers same).imp
    fun polled asked told => ?_
  obtain ⟨inquiries, controllers, covers, held, vetoFailures, told⟩ := told
  rw [yields_bind]
  refine (yields_startFilters_cues code stream polled.1 graph.slots told).imp
    fun results started both => ?_
  obtain ⟨vetoed, same⟩ := both
  refine (uncued_modifyStream _ _).next_yields same fun _ _ same => ?_
  refine (Uncued.drain code).aside same fun answered drained same => ?_
  have told : Hook.postStart ≠ .preStart := by decide
  rw [yields_bind]
  refine (yields_callFilterHooks_cues code told .started stream _ host.controllers same).imp
    fun failures closed same => ?_
  refine (Uncued.log _ _).aside same fun _ _ same => (Uncued.emit rfl).aside same
    fun _ after same => ?_
  refine ⟨Inquiry.cues stream [] inquiries ++ List.replicate failures .hookFailed, inquiries,
    { controllers, covers, told := ⟨failures, rfl⟩, vetoed := ?_, hookFailures := ?_ }, ?_⟩
  · rw [← held]
    exact vetoed
  · rw [List.count_append, List.count_replicate_self, ← vetoFailures]
    rfl
  · rw [same, List.append_assoc]

/-! ## Objections -/

/-- A filter of a graph is told from the others by its number as well as by its name. -/
theorem distinct_slots {graph : FilterGraph} (names : graph.names.Nodup) {slot : FilterSlot}
    (member : slot ∈ graph.slots) : Inquiry.Distinct slot graph.slots := by
  have numbers : (graph.slots.map (·.index)).Nodup := by
    rw [graph.index_slots]
    exact List.nodup_range'
  rw [FilterGraph.names, ← graph.map_name_slots] at names
  intro other among
  constructor
  · exact fun same => congrArg FilterSlot.name (List.inj_on_of_nodup_map numbers among member same)
  · exact fun same => congrArg FilterSlot.index (List.inj_on_of_nodup_map names among member same)

namespace Asks

variable {stream : StreamId} {slots : List FilterSlot} {controllers : List LoadedController}
  {report : StartReport} {shown : List Cue} {inquiries : List Inquiry}

section Objectors

variable (asks : Asks stream slots controllers report shown inquiries)
  (nodup : (controllers.map (·.serial)).Nodup)
include asks nodup

/-- The first controller that has objected to a filter is the first one that shows to have. -/
theorem objector?_eq (filter : String) : Cue.objector? controllers shown stream filter =
    (inquiries.find? (Inquiry.objectsTo filter)).map (·.controller) := by
  obtain ⟨failures, rfl⟩ := asks.told
  have silent (serial : Nat) : (List.replicate failures Cue.hookFailed).any
      (Cue.objects serial stream filter) = false := List.any_replicate.trans (ite_self false)
  rw [← asks.controllers, List.map_map] at nodup
  rw [Cue.objector?, ← asks.controllers]
  simp only [List.any_append, silent, Bool.or_false]
  exact Inquiry.objector?_cues asks.covers nodup

/-- **The filters that are reported as vetoed are those that some controller has objected to.** -/
theorem vetoed_eq (distinct : ∀ slot ∈ slots, Inquiry.Distinct slot slots) :
    report.vetoed = (slots.filter fun slot =>
      (Cue.objector? controllers shown stream slot.name).isSome).map (·.name) := by
  refine asks.vetoed.trans (congrArg (List.map _) (List.filter_congr fun slot member => ?_))
  rw [asks.objector?_eq nodup, Option.isSome_map, Bool.eq_iff_iff, decide_eq_true_eq,
    Inquiry.mem_heldBack asks.covers (distinct slot member), List.find?_isSome, List.any_eq_true]
  simp only [List.not_mem_nil, false_or]

/-- **The veto of a filter that is announced is that of the first controller that has objected
to it.** -/
theorem announced (distinct : ∀ slot ∈ slots, Inquiry.Distinct slot slots) {slot : FilterSlot}
    (member : slot ∈ slots) : shown.filterMap (Cue.vetoOf? stream slot.name) =
      ((Cue.objector? controllers shown stream slot.name).map (·.name)).toList := by
  rw [asks.objector?_eq nodup, Option.map_map]
  obtain ⟨failures, rfl⟩ := asks.told
  rw [List.filterMap_append, Inquiry.vetoes_cues asks.covers (distinct slot member),
    if_neg List.not_mem_nil, List.filterMap_replicate_of_none rfl, List.append_nil]
  rfl

end Objectors

/-- No other veto is announced. -/
theorem of_vetoed_mem (asks : Asks stream slots controllers report shown inquiries)
    {controller filter : String} {owner : StreamId}
    (member : Cue.vetoed controller owner filter ∈ shown) :
    owner = stream ∧ filter ∈ slots.map (·.name) := by
  obtain ⟨failures, rfl⟩ := asks.told
  rcases List.mem_append.mp member with asked | told
  · exact Inquiry.of_vetoed_mem_cues asks.covers asked
  · cases List.eq_of_mem_replicate told

end Asks

/-! ## Reports -/

/-- How the start function of a filter has ended that is in some state afterwards. -/
def startVisit (stream : StreamId) (slot : FilterSlot) : Visit :=
  .filter .start stream slot.name (if slot.state = .started then .succeeded else .failed)

/-- What has come of the filters of a graph at a start is what is reported. -/
structure Reflects (graph now : FilterGraph) (report : StartReport) : Prop where
  /-- The stream runs. -/
  flow : now.flow = .running
  /-- The filters are the same. -/
  names : now.names = graph.names
  /-- Each is started, is idle, or has failed to start. -/
  states : ∀ slot ∈ now.slots, slot.state = .started ∨ slot.state = .idle ∨ slot.state = .failed
  /-- Those that are started are reported so. -/
  started : report.started = now.namesIn .started
  /-- Those that are idle are reported as vetoed. -/
  vetoed : report.vetoed = now.namesIn .idle
  /-- Those that have failed are reported so. -/
  failed : report.failed.map Fault.unstarted? = (now.namesIn .failed).map some

/-- What a start of a stream comes to that goes to its end: the graph that the stream has
afterwards, the report, and the entries that are written. -/
structure Unfolds (stream : StreamId) (graph now : FilterGraph) (report : StartReport)
    (before after : Host σ) (entries : List Entry) : Prop where
  /-- These are the entries. -/
  written : after.session.journal.toList = before.session.journal.toList ++ entries
  /-- The stream has this graph. -/
  attached : after.stream? stream = some now
  /-- Each filter is in the state that is reported. -/
  reflects : Reflects graph now report
  /-- Every controller is called for every filter, then each filter is started that is not
  idle afterwards, and then every controller is called for every filter that is started. -/
  called : entries.filterMap Entry.visit? =
    hookRound .preStart stream graph.slots before.controllers ++
      (now.slots.filter (·.state ≠ .idle)).map (startVisit stream) ++
        hookRound .postStart stream (runningSlots now) before.controllers
  /-- The filters that are reported as vetoed are those that some controller has objected to. -/
  objected : report.vetoed = (graph.slots.filter fun slot =>
    (Cue.objector? before.controllers (entries.filterMap Entry.cue?) stream slot.name).isSome).map
      (·.name)
  /-- Of each filter the veto of the first controller that has objected is announced, and no
  other one. -/
  announced : ∀ slot ∈ graph.slots,
    (entries.filterMap Entry.cue?).filterMap (Cue.vetoOf? stream slot.name) =
      ((Cue.objector? before.controllers (entries.filterMap Entry.cue?) stream slot.name).map
        (·.name)).toList
  /-- No veto is announced of anything else. -/
  others : ∀ controller owner filter,
    Cue.vetoed controller owner filter ∈ entries.filterMap Entry.cue? →
      owner = stream ∧ filter ∈ graph.names
  /-- The queries are counted that have waited and are answered. -/
  answered : report.answered = countLate none entries
  /-- The failures of hooks are counted that are announced. -/
  hookFailures : report.hookFailures = (entries.filterMap Entry.cue?).count .hookFailed

section Results

variable {graph : FilterGraph} {results : List (FilterSlot × StartResult)}

/-- The filters in a state afterwards are those that came to it. -/
theorem namesIn_settled (all : results.map (·.1) = graph.slots) (state : FilterState) :
    (graph.settled results).namesIn state =
      (results.filter (·.2.state = state)).map (·.1.name) := by
  rw [FilterGraph.namesIn, graph.slots_settled all, List.filter_map, List.map_map]
  rfl

theorem startVisits_settled (all : results.map (·.1) = graph.slots) (stream : StreamId) :
    results.flatMap (startVisits stream) =
      ((graph.settled results).slots.filter (·.state ≠ .idle)).map (startVisit stream) := by
  rw [graph.slots_settled all]
  clear all
  induction results with
  | nil => rfl
  | cons result rest ih =>
    obtain ⟨slot, result⟩ := result
    rw [List.flatMap_cons, ih, List.map_cons, List.filter_cons]
    cases result <;> rfl

theorem unstarted?_startFault? (results : List (FilterSlot × StartResult)) :
    (results.filterMap startFault?).map Fault.unstarted? =
      ((results.filter (·.2.state = .failed)).map (·.1.name)).map some := by
  induction results with
  | nil => rfl
  | cons result rest ih =>
    obtain ⟨slot, result⟩ := result
    rw [List.filterMap_cons, List.filter_cons]
    cases result with
    | failed fault => exact congrArg (some slot.name :: ·) ih
    | _ => exact ih

/-- The report tells what came of each filter. -/
theorem reflects_startReport (all : results.map (·.1) = graph.slots) (answered hookFailures : Nat) :
    Reflects graph ((graph.settled results).setFlow .running)
      (startReport results answered hookFailures) where
  flow := rfl
  names := graph.names_settled results
  states slot member := by
    have member : slot ∈ (graph.settled results).slots := member
    rw [graph.slots_settled all] at member
    obtain ⟨⟨old, result⟩, _, rfl⟩ := List.mem_map.mp member
    cases result <;> simp [StartResult.state]
  started := (names_runningSlots_settled all).symm
  vetoed := by
    refine Eq.trans ?_ (namesIn_settled all .idle).symm
    refine congrArg (List.map _) (List.filter_congr fun result _ => ?_)
    cases result.2 <;> rfl
  failed := (unstarted?_startFault? results).trans
    (congrArg (List.map some) (namesIn_settled all .failed).symm)

end Results

/-! ## The start of a stream -/

section Starting

variable {code : UserCode σ} {host : Host σ} {stream : StreamId} {graph : FilterGraph}

theorem meets_startIdle_unfolds (code : UserCode σ) (nodup : host.outline.serials.Nodup)
    (ready : host.ReadyFor stream) (known : host.KnowsSlots stream graph.slots)
    (attached : host.stream? stream = some graph) (names : graph.names.Nodup) :
    (startIdle code stream graph).Meets host
      (fun report after => ∃ now entries, Unfolds stream graph now report host after entries)
      (fun _ _ => False) (fun _ after => ¬ after.Calm) := by
  refine (((meets_startIdle code nodup ready known).with
    (yields_startIdle_asks code stream graph host)).with
      (yields_startIdle_answered code stream graph host)).mono ?_ (fun _ _ h => h)
      fun _ _ breaks => breaks.not_calm
  rintro report after ⟨⟨⟨results, starts⟩, shown, inquiries, asks, cues⟩, entries, written, late, _⟩
  obtain ⟨answered, hookFailures, reported⟩ := starts.report
  have distinct : ∀ slot ∈ graph.slots, Inquiry.Distinct slot graph.slots :=
    fun _ => distinct_slots names
  have shows : entries.filterMap Entry.cue? = shown := by
    rw [Session.cues, Journal.view, written, List.filterMap_append] at cues
    exact List.append_cancel_left cues
  have visits : entries.filterMap Entry.visit? =
      startCalls stream graph host.controllers results := by
    obtain ⟨others, same, visits⟩ := starts.turns.wrote.written
    rw [List.append_cancel_left (written.symm.trans same), visits]
  have now : after.stream? stream = some ((graph.settled results).setFlow .running) := by
    rw [starts.stream? stream, attached, Option.map_some, if_pos rfl]
  have told : hookRound .postStart stream (startedSlots results) host.controllers =
      hookRound .postStart stream (runningSlots ((graph.settled results).setFlow .running))
        host.controllers := by
    rw [hookRound, hookRound, names_runningSlots_settled starts.slots]
  refine ⟨_, entries,
    { written
      attached := now
      reflects := reported ▸ reflects_startReport starts.slots answered hookFailures
      called := ?_
      objected := ?_
      announced := ?_
      others := ?_
      answered := late.symm
      hookFailures := ?_ }⟩
  · rw [visits, startCalls, startVisits_settled starts.slots, told]
    rfl
  · rw [shows]
    exact asks.vetoed_eq nodup distinct
  · rw [shows]
    exact fun slot => asks.announced nodup distinct
  · rw [shows, FilterGraph.names, ← graph.map_name_slots]
    exact fun controller owner filter => asks.of_vetoed_mem
  · rw [shows]
    exact asks.hookFailures

/-- **A start reports what it has done.**  As long as no filter panics, the start of a stream
that does not run returns, whatever hooks, filters and callbacks do.  Every controller is asked
about every filter; a filter is held back if some controller has objected to it, and the veto of
the first one is announced.  The others are started, each once and in stream order, and the
report tells in which state each filter is left, how many queries that waited were answered and
how many failures of hooks were announced. -/
theorem start_unfolds {history : History σ} (reachable : history.Reachable code)
    (attached : history.host.stream? stream = some graph) (idle : graph.flow = .idle)
    (ends : (start code stream history.host).1 ≠ .exhausted)
    (calm : (start code stream history.host).2.Calm) :
    ∃ report after, start code stream history.host = (.returned report, after) ∧
      ∃ now entries, Unfolds stream graph now report history.host after entries := by
  have sound := History.sound reachable
  have earlier : history.host.Calm := Episode.calm_before (.start stream) ends calm
  have unfolds : (start code stream).Meets history.host (fun report after =>
      ∃ now entries, Unfolds stream graph now report history.host after entries)
        (fun _ _ => False) (fun _ after => ¬ after.Calm) := by
    rw [start, meets_bind, Host.attached, meets_bind, meets_get, attached]
    dsimp only
    rw [meets_pure, idle]
    exact meets_startIdle_unfolds code sound.nodup
      (sound.ready earlier (not_runs_of_idle attached idle))
      (sound.knowsSlots stream graph attached) attached
      ((History.lively reachable earlier).distinct stream graph attached)
  exact Meets.exists_returned unfolds ends calm

end Starting

/-- User code whose filters make a parameter, and of which the filter "sink" refuses to start.
Two controllers hold the filter "muted" back; the second panics when it is asked about "loop",
and fails when it is told of a filter that has started. -/
def strictCode : UserCode Unit :=
  { idleCode with
    preStart := fun reference arguments =>
      if arguments.filter = "muted" then .done .veto
      else if reference = 1 ∧ arguments.filter = "loop" then .panic "enough"
      else .done .proceed
    filterHook := fun reference hook _ =>
      .done (if reference = 1 ∧ hook = .postStart then .failed 3 else .ok)
    filter := fun _ function context =>
      match function with
      | .construct => .ask (.create context "gain" .bool (.bool true) none) fun _ => .done (.ok ())
      | .start =>
        .done (if context.filter = "sink" then .error (.unknownFilter "input") else .ok ())
      | .stop => .done (.ok ()) }

/-- A stream with four filters. -/
def strictGraph : FilterGraph :=
  (((FilterGraph.empty.append "source" (some 0)).append "muted" none).append "loop" none).append
    "sink" (some 0)

/-- A history in which two controllers are loaded and a query waits for a filter of a
stream. -/
def strictHistory : History Unit :=
  .after strictCode { episodes := [], host := freshHost }
    [.load "mixer" none busyModule [], .load "limiter" none { busyModule with code := 1 } [],
      .addStream strictGraph, .outside (.ask (.query (gainQuery ⟨1⟩)) fun _ => .done ())]

theorem strictHistory_reachable : strictHistory.Reachable strictCode := by
  refine ⟨_, _, _, create_freshHost, History.leads_after _ ⟨⟨⟨?_, nofun⟩, ?_⟩,
    ⟨⟨?_, nofun⟩, ?_⟩, ⟨⟨?_, ?attach⟩, ?_⟩, ⟨⟨?_, nofun⟩, ?_⟩, trivial⟩⟩
  case attach =>
    intro graph same
    cases same
    exact (((History.Loose.append .new rfl).append rfl).append rfl).append rfl
  all_goals decide +kernel

/-- One of four filters is started. -/
theorem start_unfolds_strict :
    ∃ report after, start strictCode ⟨1⟩ strictHistory.host = (.returned report, after) ∧
      report =
        { started := ["source"], vetoed := ["muted", "loop"],
          failed := [.filterStartFailed "sink" (Fault.unknownFilter "input").message],
          answered := 1, hookFailures := 2 } ∧
      after.session.cues.filterMap (Cue.vetoOf? ⟨1⟩ "muted") = ["mixer"] ∧
      after.session.cues.filterMap (Cue.vetoOf? ⟨1⟩ "loop") = ["limiter"] ∧
      ∃ now entries, after.stream? ⟨1⟩ = some now ∧ now.namesIn .idle = ["muted", "loop"] ∧
        after.session.journal.toList = strictHistory.host.session.journal.toList ++ entries ∧
        countLate none entries = 1 ∧ (entries.filterMap Entry.cue?).count .hookFailed = 2 := by
  have attached : (strictHistory.host.stream? ⟨1⟩).map (·.flow) = some .idle := by
    decide +kernel
  have ends : (start strictCode ⟨1⟩ strictHistory.host).1 ≠ .exhausted := by
    decide +kernel
  have calm : (start strictCode ⟨1⟩ strictHistory.host).2.Calm := by
    decide +kernel
  have reports : (start strictCode ⟨1⟩ strictHistory.host).1 = .returned
      { started := ["source"], vetoed := ["muted", "loop"],
        failed := [.filterStartFailed "sink" (Fault.unknownFilter "input").message],
        answered := 1, hookFailures := 2 } := by
    decide +kernel
  have muted : (start strictCode ⟨1⟩ strictHistory.host).2.session.cues.filterMap
      (Cue.vetoOf? ⟨1⟩ "muted") = ["mixer"] := by
    decide +kernel
  have loop : (start strictCode ⟨1⟩ strictHistory.host).2.session.cues.filterMap
      (Cue.vetoOf? ⟨1⟩ "loop") = ["limiter"] := by
    decide +kernel
  obtain ⟨graph, attached, idle⟩ := Option.map_eq_some_iff.mp attached
  obtain ⟨report, after, run, now, entries, unfolds⟩ :=
    start_unfolds strictHistory_reachable attached idle ends calm
  rw [run] at reports muted loop
  cases reports
  exact ⟨_, after, run, rfl, muted, loop, now, entries, unfolds.attached,
    unfolds.reflects.vetoed.symm, unfolds.written, unfolds.answered.symm,
    unfolds.hookFailures.symm⟩

end Host

end StreamControl
