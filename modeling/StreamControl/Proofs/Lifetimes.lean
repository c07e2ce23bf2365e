import StreamControl.Proofs.Enduring
import StreamControl.Proofs.HookOrder
import StreamControl.Proofs.Marks

/-!
# Lifetimes of controllers and filters

A controller that has been constructed is loaded until it is destroyed
(`Host.Careers`), and a filter that has started is marked until it is stopped
(`Host.Balanced`).  The journal shows both: `stagesAmong` are the steps that a
controller takes as a whole, and `turnsAmong` the successful starts and the stops of
a filter, which take turns.

The first holds however operations end, the second as long as no filter has panicked.
-/

set_option autoImplicit false

namespace StreamControl

/-! ## Controllers -/

/-- The phase that a controller takes on as a whole. -/
def Entry.stage? (serial : Nat) : Entry → Option Phase
  | .advanced controller none _ target => if controller = serial then some target else none
  | _ => none

/-- The phases that a controller takes on as a whole, in order. -/
def stagesAmong (serial : Nat) (entries : List Entry) : List Phase :=
  entries.filterMap (Entry.stage? serial)

/-- Which a journal shows of a controller. -/
def Journal.stages (journal : Journal) (serial : Nat) : List Phase :=
  stagesAmong serial journal.toList

theorem Journal.stages_push (journal : Journal) (entry : Entry) (serial : Nat) :
    Journal.stages (journal.push entry) serial =
      journal.stages serial ++ (entry.stage? serial).toList := by
  rw [stages, stages, stagesAmong, stagesAmong, Array.toList_push, List.filterMap_append]
  cases shown : entry.stage? serial <;> simp [shown]

theorem Journal.stages_push_of_none {entry : Entry} {serial : Nat}
    (silent : entry.stage? serial = none) (journal : Journal) :
    Journal.stages (journal.push entry) serial = journal.stages serial := by
  rw [stages_push, silent, Option.toList_none, List.append_nil]

namespace Entry

variable {entry : Entry} (serial : Nat)

theorem stage?_of_isPlain (plain : entry.isPlain = true) : entry.stage? serial = none := by
  cases entry <;> first | rfl | cases plain

theorem stage?_of_isOfQuery (ofQuery : entry.isOfQuery = true) : entry.stage? serial = none := by
  cases entry <;> first | rfl | cases ofQuery

theorem stage?_of_isOfHost (ofHost : entry.isOfHost = true) : entry.stage? serial = none := by
  unfold stage?
  split
  · cases ofHost
  · rfl

end Entry

namespace Session

variable {σ : Type}

/-- User code takes no steps of controllers. -/
theorem lax_stages (serial : Nat) (stages : List Phase) :
    Lax fun session : Session σ => session.journal.stages serial = stages where
  record plain same :=
    (Journal.stages_push_of_none (Entry.stage?_of_isPlain serial plain) _).trans same
  memory _ same := same
  tally _ same := same
  channel _ same := same
  edit _ same := (Journal.stages_push_of_none rfl _).trans same
  recordQuery ofQuery same :=
    (Journal.stages_push_of_none (Entry.stage?_of_isOfQuery serial ofQuery) _).trans same
  queue _ _ _ same := same

end Session

namespace Host

open StreamControl.Action Session

variable {σ : Type}

/-- The phases that a controller has taken on as a whole, in order. -/
def stages (host : Host σ) (serial : Nat) : List Phase := host.session.journal.stages serial

/-- A controller is loaded from its construction until it is destroyed, which happens
once. -/
structure Careers (host : Host σ) : Prop where
  /-- A loaded controller has been constructed. -/
  loaded : ∀ serial ∈ host.outline.serials,
    serial < host.nextSerial ∧ host.stages serial = [.constructed]
  /-- Others have not been constructed, or have been destroyed. -/
  gone : ∀ serial, serial ∉ host.outline.serials → host.stages serial = [] ∨
    serial < host.nextSerial ∧ host.stages serial = [.constructed, .destroyed]

namespace Careers

variable {before after : Host σ}

/-- Nothing that matters has changed. -/
theorem congr (careers : before.Careers) (serials : after.outline.serials = before.outline.serials)
    (nextSerial : before.nextSerial ≤ after.nextSerial)
    (stages : ∀ serial, after.stages serial = before.stages serial) : after.Careers where
  loaded serial member := by
    obtain ⟨old, constructed⟩ := careers.loaded serial (serials ▸ member)
    exact ⟨Nat.lt_of_lt_of_le old nextSerial, (stages serial).trans constructed⟩
  gone serial absent := by
    rw [stages serial]
    exact (careers.gone serial (serials ▸ absent)).imp_right fun both =>
      ⟨Nat.lt_of_lt_of_le both.1 nextSerial, both.2⟩

/-- A controller joins under the next serial number. -/
theorem join (careers : before.Careers) {serial : Nat} (new : serial = before.nextSerial)
    (serials : after.outline.serials = before.outline.serials ++ [serial])
    (nextSerial : after.nextSerial = before.nextSerial + 1)
    (stages : ∀ other, after.stages other =
      before.stages other ++ if serial = other then [.constructed] else []) : after.Careers := by
  have fresh : serial ∉ before.outline.serials := fun member =>
    Nat.lt_irrefl _ (new ▸ (careers.loaded serial member).1)
  refine { loaded := fun other member => ?_, gone := fun other absent => ?_ }
  · rw [serials, List.mem_append, List.mem_singleton] at member
    rw [stages, nextSerial]
    by_cases here : serial = other
    · subst here
      refine ⟨by omega, ?_⟩
      rcases careers.gone serial fresh with none | ⟨old, _⟩
      · rw [none, if_pos rfl, List.nil_append]
      · omega
    · obtain ⟨old, constructed⟩ := careers.loaded other (member.resolve_right (Ne.symm here))
      rw [if_neg here, List.append_nil]
      exact ⟨Nat.lt_succ_of_lt old, constructed⟩
  · rw [serials, List.mem_append, List.mem_singleton, not_or] at absent
    rw [stages, if_neg (Ne.symm absent.2), List.append_nil, nextSerial]
    exact (careers.gone other absent.1).imp_right fun both => ⟨Nat.lt_succ_of_lt both.1, both.2⟩

/-- A loaded controller leaves. -/
theorem leave (careers : before.Careers) {serial : Nat} (loaded : serial ∈ before.outline.serials)
    (serials : ∀ other, other ∈ after.outline.serials ↔
      other ∈ before.outline.serials ∧ other ≠ serial)
    (nextSerial : after.nextSerial = before.nextSerial)
    (stages : ∀ other, after.stages other =
      before.stages other ++ if serial = other then [.destroyed] else []) : after.Careers := by
  refine { loaded := fun other member => ?_, gone := fun other absent => ?_ }
  · obtain ⟨old, away⟩ := (serials other).mp member
    rw [stages, if_neg (Ne.symm away), List.append_nil, nextSerial]
    exact careers.loaded other old
  · rw [stages, nextSerial]
    by_cases here : serial = other
    · subst here
      obtain ⟨old, constructed⟩ := careers.loaded serial loaded
      rw [if_pos rfl, constructed]
      exact .inr ⟨old, rfl⟩
    · rw [if_neg here, List.append_nil]
      exact careers.gone other fun old => absent ((serials other).mpr ⟨old, Ne.symm here⟩)

end Careers

/-- **A controller is constructed, and destroyed at most once**, whatever happens. -/
theorem enduring_careers (code : UserCode σ) : Enduring code (Careers : Host σ → Prop) := by
  intro deed before after does careers
  have push {entry : Entry} (serial : Nat) (silent : entry.stage? serial = none) :
      (before.writing entry).stages serial = before.stages serial :=
    Journal.stages_push_of_none silent _
  have plant (tree : ParameterTree) (serial : Nat) :
      (before.planting tree).stages serial = before.stages serial :=
    Journal.stages_push_of_none rfl _
  cases does with
  | stir before after session serials _ nextSerial =>
    exact careers.congr serials (Nat.le_of_eq nextSerial.symm) fun serial => by
      rw [stages, session]
      rfl
  | write _ ofHost =>
    exact careers.congr rfl (Nat.le_refl _) fun serial =>
      push serial (Entry.stage?_of_isOfHost serial ofHost)
  | fail =>
    exact careers.congr rfl (Nat.le_refl _) fun serial => (Journal.stages_push_of_none rfl _).trans
      ((Journal.stages_push_of_none rfl _).trans (Journal.stages_push_of_none rfl _))
  | run _ program _ ends | outside _ program ends =>
    exact careers.congr rfl (Nat.le_refl _) fun serial =>
      ((lax_stages serial _).keeps_run code program).of_ne_exhausted rfl ends
  | drain _ ends =>
    refine careers.congr rfl (Nat.le_refl _) fun serial => ?_
    have lax := lax_stages (σ := σ) serial (before.stages serial)
    have drained : Keeps _ False False (Session.drain code.callees) :=
      lax.keeps_drain (lax.keeps_callback code)
    exact drained.of_ne_exhausted rfl ends
  | attach => exact careers.congr rfl (Nat.le_refl _) fun serial => plant _ serial
  | announce => exact careers.congr rfl (Nat.le_refl _) fun serial => push serial rfl
  | enroll | mark | settle | forget => exact careers.congr rfl (Nat.le_refl _) (plant _)
  | send | shutDown | discard | close => exact careers.congr rfl (Nat.le_refl _) fun _ => rfl
  | skip => exact careers.congr rfl (Nat.le_succ _) fun _ => rfl
  | join _ controller serial =>
    refine careers.join serial ?_ rfl fun other => ?_
    · exact List.map_append
    · refine (Journal.stages_push _ _ _).trans ?_
      by_cases here : controller.serial = other <;> simp [Entry.stage?, here, stages]
  | leave _ origin loaded =>
    refine careers.leave loaded (fun other => ?_) rfl fun other => ?_
    · simp only [Outline.serials, outline, List.mem_map, List.mem_filter, decide_eq_true_eq]
      constructor
      · rintro ⟨controller, ⟨member, away⟩, rfl⟩
        exact ⟨⟨controller, member, rfl⟩, away⟩
      · rintro ⟨⟨controller, member, rfl⟩, away⟩
        exact ⟨controller, ⟨member, away⟩, rfl⟩
    · refine (Journal.stages_push _ _ _).trans ?_
      rename_i serial
      by_cases here : serial = other <;> simp [Entry.stage?, here, stages]

theorem History.careers {code : UserCode σ} {history : History σ}
    (reachable : history.Reachable code) : history.host.Careers := by
  obtain ⟨config, memory, host, created, leads⟩ := reachable
  obtain ⟨channel, rfl⟩ := eq_of_create created
  exact leads.endures (enduring_careers code)
    ⟨fun _ member => (List.not_mem_nil member).elim, fun _ _ => .inl rfl⟩

end Host

/-! ## Filters -/

/-- Whether a call starts a filter with success, or stops it. -/
def Visit.turn? (stream : StreamId) (filter : String) : Visit → Option FilterFunction
  | .filter .start owner name .succeeded =>
    if owner = stream ∧ name = filter then some .start else none
  | .filter .stop owner name _ => if owner = stream ∧ name = filter then some .stop else none
  | _ => none

/-- The successful starts and the stops of a filter, in order. -/
def turnsAmong (stream : StreamId) (filter : String) (visits : List Visit) : List FilterFunction :=
  visits.filterMap (Visit.turn? stream filter)

/-- A start and a stop, so many times over. -/
def rounds (number : Nat) : List FilterFunction :=
  (List.replicate number [.start, .stop]).flatten

theorem rounds_succ (number : Nat) :
    rounds (number + 1) = rounds number ++ [.start] ++ [.stop] := by
  simp [rounds, List.replicate_succ']

theorem length_rounds (number : Nat) : (rounds number).length = 2 * number := by
  simp [rounds, Nat.mul_comm]

section Turns

variable (stream owner : StreamId) (filter : String)

theorem turnsAmong_append (visits more : List Visit) :
    turnsAmong stream filter (visits ++ more) =
      turnsAmong stream filter visits ++ turnsAmong stream filter more :=
  List.filterMap_append

theorem turnsAmong_eq_nil {visits : List Visit}
    (beside : ∀ visit ∈ visits, visit.turn? stream filter = none) :
    turnsAmong stream filter visits = [] :=
  List.filterMap_eq_nil_iff.mpr beside

namespace Host

theorem IsBeside.turn? {visit : Visit} (beside : IsBeside visit) :
    visit.turn? stream filter = none := by
  obtain ⟨serial, rfl⟩ := beside
  rfl

theorem IsConstruction.turn? {visit : Visit} (construction : IsConstruction owner visit) :
    visit.turn? stream filter = none := by
  obtain ⟨name, exit, rfl⟩ := construction
  rfl

theorem turn?_plainCall {controller : LoadedController} {hook : Hook} {visit : Visit}
    (member : visit ∈ plainCall controller hook) : visit.turn? stream filter = none := by
  rw [eq_hook_of_mem_plainCall member]
  rfl

theorem turnsAmong_hookRound (hook : Hook) (slots : List FilterSlot)
    (controllers : List LoadedController) :
    turnsAmong stream filter (hookRound hook owner slots controllers) = [] := by
  refine turnsAmong_eq_nil stream filter fun visit member => ?_
  obtain ⟨serial, name, rfl⟩ := eq_hook_of_mem_hookRound member
  rfl

/-- Filters with different names are called one by one, and the calls of some of them
count. -/
theorem turnsAmong_flatMap {β : Type} (name : β → String) (visits : β → List Visit)
    (counts : β → Bool) (function : FilterFunction)
    (one : ∀ item, turnsAmong stream filter (visits item) =
      if counts item = true ∧ stream = owner ∧ filter = name item then [function] else [])
    (items : List β) (distinct : (items.map name).Nodup) :
    turnsAmong stream filter (items.flatMap visits) =
      if stream = owner ∧ filter ∈ (items.filter counts).map name then [function] else [] := by
  induction items with
  | nil => simp [turnsAmong]
  | cons item rest ih =>
    rw [List.map_cons, List.nodup_cons] at distinct
    have later : filter = name item → filter ∉ (rest.filter counts).map name := fun same member =>
      distinct.1 (same ▸ (List.filter_sublist.map name).subset member)
    rw [List.flatMap_cons, turnsAmong_append, one, ih distinct.2, List.filter_cons]
    by_cases counted : counts item = true
    · rw [if_pos counted, List.map_cons]
      by_cases same : filter = name item
      · by_cases here : stream = owner
        · rw [if_pos ⟨counted, here, same⟩, if_neg fun both => later same both.2,
            if_pos ⟨here, same ▸ List.mem_cons_self⟩, List.append_nil]
        · rw [if_neg fun all => here all.2.1, if_neg fun both => here both.1,
            if_neg fun both => here both.1, List.append_nil]
      · simp only [same, and_false, if_false, List.nil_append, List.mem_cons, false_or]
    · simp only [counted, Bool.false_eq_true, false_and, if_false, List.nil_append]

/-- Of the calls of a start, one starts a filter with success if the filter started. -/
theorem turnsAmong_startVisits {results : List (FilterSlot × StartResult)}
    (distinct : (results.map (·.1.name)).Nodup) :
    turnsAmong stream filter (results.flatMap (startVisits owner)) =
      if stream = owner ∧ filter ∈ (startedSlots results).map (·.name) then [.start] else [] := by
  rw [startedSlots, List.map_map]
  refine turnsAmong_flatMap stream owner filter (·.1.name) _ (·.2 = .started) .start ?_ results
    distinct
  rintro ⟨slot, result⟩
  cases result with
  | started =>
    by_cases both : owner = stream ∧ slot.name = filter
    · simp [turnsAmong, startVisits, Visit.turn?, both.1, both.2]
    · have other : ¬ (stream = owner ∧ filter = slot.name) := fun same =>
        both ⟨same.1.symm, same.2.symm⟩
      simp [turnsAmong, startVisits, Visit.turn?, both, other]
  | vetoed => rfl
  | failed fault => rfl

/-- Of the calls of a stop, one stops a filter if it is among those to be stopped. -/
theorem turnsAmong_stopVisits {results : List (FilterSlot × Except Fault Unit)}
    (distinct : (results.map (·.1.name)).Nodup) :
    turnsAmong stream filter (results.map (stopVisit owner)) =
      if stream = owner ∧ filter ∈ results.map (·.1.name) then [.stop] else [] := by
  have all := turnsAmong_flatMap stream owner filter (·.1.name)
    (fun result => [stopVisit owner result]) (fun _ => true) .stop ?_ results distinct
  · rwa [List.filter_eq_self.mpr fun _ _ => rfl, ← List.map_eq_flatMap] at all
  · intro result
    by_cases both : owner = stream ∧ result.1.name = filter
    · simp [turnsAmong, stopVisit, Visit.turn?, both.1, both.2]
    · have other : ¬ (stream = owner ∧ filter = result.1.name) := fun same =>
        both ⟨same.1.symm, same.2.symm⟩
      simp [turnsAmong, stopVisit, Visit.turn?, both, other]

/-- A start of a stream starts some of its filters, each of them once. -/
theorem turnsAmong_startCalls {graph : FilterGraph} {controllers : List LoadedController}
    {results : List (FilterSlot × StartResult)} (distinct : graph.names.Nodup)
    (slots : results.map (·.1) = graph.slots) :
    turnsAmong stream filter (startCalls owner graph controllers results) =
      if stream = owner ∧ filter ∈ (startedSlots results).map (·.name) then [.start] else [] := by
  have names : (results.map (·.1.name)) = graph.names := by
    rw [FilterGraph.names, ← graph.map_name_slots, ← slots, List.map_map]
    rfl
  rw [startCalls, turnsAmong_append, turnsAmong_append, turnsAmong_hookRound, turnsAmong_hookRound,
    turnsAmong_startVisits stream owner filter (names ▸ distinct), List.nil_append, List.append_nil]

/-- A stop of a stream stops the filters that are started, each of them once. -/
theorem turnsAmong_stopCalls {graph : FilterGraph} {controllers : List LoadedController}
    {results : List (FilterSlot × Except Fault Unit)} (distinct : graph.names.Nodup)
    (slots : results.map (·.1) = runningSlots graph) :
    turnsAmong stream filter (stopCalls owner (runningSlots graph) controllers results) =
      if stream = owner ∧ filter ∈ (runningSlots graph).map (·.name) then [.stop] else [] := by
  have names : (results.map (·.1.name)) = (runningSlots graph).map (·.name) := by
    rw [← slots, List.map_map]
    rfl
  have different : (results.map (·.1.name)).Nodup :=
    names ▸ distinct.sublist (sublist_runningSlots graph)
  rw [stopCalls, turnsAmong_append, turnsAmong_append, turnsAmong_hookRound, turnsAmong_hookRound,
    turnsAmong_stopVisits stream owner filter different, names, List.nil_append, List.append_nil]

end Host

end Turns

namespace Host

open StreamControl.Action Session

variable {σ : Type} {past past' : Past} {before after : Host σ}

/-- The successful starts and the stops of a filter so far, in order. -/
def turns (host : Host σ) (stream : StreamId) (filter : String) : List FilterFunction :=
  turnsAmong stream filter host.visits

theorem turns_of_wrote {visits : List Visit} (wrote : Wrote visits before.session after.session)
    (stream : StreamId) (filter : String) :
    after.turns stream filter =
      before.turns stream filter ++ turnsAmong stream filter visits := by
  rw [turns, Host.visits, wrote.visits_eq, turnsAmong_append]
  rfl

/-- Calls that neither start nor stop a filter add nothing. -/
theorem turns_of_beside {visits : List Visit} (wrote : Wrote visits before.session after.session)
    {stream : StreamId} {filter : String}
    (beside : ∀ visit ∈ visits, visit.turn? stream filter = none) :
    after.turns stream filter = before.turns stream filter := by
  rw [turns_of_wrote wrote, turnsAmong_eq_nil stream filter beside, List.append_nil]

/-- Successful starts and stops of a filter take turns, and a filter whose stop is still
to come is one that runs. -/
def Balanced (host : Host σ) : Prop := ∀ stream filter, ∃ number,
  (¬ host.Running stream filter ∧ host.turns stream filter = rounds number) ∨
    (host.Running stream filter ∧ host.turns stream filter = rounds number ++ [.start])

/-! ### Every turn -/

theorem Balanced.still (balanced : Balanced before) (running : after.Running = before.Running)
    (turns : ∀ stream filter, after.turns stream filter = before.turns stream filter) :
    Balanced after := by
  intro stream filter
  rw [running, turns]
  exact balanced stream filter

theorem Balanced.start {stream : StreamId} {graph : FilterGraph} {report : StartReport}
    {results : List (FilterSlot × StartResult)} (balanced : Balanced before)
    (distinct : graph.names.Nodup) (found : before.stream? stream = some graph)
    (idle : graph.flow = .idle) (starts : Starts stream graph report results before after) :
    Balanced after := by
  intro other filter
  have called := turns_of_wrote starts.turns.wrote other filter
  rw [turnsAmong_startCalls other stream filter distinct starts.slots] at called
  rw [starts.running found idle, called]
  obtain ⟨number, counted⟩ := balanced other filter
  refine ⟨number, ?_⟩
  by_cases now : other = stream ∧ filter ∈ (startedSlots results).map (·.name)
  · -- The filter was not running, since the stream was idle.
    have still : ¬ before.Running other filter :=
      not_running (now.1 ▸ not_runs_of_idle found idle)
    obtain ⟨_, closed⟩ := counted.resolve_right fun both => still both.1
    rw [if_pos now, closed]
    exact .inr ⟨.inl now, rfl⟩
  · rw [if_neg now, List.append_nil, or_iff_right now]
    exact counted

theorem Balanced.stop {stream : StreamId} {graph : FilterGraph} (balanced : Balanced before)
    (distinct : graph.names.Nodup) (found : before.stream? stream = some graph)
    (running : graph.flow = .running) (stops : Stops stream graph before after) :
    Balanced after := by
  intro other filter
  obtain ⟨results, slots, turns⟩ := stops.turns
  have called := turns_of_wrote turns.wrote other filter
  rw [turnsAmong_stopCalls other stream filter distinct slots] at called
  rw [stops.running, called]
  obtain ⟨number, counted⟩ := balanced other filter
  have inside : before.Running stream filter ↔ filter ∈ (runningSlots graph).map (·.name) := by
    simp only [Running, found, Option.some.injEq, exists_eq_left', running, true_and]
  by_cases now : other = stream ∧ filter ∈ (runningSlots graph).map (·.name)
  · -- The filter was running, and its stop closes the round.
    have runs : before.Running other filter := now.1 ▸ inside.mpr now.2
    obtain ⟨_, opened⟩ := counted.resolve_left fun both => both.1 runs
    rw [if_pos now, opened, ← rounds_succ]
    exact ⟨number + 1, .inl ⟨fun both => both.2 now.1, rfl⟩⟩
  · have apart : before.Running other filter ∧ other ≠ stream ↔ before.Running other filter := by
      refine ⟨And.left, fun runs => ⟨runs, ?_⟩⟩
      rintro rfl
      exact now ⟨rfl, inside.mp runs⟩
    rw [if_neg now, List.append_nil, apart]
    exact ⟨number, counted⟩

/-- A turn of a host that is calm afterwards keeps it balanced. -/
theorem Balanced.turn {fresh : FilterGraph → Prop} (balanced : Balanced before)
    (sound : Sound past before) (lively : Lively past before)
    (turn : Turn fresh past before past' after) (calm : after.Calm) : Balanced after := by
  have plain {controller : LoadedController} {hook : Hook} {between : Host σ}
      (wrote : Wrote (plainCall controller hook) between.session after.session) (stream : StreamId)
      (filter : String) : after.turns stream filter = between.turns stream filter :=
    turns_of_beside wrote fun _ => turn?_plainCall stream filter
  cases turn with
  | quiet beside turns =>
    exact balanced.still (running_of_streams (congrArg Outline.streams turns.shape))
      fun stream filter => turns_of_beside turns.wrote fun visit member =>
        (beside visit member).turn? stream filter
  | aside shape journal =>
    refine balanced.still (running_of_streams (congrArg Outline.streams shape))
      fun stream filter => ?_
    rw [Host.turns, Host.visits, journal]
    rfl
  | reject _ turns =>
    exact balanced.still (running_of_streams (congrArg Outline.streams turns.shape))
      (plain turns.wrote)
  | load loads =>
    exact balanced.still (running_of_streams (congrArg Outline.streams loads.turns.shape))
      (plain loads.turns.wrote)
  | unload _ _ turns =>
    exact balanced.still (running_of_streams (congrArg Outline.streams turns.shape))
      (plain turns.wrote)
  | attach _ idle _ numbers =>
    exact balanced.still
      (running_of_replaced numbers.stream?_attached
        (not_runs_of_unattached (sound.unattached numbers.number))
        fun _ same => by cases same; exact idle)
      fun stream filter => turns_of_beside numbers.wrote fun visit member =>
        (numbers.constructions visit member).turn? stream _ filter
  | unattach numbers _ streams =>
    exact balanced.still
      (running_of_replaced (sound.stream?_unattached numbers streams)
        (not_runs_of_unattached (sound.unattached numbers.number))
        fun _ impossible => by cases impossible)
      fun stream filter => turns_of_beside numbers.wrote fun visit member =>
        (numbers.constructions visit member).turn? stream _ filter
  | detach found idle detaches =>
    exact balanced.still
      (running_of_replaced detaches.stream? (not_runs_of_idle found idle)
        fun _ impossible => by cases impossible)
      fun stream filter => turns_of_beside detaches.wrote fun _ member =>
        (List.not_mem_nil member).elim
  | start found idle starts =>
    exact balanced.start (lively.distinct _ _ found) found idle starts
  | breakStart _ _ breaks => exact absurd calm breaks.not_calm
  | stop found running stops =>
    exact balanced.stop (lively.distinct _ _ found) found running stops
  | breakStop _ _ breaks => exact absurd calm breaks.not_calm

theorem balanced_onChannel (channel : Broadcast Event) (config : Config) (memory : σ) :
    Balanced (onChannel channel config memory) :=
  fun _ _ => ⟨0, .inl ⟨fun ⟨_, attached, _⟩ => (nomatch attached), rfl⟩⟩

/-- **Starts and stops of a filter take turns**, as long as no filter has panicked. -/
theorem History.balanced {code : UserCode σ} {history : History σ}
    (reachable : history.Reachable code) (calm : history.host.Calm) : Balanced history.host := by
  refine (reachable.calm_induction (motive := fun past host => Lively past host ∧ Balanced host)
    ?_ ?_ calm).2
  · exact fun channel config memory =>
      ⟨lively_onChannel channel config memory, balanced_onChannel channel config memory⟩
  · rintro past past' before after sound ⟨lively, balanced⟩ turn calm
    exact ⟨lively.turn sound turn calm, balanced.turn sound lively turn calm⟩

end Host

end StreamControl
