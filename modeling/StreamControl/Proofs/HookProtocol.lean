import StreamControl.Proofs.HookSequences

/-!
# The hook protocol

What is called on a controller over its whole life, for one filter: first
`construct`, then one cycle for each start of the stream that the controller
saw, then `destroy`.  As long as no filter has panicked this holds of every
controller at every point of a history (`hook_protocol`).

The calls of a stop answer those of a start long before.  What ties them
together is that the filters that are started in a running stream are those
that the last start of the stream reported, so `Lively` carries this along with
the calls so far.
-/

set_option autoImplicit false

namespace StreamControl.Host

open StreamControl.Action Session

variable {σ : Type}

/-- The hooks that have been called on a controller for a filter or for its own
sake, in order. -/
def hooksOn (host : Host σ) (serial : Nat) (stream : StreamId) (filter : String) : List Hook :=
  host.session.journal.hooksOn serial stream filter

theorem hooksOn_of_wrote {before after : Host σ} {visits : List Visit}
    (wrote : Wrote visits before.session after.session) (serial : Nat) (stream : StreamId)
    (filter : String) :
    after.hooksOn serial stream filter =
      before.hooksOn serial stream filter ++ hooksAmong serial stream filter visits := by
  rw [hooksOn, Journal.hooksOn, wrote.visits_eq, hooksAmong_append]
  rfl

/-- Calls that do not count add nothing. -/
theorem hooksOn_of_beside {before after : Host σ} {visits : List Visit}
    (wrote : Wrote visits before.session after.session) {serial : Nat} {stream : StreamId}
    {filter : String} (beside : ∀ visit ∈ visits, visit.hookOn? serial stream filter = none) :
    after.hooksOn serial stream filter = before.hooksOn serial stream filter := by
  rw [hooksOn_of_wrote wrote, hooksAmong_eq_nil serial stream filter beside, List.append_nil]

theorem IsBeside.hookOn? {visit : Visit} (beside : IsBeside visit) (serial : Nat)
    (stream : StreamId) (filter : String) : visit.hookOn? serial stream filter = none := by
  obtain ⟨controller, rfl⟩ := beside
  simp [Visit.hookOn?]

theorem IsConstruction.hookOn? {owner : StreamId} {visit : Visit}
    (construction : IsConstruction owner visit) (serial : Nat) (stream : StreamId)
    (filter : String) : visit.hookOn? serial stream filter = none := by
  obtain ⟨name, exit, rfl⟩ := construction
  rfl

variable {fresh : FilterGraph → Prop} {past past' : Past} {host before after : Host σ}

/-- A host that is calm after a turn was calm before it. -/
theorem Turn.calm (turn : Turn fresh past before past' after) (calm : after.Calm) : before.Calm := by
  cases turn with
  | quiet _ turns => exact calm_of_wrote turns.wrote calm
  | aside _ journal => exact fun entry member => calm entry (journal ▸ member)
  | reject _ turns => exact calm_of_wrote turns.wrote calm
  | load loads => exact calm_of_wrote loads.turns.wrote calm
  | unload _ _ turns => exact calm_of_wrote turns.wrote calm
  | attach _ _ _ numbers => exact calm_of_wrote numbers.wrote calm
  | unattach numbers => exact calm_of_wrote numbers.wrote calm
  | detach _ _ detaches => exact calm_of_wrote detaches.wrote calm
  | start _ _ starts => exact calm_of_wrote starts.turns.wrote calm
  | breakStart _ _ breaks => exact absurd calm breaks.not_calm
  | stop _ _ stops =>
    obtain ⟨_, _, turns⟩ := stops.turns
    exact calm_of_wrote turns.wrote calm
  | breakStop _ _ breaks => exact absurd calm breaks.not_calm

/-- **Induction over turns without panics**: what holds of a history and is preserved by
every turn of a sound host that is calm afterwards holds of every calm history that it
leads to. -/
theorem History.Leads.calm_induction {code : UserCode σ} {origin history : History σ}
    {motive : Past → Host σ → Prop} (reachable : origin.Reachable code)
    (leads : History.Leads code origin history)
    (holds : origin.host.Calm → motive origin.past origin.host)
    (turn : ∀ {past past' : Past} {before after : Host σ}, Sound past before →
      motive past before → Turn (fun _ => True) past before past' after → after.Calm →
        motive past' after)
    (calm : history.host.Calm) : motive history.past history.host :=
  leads.turn_induction reachable (motive := fun past host => host.Calm → motive past host) holds
    (fun sound earlier taken calm => turn sound (earlier (taken.calm calm)) taken calm) calm

/-- What holds of new hosts and is preserved by every turn of a sound host that is calm
afterwards holds of every calm history. -/
theorem History.Reachable.calm_induction {code : UserCode σ} {history : History σ}
    {motive : Past → Host σ → Prop}
    (new : ∀ channel config memory, motive .nothing (onChannel channel config memory))
    (turn : ∀ {past past' : Past} {before after : Host σ}, Sound past before →
      motive past before → Turn (fun _ => True) past before past' after → after.Calm →
        motive past' after)
    (reachable : history.Reachable code) (calm : history.host.Calm) :
    motive history.past history.host :=
  reachable.turn_induction (motive := fun past host => host.Calm → motive past host)
    (fun channel config memory _ => new channel config memory)
    (fun sound earlier taken calm => turn sound (earlier (taken.calm calm)) taken calm) calm

/-! ## The calls so far -/

open Classical in
/-- The hooks that are called on a loaded controller for a filter, up to now, if
the controller fills them all. -/
noncomputable def Past.hooks (past : Past) (host : Host σ) (serial : Nat) (stream : StreamId)
    (filter : String) : List Hook :=
  .construct ::
    cycles filter (decide (host.Runs stream ∧ past.saw serial stream)) (past.seen serial stream)

theorem Past.hooks_open {serial : Nat} {stream : StreamId} (running : host.Runs stream)
    (saw : past.saw serial stream) (filter : String) :
    past.hooks host serial stream filter =
      .construct :: cycles filter true (past.seen serial stream) := by
  simp only [Past.hooks, running, saw, and_self, decide_true]

theorem Past.hooks_closed {serial : Nat} {stream : StreamId}
    (outside : ¬ (host.Runs stream ∧ past.saw serial stream)) (filter : String) :
    past.hooks host serial stream filter =
      .construct :: cycles filter false (past.seen serial stream) := by
  simp only [Past.hooks, outside, decide_false]

open Classical in
/-- Nothing that matters for the hooks of a controller has changed. -/
theorem Past.hooks_congr {serial : Nat} {stream : StreamId}
    (runs : after.Runs stream ↔ before.Runs stream)
    (saw : past'.saw serial stream ↔ past.saw serial stream)
    (seen : past'.seen serial stream = past.seen serial stream) (filter : String) :
    past'.hooks after serial stream filter = past.hooks before serial stream filter := by
  simp only [Past.hooks, runs, saw, seen]

/-- What has been called on controllers so far, and what the next stop of each
running stream will go through. -/
structure Lively (past : Past) (host : Host σ) : Prop where
  /-- The filters of a stream have different names. -/
  distinct : ∀ stream graph, host.stream? stream = some graph → graph.names.Nodup
  /-- The started filters of a running stream are those of its last start. -/
  settled : ∀ stream graph, host.stream? stream = some graph → graph.flow = .running →
    ∀ serial, past.saw serial stream → ∃ sighting,
      (past.seen serial stream).getLast? = some sighting ∧
        sighting.started = (runningSlots graph).map (·.name)
  /-- Nothing has been called on controllers that are yet to come. -/
  unborn : ∀ serial, host.nextSerial ≤ serial → ∀ stream,
    past.seen serial stream = [] ∧ ∀ filter, host.hooksOn serial stream filter = []
  /-- What has been called on the loaded controllers. -/
  alive : ∀ controller ∈ host.controllers, ∀ stream filter,
    host.hooksOn controller.serial stream filter =
      (past.hooks host controller.serial stream filter).filter controller.module.fills

theorem lively_onChannel (channel : Broadcast Event) (config : Config) (memory : σ) :
    Lively .nothing (onChannel channel config memory) where
  distinct _ _ attached := nomatch attached
  settled _ _ attached := nomatch attached
  unborn _ _ _ := ⟨rfl, fun _ => rfl⟩
  alive _ member := nomatch member

/-- A turn that calls no hooks that count and starts or stops nothing. -/
theorem Lively.still (lively : Lively past before) (sound : Sound past before)
    (controllers : after.controllers = before.controllers) (runs : after.Runs = before.Runs)
    (nextSerial : before.nextSerial ≤ after.nextSerial)
    (streams : ∀ stream graph, after.stream? stream = some graph →
      before.stream? stream = some graph ∨ graph.flow = .idle ∧ graph.names.Nodup)
    (hooks : ∀ serial, serial < before.nextSerial ∨ after.nextSerial ≤ serial →
      ∀ stream filter, after.hooksOn serial stream filter = before.hooksOn serial stream filter) :
    Lively past after where
  distinct stream graph attached := by
    rcases streams stream graph attached with earlier | ⟨_, distinct⟩
    · exact lively.distinct stream graph earlier
    · exact distinct
  settled stream graph attached running := by
    rcases streams stream graph attached with earlier | ⟨idle, _⟩
    · exact lively.settled stream graph earlier running
    · rw [idle] at running
      cases running
  unborn serial beyond stream := by
    obtain ⟨none, silent⟩ := lively.unborn serial (Nat.le_trans nextSerial beyond) stream
    exact ⟨none, fun filter => (hooks serial (.inr beyond) stream filter).trans (silent filter)⟩
  alive controller member stream filter := by
    rw [controllers] at member
    have old := sound.bound controller.serial (before.outline.mem_serials member)
    rw [hooks controller.serial (.inl old), lively.alive controller member,
      Past.hooks_congr (iff_of_eq (congrFun runs stream)) Iff.rfl rfl]

theorem Lively.load {controller : LoadedController} (lively : Lively past before)
    (sound : Sound past before) (loads : Loads controller before after) : Lively past after := by
  have controllers : after.controllers = before.controllers ++ [controller] :=
    congrArg Outline.controllers loads.turns.shape
  have streams : after.streams = before.streams := congrArg Outline.streams loads.turns.shape
  have attached (stream : StreamId) : after.stream? stream = before.stream? stream :=
    congrArg (·.find? stream) streams
  have nextSerial : after.nextSerial = before.nextSerial + 1 := loads.turns.nextSerial
  have hooks (serial : Nat) (stream : StreamId) (filter : String) :
      after.hooksOn serial stream filter = before.hooksOn serial stream filter ++
        if controller.serial = serial then [Hook.construct].filter controller.module.fills
        else [] := by
    rw [hooksOn_of_wrote loads.turns.wrote, hooksAmong_plainCall stream filter .construct serial
      controller (nomatch ·)]
    rfl
  refine
    { distinct := fun stream graph found => lively.distinct stream graph (attached stream ▸ found)
      settled := fun stream graph found => lively.settled stream graph (attached stream ▸ found)
      unborn := ?_, alive := ?_ }
  · intro serial beyond stream
    rw [nextSerial] at beyond
    obtain ⟨none, silent⟩ := lively.unborn serial (Nat.le_of_succ_le beyond) stream
    refine ⟨none, fun filter => ?_⟩
    rw [hooks, silent, if_neg, List.nil_append]
    rw [loads.serial]
    exact Nat.ne_of_lt beyond
  · intro other member stream filter
    have same : past.hooks after other.serial stream filter =
        past.hooks before other.serial stream filter :=
      Past.hooks_congr (iff_of_eq (congrFun (runs_of_streams streams) stream)) Iff.rfl rfl filter
    rw [controllers] at member
    rw [hooks, same]
    rcases List.mem_append.mp member with old | new
    · have away : controller.serial ≠ other.serial := by
        rw [loads.serial]
        exact Nat.ne_of_gt (sound.bound other.serial (before.outline.mem_serials old))
      rw [if_neg away, List.append_nil, lively.alive other old]
    · rw [List.mem_singleton.mp new, if_pos rfl, loads.serial]
      obtain ⟨none, silent⟩ := lively.unborn before.nextSerial (Nat.le_refl _) stream
      rw [silent filter, List.nil_append, Past.hooks, none]
      rfl

theorem Lively.unload {controller : LoadedController} (lively : Lively past before)
    (turns : Turns (plainCall controller .destroy) (before.outline.unloaded controller.serial)
      before after) (sound : Sound past before) (loaded : controller ∈ before.controllers) :
    Lively past after := by
  have controllers : after.controllers =
      before.controllers.filter (·.serial ≠ controller.serial) :=
    congrArg Outline.controllers turns.shape
  have streams : after.streams = before.streams := congrArg Outline.streams turns.shape
  have attached (stream : StreamId) : after.stream? stream = before.stream? stream :=
    congrArg (·.find? stream) streams
  have hooks (serial : Nat) (away : controller.serial ≠ serial) (stream : StreamId)
      (filter : String) :
      after.hooksOn serial stream filter = before.hooksOn serial stream filter := by
    rw [hooksOn_of_wrote turns.wrote, hooksAmong_plainCall stream filter .destroy serial controller
      (nomatch ·), if_neg away, List.append_nil]
  refine
    { distinct := fun stream graph found => lively.distinct stream graph (attached stream ▸ found)
      settled := fun stream graph found => lively.settled stream graph (attached stream ▸ found)
      unborn := ?_, alive := ?_ }
  · intro serial beyond stream
    rw [turns.nextSerial] at beyond
    obtain ⟨none, silent⟩ := lively.unborn serial beyond stream
    have old := sound.bound controller.serial (before.outline.mem_serials loaded)
    exact ⟨none, fun filter =>
      (hooks serial (Nat.ne_of_lt (Nat.lt_of_lt_of_le old beyond)) stream filter).trans
        (silent filter)⟩
  · intro other member stream filter
    rw [controllers, List.mem_filter, decide_eq_true_eq] at member
    rw [hooks other.serial (Ne.symm member.2), lively.alive other member.1,
      Past.hooks_congr (iff_of_eq (congrFun (runs_of_streams streams) stream)) Iff.rfl rfl]

theorem Lively.start {stream : StreamId} {graph : FilterGraph} {report : StartReport}
    {results : List (FilterSlot × StartResult)} (lively : Lively past before)
    (sound : Sound past before) (found : before.stream? stream = some graph)
    (idle : graph.flow = .idle) (starts : Starts stream graph report results before after) :
    Lively (past.start before.outline.serials stream (before.sighting stream report)) after := by
  have distinct := lively.distinct stream graph found
  have sighted : before.sighting stream report =
      ⟨graph.names, (startedSlots results).map (·.name)⟩ := by
    obtain ⟨answered, hookFailures, rfl⟩ := starts.report
    rw [sighting, found]
    rfl
  rw [sighted]
  refine { distinct := ?_, settled := ?_, unborn := ?_, alive := ?_ }
  · intro other graph attached
    obtain ⟨old, present, names⟩ := names_of_map (starts.stream? other) (fun graph => by
      split
      · exact graph.names_settled results
      · rfl) attached
    rw [names]
    exact lively.distinct other old present
  · intro other attachedGraph attached running serial saw
    have attached' := starts.stream? other
    by_cases here : other = stream
    · subst here
      rw [found, Option.map_some, if_pos rfl, attached, Option.some.injEq] at attached'
      simp only [Past.start, if_true] at saw
      refine ⟨⟨graph.names, (startedSlots results).map (·.name)⟩, ?_, ?_⟩
      · simp only [Past.start, saw, and_self, if_true]
        exact List.getLast?_concat
      · rw [attached']
        exact (names_runningSlots_settled starts.slots).symm
    · simp only [here, if_false, Option.map_id'] at attached'
      simp only [Past.start, here, if_false, false_and] at saw ⊢
      exact lively.settled other attachedGraph (attached' ▸ attached) running serial saw
  · intro serial beyond other
    rw [starts.turns.nextSerial] at beyond
    obtain ⟨none, silent⟩ := lively.unborn serial beyond other
    have absent : serial ∉ before.outline.serials := fun member =>
      Nat.lt_irrefl _ (Nat.lt_of_lt_of_le (sound.bound serial member) beyond)
    have missing : serial ∉ before.controllers.map (·.serial) := absent
    refine ⟨?_, fun filter => ?_⟩
    · simp only [Past.start, absent, and_false, if_false, none]
    · rw [hooksOn_of_wrote starts.turns.wrote, silent,
        hooksAmong_startCalls_absent other stream filter distinct starts.slots missing,
        List.append_nil]
  · intro moved member other filter
    rw [starts.controllers, Outline.mem_step] at member
    obtain ⟨controller, loaded, rfl⟩ := member
    have there := before.outline.mem_serials loaded
    have loaded : controller ∈ before.controllers := loaded
    have nodup : (before.controllers.map (·.serial)).Nodup := sound.nodup
    rw [if_pos there, LoadedController.serial_moved, LoadedController.module_moved,
      hooksOn_of_wrote starts.turns.wrote, lively.alive controller loaded,
      hooksAmong_startCalls other stream filter distinct starts.slots nodup loaded]
    by_cases here : stream = other
    · subst here
      have running : after.Runs stream := (starts.runs found stream).mpr (.inl rfl)
      have still := not_runs_of_idle found idle
      rw [if_pos rfl, Past.hooks_closed (fun both => still both.1),
        Past.hooks_open running (by simp only [Past.start, if_true]; exact there),
        ← List.filter_append]
      simp only [Past.start, there, and_self, if_true]
      rw [cycles_open, List.cons_append]
    · have away : other ≠ stream := Ne.symm here
      rw [if_neg here, List.append_nil]
      refine congrArg (List.filter _) (Past.hooks_congr ?_ ?_ ?_ filter).symm
      · rw [starts.runs found other]
        exact ⟨fun either => either.resolve_left away, .inr⟩
      · simp only [Past.start, away, if_false]
      · simp only [Past.start, away, false_and, if_false]

theorem Lively.stop {stream : StreamId} {graph : FilterGraph} (lively : Lively past before)
    (sound : Sound past before) (calm : before.Calm) (found : before.stream? stream = some graph)
    (running : graph.flow = .running) (stops : Stops stream graph before after) :
    Lively past after := by
  obtain ⟨results, _, turns⟩ := stops.turns
  have distinct : ((runningSlots graph).map (·.name)).Nodup :=
    (lively.distinct stream graph found).sublist (sublist_runningSlots graph)
  have running : before.Runs stream := (runs_iff found).mpr running
  refine { distinct := ?_, settled := ?_, unborn := ?_, alive := ?_ }
  · intro other graph attached
    obtain ⟨old, present, names⟩ := names_of_map (stops.stream? other) (fun graph => by
      split
      · exact graph.names_halted _
      · rfl) attached
    rw [names]
    exact lively.distinct other old present
  · intro other attachedGraph attached flows serial saw
    have away : other ≠ stream := ((stops.runs other).mp ⟨attachedGraph, attached, flows⟩).2
    have attached' := stops.stream? other
    simp only [away, if_false, Option.map_id'] at attached'
    exact lively.settled other attachedGraph (attached' ▸ attached) flows serial saw
  · intro serial beyond other
    rw [turns.nextSerial] at beyond
    obtain ⟨none, silent⟩ := lively.unborn serial beyond other
    refine ⟨none, fun filter => ?_⟩
    have absent : serial ∉ (before.witnesses stream).map (·.serial) := by
      intro member
      obtain ⟨controller, witness, rfl⟩ := List.mem_map.mp member
      have old := sound.bound _ (before.outline.mem_serials (mem_witnesses.mp witness).1)
      exact Nat.lt_irrefl _ (Nat.lt_of_lt_of_le old beyond)
    rw [hooksOn_of_wrote turns.wrote, silent,
      hooksAmong_stopCalls_absent other stream filter distinct absent, List.append_nil]
  · intro moved member other filter
    rw [stops.controllers, Outline.mem_step] at member
    obtain ⟨controller, loaded, rfl⟩ := member
    -- Whether or not the controller takes part, it keeps its number and module.
    have kept : ∀ changed : LoadedController, changed.serial = controller.serial →
        changed.module = controller.module →
        after.hooksOn changed.serial other filter =
          (past.hooks after changed.serial other filter).filter changed.module.fills := by
      intro changed serial module
      rw [serial, module, hooksOn_of_wrote turns.wrote, lively.alive controller loaded]
      have fits := (sound.stands controller loaded).fits stream
      have part : controller ∈ before.witnesses stream ↔ past.saw controller.serial stream := by
        rw [mem_witnesses, fits.started]
        have unbroken := (sound.calm calm controller.serial stream).2
        exact ⟨fun all => all.2.2.1, fun saw => ⟨loaded, running, saw, unbroken⟩⟩
      by_cases witness : controller ∈ before.witnesses stream
      · rw [hooksAmong_stopCalls other stream filter distinct (nodup_witnesses sound.nodup stream)
          witness]
        by_cases here : stream = other
        · subst here
          have saw := part.mp witness
          obtain ⟨last, latest, started⟩ := lively.settled stream graph found
            ((runs_iff found).mp running) controller.serial saw
          have closing : Sighting.closing ⟨[], (runningSlots graph).map (·.name)⟩ filter =
              last.closing filter := by
            rw [Sighting.closing, Sighting.closing, started]
          have idle : ¬ after.Runs stream := fun runs => ((stops.runs stream).mp runs).2 rfl
          rw [if_pos rfl, Past.hooks_open running saw, Past.hooks_closed (fun both => idle both.1),
            closing, ← List.filter_append, cycles_close filter latest, List.cons_append]
        · rw [if_neg here, List.append_nil]
          refine congrArg (List.filter _) (Past.hooks_congr ?_ Iff.rfl rfl filter).symm
          rw [stops.runs other]
          exact ⟨fun both => both.1, fun runs => ⟨runs, Ne.symm here⟩⟩
      · have absent : controller.serial ∉ (before.witnesses stream).map (·.serial) := fun member =>
          witness (mem_witnesses.mpr
            ⟨loaded, (find?_of_mem_witnesses sound.nodup stream loaded).mp member⟩)
        rw [hooksAmong_stopCalls_absent other stream filter distinct absent, List.append_nil]
        by_cases here : stream = other
        · subst here
          have unseen : ¬ past.saw controller.serial stream := fun saw => witness (part.mpr saw)
          rw [Past.hooks_closed (fun both => unseen both.2),
            Past.hooks_closed (fun both => unseen both.2)]
        · refine congrArg (List.filter _) (Past.hooks_congr ?_ Iff.rfl rfl filter).symm
          rw [stops.runs other]
          exact ⟨fun both => both.1, fun runs => ⟨runs, Ne.symm here⟩⟩
    split
    · exact kept _ rfl rfl
    · exact kept _ rfl rfl

/-- A turn of a host that is calm afterwards keeps it lively. -/
theorem Lively.turn (lively : Lively past before) (sound : Sound past before)
    (turn : Turn fresh past before past' after) (calm : after.Calm) : Lively past' after := by
  have earlier := turn.calm calm
  have unchanged {stream : StreamId} {graph : FilterGraph} (streams : after.streams = before.streams)
      (attached : after.stream? stream = some graph) :
      before.stream? stream = some graph ∨ graph.flow = .idle ∧ graph.names.Nodup :=
    .inl ((congrArg (·.find? stream) streams).symm.trans attached)
  cases turn with
  | quiet beside turns =>
    have streams : after.streams = before.streams := congrArg Outline.streams turns.shape
    exact lively.still sound (congrArg Outline.controllers turns.shape) (runs_of_streams streams)
      (Nat.le_of_eq turns.nextSerial.symm) (fun _ _ => unchanged streams) fun serial _ stream filter =>
        hooksOn_of_beside turns.wrote fun visit member =>
          (beside visit member).hookOn? serial stream filter
  | aside shape journal _ nextSerial =>
    have streams : after.streams = before.streams := congrArg Outline.streams shape
    exact lively.still sound (congrArg Outline.controllers shape) (runs_of_streams streams)
      (Nat.le_of_eq nextSerial.symm) (fun _ _ => unchanged streams) fun serial _ stream filter => by
        rw [hooksOn, journal]
        rfl
  | @reject controller _ serial turns =>
    have streams : after.streams = before.streams := congrArg Outline.streams turns.shape
    have nextSerial : after.nextSerial = before.nextSerial + 1 := turns.nextSerial
    refine lively.still sound (congrArg Outline.controllers turns.shape) (runs_of_streams streams)
      (by omega) (fun _ _ => unchanged streams) fun other range stream filter => ?_
    have away : controller.serial ≠ other := by omega
    rw [hooksOn_of_wrote turns.wrote, hooksAmong_plainCall stream filter .construct other controller
      (nomatch ·), if_neg away, List.append_nil]
    rfl
  | load loads => exact lively.load sound loads
  | unload loaded _ turns => exact lively.unload turns sound loaded
  | @attach stream graph _ _ _ idle distinct numbers =>
    have still := not_runs_of_unattached (sound.unattached numbers.number)
    refine lively.still sound (congrArg Outline.controllers numbers.shape)
      (runs_of_replaced numbers.stream?_attached still fun _ same => by cases same; exact idle)
      (Nat.le_of_eq numbers.nextSerial.symm) (fun other otherGraph attached => ?_)
      fun serial _ owner filter => hooksOn_of_beside numbers.wrote fun visit member =>
        (numbers.constructions visit member).hookOn? serial owner filter
    rw [numbers.stream?_attached] at attached
    split at attached
    · cases attached
      exact .inr ⟨idle, distinct⟩
    · exact .inl attached
  | unattach numbers controllers streams =>
    have still := not_runs_of_unattached (sound.unattached numbers.number)
    refine lively.still sound ((congrArg Outline.controllers numbers.shape).trans controllers)
      (runs_of_replaced (sound.stream?_unattached numbers streams) still fun _ same => nomatch same)
      (Nat.le_of_eq numbers.nextSerial.symm) (fun other graph attached => ?_)
      fun serial _ owner filter => hooksOn_of_beside numbers.wrote fun visit member =>
        (numbers.constructions visit member).hookOn? serial owner filter
    rw [sound.stream?_unattached numbers streams] at attached
    split at attached
    · cases attached
    · exact .inl attached
  | detach found idle detaches =>
    refine lively.still sound (congrArg Outline.controllers detaches.shape)
      (runs_of_replaced detaches.stream? (not_runs_of_idle found idle) fun _ same => nomatch same)
      (Nat.le_of_eq detaches.nextSerial.symm) (fun other graph attached => ?_)
      fun serial _ owner filter => hooksOn_of_beside detaches.wrote fun _ member =>
        (List.not_mem_nil member).elim
    rw [detaches.stream?] at attached
    split at attached
    · cases attached
    · exact .inl attached
  | start found idle starts => exact lively.start sound found idle starts
  | breakStart _ _ breaks => exact absurd calm breaks.not_calm
  | stop found running stops => exact lively.stop sound earlier found running stops
  | breakStop _ _ breaks => exact absurd calm breaks.not_calm

/-! ## Whole lives -/

/-- A controller is destroyed in a turn, or it is still loaded afterwards. -/
theorem Turn.modules (turn : Turn fresh past before past' after) {controller : LoadedController}
    (loaded : controller ∈ before.controllers) :
    (∃ later ∈ after.controllers,
      later.serial = controller.serial ∧ later.module = controller.module) ∨
    past' = past ∧ ∃ departing ∈ before.controllers, departing.serial = controller.serial ∧
      departing.activeStreams = [] ∧ Turns (plainCall departing .destroy)
        (before.outline.unloaded departing.serial) before after := by
  have same (controllers : after.controllers = before.controllers) :
      ∃ later ∈ after.controllers,
        later.serial = controller.serial ∧ later.module = controller.module :=
    ⟨controller, controllers ▸ loaded, rfl, rfl⟩
  have moved {serials : List Nat} {stream? : Option StreamId} {target : Phase}
      (controllers : after.controllers =
        (before.outline.step serials stream? target).controllers) :
      ∃ later ∈ after.controllers,
        later.serial = controller.serial ∧ later.module = controller.module := by
    rw [controllers]
    refine ⟨_, List.mem_map_of_mem loaded, ?_⟩
    split <;> exact ⟨rfl, rfl⟩
  cases turn with
  | quiet _ turns => exact .inl (same (congrArg Outline.controllers turns.shape))
  | aside shape => exact .inl (same (congrArg Outline.controllers shape))
  | reject _ turns => exact .inl (same (congrArg Outline.controllers turns.shape))
  | load loads =>
    have controllers : after.controllers = before.controllers ++ _ :=
      congrArg Outline.controllers loads.turns.shape
    exact .inl ⟨controller, controllers ▸ List.mem_append_left _ loaded, rfl, rfl⟩
  | @unload departing _ member outside turns =>
    by_cases here : departing.serial = controller.serial
    · exact .inr ⟨rfl, departing, member, here, outside, turns⟩
    · have controllers : after.controllers =
          before.controllers.filter (·.serial ≠ departing.serial) :=
        congrArg Outline.controllers turns.shape
      refine .inl ⟨controller, controllers ▸ List.mem_filter.mpr ⟨loaded, ?_⟩, rfl, rfl⟩
      exact decide_eq_true (Ne.symm here)
  | attach _ _ _ numbers => exact .inl (same (congrArg Outline.controllers numbers.shape))
  | unattach numbers controllers =>
    exact .inl (same ((congrArg Outline.controllers numbers.shape).trans controllers))
  | detach _ _ detaches => exact .inl (same (congrArg Outline.controllers detaches.shape))
  | start _ _ starts => exact .inl (moved starts.controllers)
  | breakStart _ _ breaks => exact .inl (moved breaks.controllers)
  | stop _ _ stops => exact .inl (moved stops.controllers)
  | breakStop _ _ breaks => exact .inl (moved breaks.controllers)

/-- Controllers that are not loaded see no start. -/
theorem Turn.unseen (turn : Turn fresh past before past' after) {serial : Nat}
    (absent : serial ∉ before.outline.serials) (stream : StreamId) :
    past'.seen serial stream = past.seen serial stream ∧
      (past'.saw serial stream → past.saw serial stream) := by
  cases turn with
  | @start started =>
    refine ⟨by simp only [Past.start, absent, and_false, if_false], fun saw => ?_⟩
    dsimp only [Past.start] at saw
    split at saw
    · exact absurd saw absent
    · exact saw
  | _ => exact ⟨rfl, id⟩

/-- Nothing is called on a controller that has been unloaded. -/
theorem Turn.uncalled (lively : Lively past before) (turn : Turn fresh past before past' after)
    (calm : after.Calm) {serial : Nat} (old : serial < before.nextSerial)
    (absent : serial ∉ before.outline.serials) (stream : StreamId) (filter : String) :
    after.hooksOn serial stream filter = before.hooksOn serial stream filter := by
  have missing : serial ∉ before.controllers.map (·.serial) := absent
  cases turn with
  | quiet beside turns =>
    exact hooksOn_of_beside turns.wrote fun visit member =>
      (beside visit member).hookOn? serial stream filter
  | aside _ journal =>
    rw [hooksOn, journal]
    rfl
  | @reject controller _ new turns =>
    have away : controller.serial ≠ serial := by omega
    rw [hooksOn_of_wrote turns.wrote, hooksAmong_plainCall stream filter .construct serial
      controller (nomatch ·), if_neg away, List.append_nil]
    rfl
  | @load controller _ loads =>
    have away : controller.serial ≠ serial := by
      rw [loads.serial]
      exact Nat.ne_of_gt old
    rw [hooksOn_of_wrote loads.turns.wrote, hooksAmong_plainCall stream filter .construct serial
      controller (nomatch ·), if_neg away, List.append_nil]
    rfl
  | @unload controller _ member _ turns =>
    have away : controller.serial ≠ serial := fun same =>
      absent (same ▸ before.outline.mem_serials member)
    rw [hooksOn_of_wrote turns.wrote, hooksAmong_plainCall stream filter .destroy serial controller
      (nomatch ·), if_neg away, List.append_nil]
  | attach _ _ _ numbers =>
    exact hooksOn_of_beside numbers.wrote fun visit member =>
      (numbers.constructions visit member).hookOn? serial stream filter
  | unattach numbers =>
    exact hooksOn_of_beside numbers.wrote fun visit member =>
      (numbers.constructions visit member).hookOn? serial stream filter
  | detach _ _ detaches =>
    exact hooksOn_of_beside detaches.wrote fun _ member => (List.not_mem_nil member).elim
  | @start started graph _ _ _ found _ starts =>
    rw [hooksOn_of_wrote starts.turns.wrote, hooksAmong_startCalls_absent stream started filter
      (lively.distinct started graph found) starts.slots missing, List.append_nil]
  | breakStart _ _ breaks => exact absurd calm breaks.not_calm
  | @stop stopped graph _ found _ stops =>
    obtain ⟨results, _, turns⟩ := stops.turns
    have distinct := (lively.distinct stopped graph found).sublist (sublist_runningSlots graph)
    have apart : serial ∉ (before.witnesses stopped).map (·.serial) := by
      intro member
      obtain ⟨witness, among, rfl⟩ := List.mem_map.mp member
      exact absent (before.outline.mem_serials (mem_witnesses.mp among).1)
    rw [hooksOn_of_wrote turns.wrote, hooksAmong_stopCalls_absent stream stopped filter distinct
      apart, List.append_nil]
  | breakStop _ _ breaks => exact absurd calm breaks.not_calm

/-- A controller with a module either is still loaded or has been destroyed, and
then nothing has been called on it since. -/
def Lived (serial : Nat) (module : ControllerModule) (past : Past) (host : Host σ) : Prop :=
  (∃ controller ∈ host.controllers, controller.serial = serial ∧ controller.module = module) ∨
    serial < host.nextSerial ∧ serial ∉ host.outline.serials ∧ ∀ stream,
      ¬ (host.Runs stream ∧ past.saw serial stream) ∧ ∀ filter,
        host.hooksOn serial stream filter =
          (Hook.construct :: cycles filter false (past.seen serial stream) ++ [Hook.destroy]).filter
            module.fills

theorem Lived.turn {serial : Nat} {module : ControllerModule}
    (lived : Lived serial module past before) (sound : Sound past before)
    (lively : Lively past before) (turn : Turn fresh past before past' after) (calm : after.Calm) :
    Lived serial module past' after := by
  rcases lived with ⟨controller, loaded, rfl, rfl⟩ | ⟨old, absent, ended⟩
  · rcases turn.modules loaded with ⟨later, member, serial, module⟩ |
      ⟨rfl, departing, member, same, outside, turns⟩
    · exact .inl ⟨later, member, serial, module⟩
    · have here : departing = controller := by
        have found := find?_serial sound.nodup member
        rw [same, find?_serial sound.nodup loaded, Option.some.injEq] at found
        exact found.symm
      subst here
      have runs : after.Runs = before.Runs := runs_of_streams (congrArg Outline.streams turns.shape)
      refine .inr ⟨?_, ?_, fun stream => ?_⟩
      · rw [turns.nextSerial]
        exact sound.bound _ (before.outline.mem_serials member)
      · rw [turns.shape]
        simp only [Outline.serials, Outline.unloaded, List.mem_map, List.mem_filter,
          decide_eq_true_eq, not_exists, not_and, and_imp]
        exact fun other _ away => away
      · have free : ¬ (before.Runs stream ∧ past'.saw departing.serial stream) := by
          intro both
          have active := ((sound.stands departing member).fits stream).active_iff.mpr (.inl both)
          have inside := LoadedController.mem_activeStreams.mpr active
          rw [outside] at inside
          cases inside
        refine ⟨runs ▸ free, fun filter => ?_⟩
        rw [hooksOn_of_wrote turns.wrote, lively.alive departing member, Past.hooks_closed free,
          hooksAmong_plainCall stream filter .destroy _ departing Hook.noConfusion, if_pos rfl,
          ← List.filter_append]
  · obtain ⟨grown, among⟩ := turn.serials
    refine .inr ⟨Nat.lt_of_lt_of_le old grown, fun member => ?_, fun stream => ?_⟩
    · rcases among serial member with there | new
      · exact absent there
      · exact absurd old (Nat.not_lt_of_le new)
    · obtain ⟨seen, saw⟩ := turn.unseen absent stream
      obtain ⟨apart, called⟩ := ended stream
      refine ⟨fun both => ?_, fun filter => ?_⟩
      · rcases turn.runs sound both.1 with running | ⟨_, all⟩
        · exact apart ⟨running, saw both.2⟩
        · exact absent ((all serial).mp both.2)
      · rw [turn.uncalled lively calm old absent stream filter, called, seen]

end StreamControl.Host
