import StreamControl.Proofs.Lifetimes

/-!
# What a host leaves behind

A host that is shut down, or dropped before it has been, stops its streams and
unloads its controllers.  As long as no filter has panicked none of this is refused,
so that every controller that has been constructed is destroyed, and every filter that
has been started is stopped (`Host.Cleared`).

It is done once.  What is loaded or started after a shutdown is left as it is when the
host is dropped (`only_late_leaks`, `late_leaks`).
-/

set_option autoImplicit false

namespace StreamControl

/-- Whether a call is one of a function of a filter that panicked. -/
def Visit.isAlarm : Visit → Bool
  | .filter _ _ _ .panicked => true
  | _ => false

/-- A panic of a function of a filter is one of the calls. -/
theorem Entry.visit?_of_isAlarm {entry : Entry} (alarm : entry.isAlarm = true) :
    ∃ visit, entry.visit? = some visit ∧ visit.isAlarm = true := by
  unfold isAlarm at alarm
  split at alarm
  · exact ⟨_, rfl, rfl⟩
  · cases alarm

namespace Host

open StreamControl.Action Session

variable {σ : Type} {past : Past} {host before after : Host σ} {code : UserCode σ}

/-! ## Staying calm -/

/-- A host stays calm as long as no function of a filter panics. -/
theorem Calm.of_wrote {visits : List Visit} (calm : before.Calm)
    (wrote : Wrote visits before.session after.session)
    (quiet : ∀ visit ∈ visits, visit.isAlarm = false) : after.Calm := by
  obtain ⟨entries, written, rfl⟩ := wrote.written
  intro entry member
  rw [written] at member
  rcases List.mem_append.mp member with old | new
  · exact calm entry old
  · refine Bool.eq_false_iff.mpr fun alarm => ?_
    obtain ⟨visit, shown, panicked⟩ := Entry.visit?_of_isAlarm alarm
    rw [quiet visit (List.mem_filterMap.mpr ⟨entry, new, shown⟩)] at panicked
    cases panicked

theorem isAlarm_plainCall {controller : LoadedController} {hook : Hook} {visit : Visit}
    (member : visit ∈ plainCall controller hook) : visit.isAlarm = false := by
  rw [eq_hook_of_mem_plainCall member]
  rfl

theorem isAlarm_hookRound {hook : Hook} {stream : StreamId} {slots : List FilterSlot}
    {controllers : List LoadedController} {visit : Visit}
    (member : visit ∈ hookRound hook stream slots controllers) : visit.isAlarm = false := by
  obtain ⟨serial, name, rfl⟩ := eq_hook_of_mem_hookRound member
  rfl

/-- In a stop that goes to its end no function panics. -/
theorem isAlarm_stopCalls {stream : StreamId} {slots : List FilterSlot}
    {controllers : List LoadedController} {results : List (FilterSlot × Except Fault Unit)}
    {visit : Visit} (member : visit ∈ stopCalls stream slots controllers results) :
    visit.isAlarm = false := by
  rw [stopCalls, List.mem_append, List.mem_append] at member
  rcases member with (before | stopped) | after
  · exact isAlarm_hookRound before
  · obtain ⟨⟨slot, result⟩, _, rfl⟩ := List.mem_map.mp stopped
    cases result <;> rfl
  · exact isAlarm_hookRound after

/-! ## Shutting down -/

/-- What a shutdown is to leave: no controller, and no stream that runs. -/
structure Vacant (host : Host σ) : Prop where
  /-- No controller is loaded. -/
  controllers : host.controllers = []
  /-- No stream runs. -/
  still : ∀ stream, ¬ host.Runs stream

theorem Vacant.quiet (vacant : Vacant before) (turns : Turns [] before.outline before after) :
    Vacant after where
  controllers := (congrArg Outline.controllers turns.shape).trans vacant.controllers
  still := runs_of_streams (congrArg Outline.streams turns.shape) ▸ vacant.still

/-- As long as no stream runs and no filter has panicked, controllers are outside of
every cycle. -/
theorem Sound.outside (sound : Sound past host) (calm : host.Calm)
    (still : ∀ stream, ¬ host.Runs stream) {controller : LoadedController}
    (loaded : controller ∈ host.controllers) : controller.activeStreams = [] := by
  refine List.eq_nil_iff_forall_not_mem.mpr fun stream inside => ?_
  have fits := (sound.stands controller loaded).fits stream
  rcases fits.active_iff.mp (LoadedController.mem_activeStreams.mp inside) with
    ⟨running, _⟩ | broke | broke
  · exact still stream running
  · exact (sound.calm calm controller.serial stream).1 broke
  · exact (sound.calm calm controller.serial stream).2 broke

/-- One controller is as good as taken out of the list when its serial number is. -/
theorem perm_unloaded {controllers : List LoadedController} {controller : LoadedController}
    (nodup : (controllers.map (·.serial)).Nodup) (loaded : controller ∈ controllers) :
    controllers.Perm (controller :: controllers.filter (·.serial ≠ controller.serial)) := by
  induction controllers with
  | nil => cases loaded
  | cons first rest ih =>
    rw [List.map_cons, List.nodup_cons] at nodup
    rcases List.mem_cons.mp loaded with rfl | later
    · have others : rest.filter (·.serial ≠ controller.serial) = rest :=
        List.filter_eq_self.mpr fun other member => decide_eq_true fun same =>
          nodup.1 (List.mem_map.mpr ⟨other, member, same⟩)
      rw [List.filter_cons_of_neg (by simp), others]
    · have away : first.serial ≠ controller.serial := fun same =>
        nodup.1 (List.mem_map.mpr ⟨controller, later, same.symm⟩)
      rw [List.filter_cons, if_pos (decide_eq_true away)]
      exact ((ih nodup.2 later).cons first).trans (.swap ..)

/-- While no stream runs, every controller can be unloaded. -/
theorem meets_unloadAll_of_still (code : UserCode σ) (names : List String) :
    ∀ {host : Host σ}, Sound past host → host.Calm → (∀ stream, ¬ host.Runs stream) →
      names.Perm (host.controllers.map (·.name)) →
        (unloadAll code names).Meets host (fun _ => Vacant) (fun _ _ => False)
          (fun _ _ => False) := by
  induction names with
  | nil =>
    intro host _ _ still all
    exact ⟨List.map_eq_nil_iff.mp all.symm.eq_nil, still⟩
  | cons name rest ih =>
    intro host sound calm still all
    rw [unloadAll, meets_bind, meets_attempt]
    refine (meets_unload code name sound.nodup sound.destroyable).mono ?_ ?_ (fun _ _ h => h)
    · rintro _ after ⟨controller, found, _, turns⟩
      have loaded : controller ∈ host.controllers := List.mem_of_find?_eq_some found
      have named : controller.name = name := by simpa using List.find?_some found
      have controllers : after.controllers =
          host.controllers.filter (·.serial ≠ controller.serial) :=
        congrArg Outline.controllers turns.shape
      refine ih (sound.unload turns) (calm.of_wrote turns.wrote fun _ => isAlarm_plainCall)
        (runs_of_streams (congrArg Outline.streams turns.shape) ▸ still) ?_
      have rests := all.trans ((perm_unloaded sound.nodup loaded).map (·.name))
      rw [List.map_cons, named] at rests
      rw [controllers]
      exact rests.cons_inv
    · rintro fault host ⟨rfl, blocked⟩
      obtain ⟨controller, loaded, named⟩ := List.mem_map.mp (all.subset List.mem_cons_self)
      cases found : host.controller? name with
      | none => exact absurd named (by simpa using List.find?_eq_none.mp found controller loaded)
      | some controller =>
        obtain ⟨stream, _, active, _⟩ := blocked controller found
        rw [sound.outside calm still (List.mem_of_find?_eq_some found)] at active
        cases active

/-- As long as no filter panics, a shutdown keeps a host calm. -/
theorem withstands_calm (code : UserCode σ) :
    Withstands code (fun host => Sound past host ∧ host.Calm) (fun _ host => ¬ host.Calm) where
  quiet both turns := ⟨both.1.quiet turns,
    both.2.of_wrote turns.wrote fun _ member => (List.not_mem_nil member).elim⟩
  note both := ⟨both.1.aside rfl rfl rfl rfl, both.2⟩
  close both := ⟨both.1.aside rfl rfl rfl rfl, both.2⟩
  closeBroken broken := broken
  stop {host} stream both := by
    obtain ⟨sound, calm⟩ := both
    refine (meets_stop code stream sound.nodup (sound.knowsSlots stream)).mono ?_
      (fun _ _ refused => refused) ?_
    · rintro _ after ⟨graph, _, _, stops⟩
      obtain ⟨results, _, turns⟩ := stops.turns
      exact ⟨⟨sound.stop stops, calm.of_wrote turns.wrote fun _ => isAlarm_stopCalls⟩, stops.runs⟩
    · rintro _ after ⟨graph, found, running, breaks⟩
      exact ⟨breaks.not_calm, (runs_iff found).mpr running, breaks.runs⟩
  unload name both := by
    obtain ⟨sound, calm⟩ := both
    refine (meets_unload code name sound.nodup sound.destroyable).mono ?_ ?_ (fun _ _ h => h)
    · rintro _ after ⟨controller, _, _, turns⟩
      exact ⟨sound.unload turns, calm.of_wrote turns.wrote fun _ => isAlarm_plainCall⟩
    · rintro _ _ ⟨rfl, _⟩
      exact ⟨sound, calm⟩

theorem meets_shutdown_vacant (code : UserCode σ) (sound : Sound past host) (calm : host.Calm)
    (up : host.isShutDown = false) :
    (shutdown code).Meets host (fun _ => Vacant) (fun _ _ => False)
      (fun _ after => ¬ after.Calm) := by
  refine ((withstands_calm code).meets_shutdown_of ?_ Vacant.quiet up ⟨sound, calm⟩).mono
    (fun _ _ vacant => vacant) (fun _ _ h => h) fun _ _ broken => ?_
  · rintro between ⟨sound, calm⟩ still
    exact meets_unloadAll_of_still code _ sound calm still (List.reverse_perm _)
  · obtain ⟨_, _, alarmed⟩ := broken
    exact alarmed

theorem meets_drop_vacant
    (shutdown : (shutdown code).Meets host (fun _ => Vacant) (fun _ _ => False)
      (fun _ after => ¬ after.Calm)) :
    (drop code).Meets host (fun _ => Vacant) (fun _ _ => False) (fun _ after => ¬ after.Calm) := by
  rw [drop, meets_bind, meets_contain]
  exact shutdown.mono (fun _ _ vacant => ⟨vacant.controllers, vacant.still⟩) (fun _ _ h => h)
    fun _ _ alarmed => alarmed

/-- Whether an operation shuts the host down, if that has not been done yet. -/
def Operation.shutsDown : Operation σ → Bool
  | .shutdown | .drop => true
  | _ => false

/-- The first operation that shuts a host down leaves it vacant. -/
theorem vacant_perform {operation : Operation σ} (shuts : operation.shutsDown = true)
    (sound : Sound past host) (up : host.isShutDown = false) (earlier : host.Calm)
    (ends : (operation.perform code host).1 ≠ .exhausted)
    (calm : (operation.perform code host).2.Calm) : (operation.perform code host).2.Vacant := by
  have shutdown := meets_shutdown_vacant code sound earlier up
  refine Meets.of_ne_exhausted (P := fun after => after.Calm → after.Vacant) ?_ ends calm
  cases operation with
  | shutdown =>
    exact shutdown.mono (fun _ _ vacant _ => vacant) (fun _ _ h => h.elim)
      fun _ _ alarmed calm => absurd calm alarmed
  | drop =>
    exact (meets_drop_vacant shutdown).mono (fun _ _ vacant _ => vacant) (fun _ _ h => h.elim)
      fun _ _ alarmed calm => absurd calm alarmed
  | _ => cases shuts

/-! ## What has been cleared up -/

/-- Everything that was constructed has been destroyed, and everything that was started
has been stopped. -/
structure Cleared (host : Host σ) : Prop where
  /-- Controllers that were constructed have been destroyed, once. -/
  stages : ∀ serial, host.stages serial = [] ∨ host.stages serial = [.constructed, .destroyed]
  /-- Every successful start of a filter was followed by one stop. -/
  turns : ∀ stream filter, ∃ number, host.turns stream filter = rounds number
  /-- No filter is marked as started. -/
  unmarked : ∀ stream filter, host.session.tree.mark? stream filter ≠ some true

theorem Vacant.cleared (vacant : Vacant host) (careers : host.Careers) (balanced : Balanced host)
    (tidy : Tidy host) : Cleared host where
  stages serial := by
    have absent : serial ∉ host.outline.serials := by
      rw [Outline.serials, show host.outline.controllers = [] from vacant.controllers]
      exact List.not_mem_nil
    exact (careers.gone serial absent).imp_right And.right
  turns stream filter := by
    obtain ⟨number, counted⟩ := balanced stream filter
    exact ⟨number, (counted.resolve_right fun both =>
      not_running (vacant.still stream) both.1).2⟩
  unmarked stream filter marked :=
    not_running (vacant.still stream) ((tidy.marked stream filter).mp marked)

/-- The host as it was left by the operation that first shut it down. -/
def History.rested? (history : History σ) : Option (Host σ) :=
  (history.episodes.find? (·.operation.shutsDown)).map (·.after)

variable {history : History σ}

theorem History.rested?_extend (operation : Operation σ) :
    (history.extend code operation).rested? = history.rested?.or
      (if operation.shutsDown = true then some (history.extend code operation).host else none) := by
  rw [rested?, extend, List.find?_append, Option.map_or, rested?]
  refine congrArg (Option.or _) ?_
  by_cases shuts : operation.shutsDown = true <;> simp [Episode.of, shuts]

/-- Only an operation that shuts a host down notes that it is. -/
theorem isShutDown_perform {operation : Operation σ} (other : operation.shutsDown = false)
    (up : host.isShutDown = false) (ends : (operation.perform code host).1 ≠ .exhausted) :
    (operation.perform code host).2.isShutDown = false := by
  refine Episode.survives (P := fun host => host.isShutDown = false) (fun deed involved => ?_) up
    ends
  intro before after does up
  cases does with
  | stir before after _ _ _ _ isShutDown => exact isShutDown.trans up
  | shutDown => cases operation <;> first | exact involved.elim | cases other
  | _ => exact up

/-- **The first shutdown clears everything up**, as long as no filter panics, and what has
been written by then stays written. -/
theorem History.rested (reachable : history.Reachable code) (calm : history.host.Calm) :
    (history.rested? = none → history.host.isShutDown = false) ∧
      ∀ rested, history.rested? = some rested → Cleared rested ∧
        rested.session.journal.toList <+: history.host.session.journal.toList := by
  refine reachable.induction (motive := fun history => history.host.Calm →
    (history.rested? = none → history.host.isShutDown = false) ∧
      ∀ rested, history.rested? = some rested → Cleared rested ∧
        rested.session.journal.toList <+: history.host.session.journal.toList) ?_ ?_ calm
  · exact fun channel config memory _ => ⟨fun _ => rfl, fun _ impossible => nomatch impossible⟩
  · intro history operation reachable ih permits ends calm
    have step : Leads code history (history.extend code operation) :=
      .step operation .refl permits ends
    obtain ⟨up, cleared⟩ := ih (step.calm calm)
    rw [rested?_extend]
    cases found : history.rested? with
    | some rested =>
      refine ⟨fun impossible => (nomatch impossible), fun _ same => ?_⟩
      cases same
      obtain ⟨cleared, written⟩ := cleared rested found
      exact ⟨cleared, written.trans step.written⟩
    | none =>
      cases shuts : operation.shutsDown with
      | false =>
        exact ⟨fun _ => isShutDown_perform shuts (up found) ends,
          fun _ impossible => nomatch impossible⟩
      | true =>
        refine ⟨fun impossible => (nomatch impossible), fun _ same => ?_⟩
        cases same
        have later := reachable.leads step
        have vacant : Vacant (history.extend code operation).host :=
          vacant_perform shuts (History.sound reachable) (up found) (step.calm calm) ends calm
        exact ⟨vacant.cleared (History.careers later) (History.balanced later calm)
          (History.tidy later calm), List.prefix_rfl⟩

/-! ## The hook of a controller that is destroyed -/

theorem not_destroy_cycles {filter : String} {seen : List Sighting} {hook : Hook}
    (member : hook ∈ cycles filter false seen) : hook ≠ .destroy := by
  rw [cycles_false] at member
  obtain ⟨sighting, _, inside⟩ := List.mem_flatMap.mp member
  rintro rfl
  rw [Sighting.cycle, Sighting.opening, Sighting.closing] at inside
  split at inside <;> split at inside <;> simp at inside

/-- A controller that has been loaded either still is or has come to its end. -/
theorem History.lived {origin : History σ} (reachable : origin.Reachable code)
    (leads : Leads code origin history) (calm : history.host.Calm)
    {controller : LoadedController} (loaded : controller ∈ origin.host.controllers) :
    Lived controller.serial controller.module history.past history.host := by
  refine (leads.calm_induction reachable (motive := fun past host =>
    Lively past host ∧ Lived controller.serial controller.module past host) ?_ ?_ calm).2
  · exact fun calm => ⟨History.lively reachable calm, .inl ⟨controller, loaded, rfl, rfl⟩⟩
  · rintro past past' before after sound ⟨lively, lived⟩ turn calm
    exact ⟨lively.turn sound turn calm, lived.turn sound lively turn calm⟩

/-- When a controller has been destroyed, its `destroy` hook has been called once, if it
fills it. -/
theorem History.destroyed {origin : History σ} (reachable : origin.Reachable code)
    (leads : Leads code origin history) (calm : history.host.Calm)
    {controller : LoadedController} (loaded : controller ∈ origin.host.controllers)
    (ended : history.host.stages controller.serial = [.constructed, .destroyed])
    (stream : StreamId) (filter : String) :
    (history.host.hooksOn controller.serial stream filter).filter (· = .destroy) =
      [Hook.destroy].filter controller.module.fills := by
  rcases History.lived reachable leads calm loaded with ⟨still, member, serial, _⟩ | ⟨_, _, called⟩
  · have careers := History.careers (reachable.leads leads)
    have constructed := (careers.loaded _ (history.host.outline.mem_serials member)).2
    rw [serial, ended] at constructed
    cases constructed
  · rw [(called stream).2, List.filter_append, List.filter_append, List.filter_eq_nil_iff.mpr,
      List.nil_append, List.filter_eq_self.mpr]
    · intro hook member
      exact decide_eq_true (List.mem_singleton.mp (List.mem_filter.mp member).1)
    · intro hook member same
      rcases List.mem_cons.mp (List.mem_filter.mp member).1 with rfl | inside
      · cases of_decide_eq_true same
      · exact not_destroy_cycles inside (of_decide_eq_true same)

/-! ## What is left in the end -/

section Since

variable {rested : Host σ} (cleared : Cleared rested)
  (written : rested.session.journal.toList <+: host.session.journal.toList)
include cleared written

/-- A controller that is still loaded after everything had been cleared up was
constructed later. -/
theorem Cleared.stages_since (careers : host.Careers) (serial : Nat) :
    host.stages serial = [] ∨ host.stages serial = [.constructed, .destroyed] ∨
      host.stages serial = [.constructed] ∧ rested.stages serial = [] := by
  by_cases loaded : serial ∈ host.outline.serials
  · have constructed := (careers.loaded serial loaded).2
    have earlier : rested.stages serial <+: host.stages serial :=
      written.filterMap (Entry.stage? serial)
    rw [constructed] at earlier
    refine .inr (.inr ⟨constructed, (cleared.stages serial).resolve_right fun ended => ?_⟩)
    rw [ended] at earlier
    exact absurd earlier (by decide)
  · exact (careers.gone serial loaded).imp_right fun both => .inl both.2

/-- A filter that runs after everything had been cleared up was started later. -/
theorem Cleared.turns_since (balanced : Balanced host) (tidy : Tidy host) (stream : StreamId)
    (filter : String) : ∃ number,
      (host.session.tree.mark? stream filter ≠ some true ∧
        host.turns stream filter = rounds number) ∨
      (host.session.tree.mark? stream filter = some true ∧
        host.turns stream filter = rounds number ++ [.start] ∧
          ∃ earlier ≤ number, rested.turns stream filter = rounds earlier) := by
  have marked := tidy.marked stream filter
  obtain ⟨number, counted⟩ := balanced stream filter
  refine ⟨number, counted.imp (fun both => ⟨fun mark => both.1 (marked.mp mark), both.2⟩)
    fun both => ⟨marked.mpr both.1, both.2, ?_⟩⟩
  have earlier : rested.turns stream filter <+: host.turns stream filter :=
    (written.filterMap Entry.visit?).filterMap (Visit.turn? stream filter)
  obtain ⟨rounds, closed⟩ := cleared.turns stream filter
  rw [both.2, closed] at earlier
  have shorter := earlier.length_le
  rw [List.length_append, length_rounds, length_rounds, List.length_singleton] at shorter
  exact ⟨rounds, by omega, closed⟩

end Since

/-- **What is left when a host has been dropped.** The first shutdown, or else the drop,
clears everything up, and whatever is left in the end came after it: controllers that were
constructed later and are not destroyed, and filters that were started later and are not
stopped.  Controllers that have been destroyed had their `destroy` hook called once. -/
theorem only_late_leaks (reachable : history.Reachable code) (calm : history.host.Calm)
    {episode : Episode σ} (member : episode ∈ history.episodes)
    (dropped : episode.operation = .drop) :
    ∃ rested, history.rested? = some rested ∧ Cleared rested ∧
      (∀ serial, history.host.stages serial = [] ∨
        history.host.stages serial = [.constructed, .destroyed] ∨
        history.host.stages serial = [.constructed] ∧ rested.stages serial = []) ∧
      (∀ stream filter, ∃ number,
        (history.host.session.tree.mark? stream filter ≠ some true ∧
          history.host.turns stream filter = rounds number) ∨
        (history.host.session.tree.mark? stream filter = some true ∧
          history.host.turns stream filter = rounds number ++ [.start] ∧
            ∃ earlier ≤ number, rested.turns stream filter = rounds earlier)) ∧
      ∀ origin : History σ, origin.Reachable code → History.Leads code origin history →
        ∀ controller ∈ origin.host.controllers,
          history.host.stages controller.serial = [.constructed, .destroyed] →
            ∀ stream filter,
              (history.host.hooksOn controller.serial stream filter).filter (· = .destroy) =
                [Hook.destroy].filter controller.module.fills := by
  have shut : history.rested? ≠ none := by
    rw [History.rested?, ne_eq, Option.map_eq_none_iff, List.find?_eq_none]
    intro none
    exact none episode member (by rw [dropped]; rfl)
  obtain ⟨rested, found⟩ := Option.ne_none_iff_exists'.mp shut
  obtain ⟨cleared, written⟩ := (History.rested reachable calm).2 rested found
  exact ⟨rested, found, cleared, cleared.stages_since written (History.careers reachable),
    cleared.turns_since written (History.balanced reachable calm) (History.tidy reachable calm),
    fun origin began leads controller loaded ended stream filter =>
      History.destroyed began leads calm loaded ended stream filter⟩

/-- A history in which a host goes on being used after it has been shut down: another
controller is loaded, and the stream is started again. -/
def revivedHistory : History Unit :=
  .after idleCode { episodes := [], host := freshHost }
    [.load "mixer" none busyModule [], .addStream (FilterGraph.empty.append "source" none),
      .start ⟨1⟩, .shutdown, .load "late" none busyModule [], .start ⟨1⟩]

theorem revivedHistory_reachable : revivedHistory.Reachable idleCode := by
  refine ⟨_, _, _, create_freshHost, History.leads_after _ ⟨⟨⟨?_, nofun⟩, ?_⟩,
    ⟨⟨?_, ?attach⟩, ?_⟩, ⟨⟨?_, nofun⟩, ?_⟩, ⟨⟨?_, nofun⟩, ?_⟩, ⟨⟨?_, nofun⟩, ?_⟩,
    ⟨⟨?_, nofun⟩, ?_⟩, trivial⟩⟩
  case attach =>
    intro graph same
    cases same
    exact .add .new rfl
  all_goals decide +kernel

theorem leads_dropped :
    History.Leads idleCode revivedHistory (revivedHistory.extend idleCode .drop) := by
  refine .step .drop .refl ⟨?_, nofun⟩ ?_
  all_goals decide +kernel

/-- The drop neither destroys the late controller nor stops the stream. -/
theorem late_leaks :
    (revivedHistory.extend idleCode .drop).Reachable idleCode ∧
      (revivedHistory.extend idleCode .drop).host.Calm ∧
      (revivedHistory.extend idleCode .drop).host.stages 1 = [.constructed] ∧
      (revivedHistory.extend idleCode .drop).host.turns ⟨1⟩ "source" = [.start, .stop, .start] ∧
      (revivedHistory.extend idleCode .drop).host.session.tree.mark? ⟨1⟩ "source" = some true := by
  refine ⟨revivedHistory_reachable.leads leads_dropped, ?_, ?_, ?_, ?_⟩
  all_goals decide +kernel

/-- When the host was first shut down, the late controller had not been constructed, and
the start that is not answered had not been made. -/
theorem only_late_leaks_revived :
    ∃ rested, (revivedHistory.extend idleCode .drop).rested? = some rested ∧ Cleared rested ∧
      rested.stages 1 = [] ∧ ∃ number,
        (revivedHistory.extend idleCode .drop).host.turns ⟨1⟩ "source" = rounds number ++ [.start] ∧
          ∃ earlier ≤ number, rested.turns ⟨1⟩ "source" = rounds earlier := by
  have calm : (revivedHistory.extend idleCode .drop).host.Calm := by
    decide +kernel
  have constructed : (revivedHistory.extend idleCode .drop).host.stages 1 = [.constructed] := by
    decide +kernel
  have marked : (revivedHistory.extend idleCode .drop).host.session.tree.mark? ⟨1⟩ "source" =
      some true := by
    decide +kernel
  obtain ⟨rested, found, cleared, stages, turns, _⟩ := only_late_leaks
    (revivedHistory_reachable.leads leads_dropped) calm List.mem_concat_self rfl
  obtain ⟨number, counted⟩ := turns ⟨1⟩ "source"
  refine ⟨rested, found, cleared, ?_, number,
    (counted.resolve_left fun both => both.1 marked).2⟩
  rcases stages 1 with none | ended | ⟨_, later⟩
  · rw [constructed] at none
    cases none
  · rw [constructed] at ended
    cases ended
  · exact later

end Host

end StreamControl
