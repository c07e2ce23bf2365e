import StreamControl.Proofs.HookProtocol

/-!
# Marks and graphs

The tree marks the filters that are started, and each stream keeps the states of
its own filters.  The two are changed one after the other, and a panic of a
filter can come in between.  As long as none has come, they agree
(`Host.Tidy`): the tree knows the filters of attached streams and no others, and
it marks exactly those that are started in a stream that runs.
-/

set_option autoImplicit false

namespace StreamControl

/-! ## Marks in outlines -/

namespace Outline

variable (outline : Outline) (stream : StreamId)

theorem mark?_settle (result : FilterSlot × StartResult) (owner : StreamId) (name : String) :
    (outline.settle stream result).mark? owner name =
      if owner = stream ∧ result.2 = .started ∧ name = result.1.name then some true
      else outline.mark? owner name := by
  obtain ⟨slot, result⟩ := result
  cases result <;> simp [settle, mark, change]

/-- A start marks the filters that it starts. -/
theorem mark?_starting (results : List (FilterSlot × StartResult)) (owner : StreamId)
    (name : String) :
    (outline.starting stream results).mark? owner name =
      if owner = stream ∧ name ∈ (Host.startedSlots results).map (·.name) then some true
      else outline.mark? owner name := by
  have fold : ∀ first : Outline,
      (results.foldl (fun outline => outline.settle stream) first).mark? owner name =
        if owner = stream ∧ name ∈ (Host.startedSlots results).map (·.name) then some true
        else first.mark? owner name := by
    induction results with
    | nil => simp [Host.startedSlots]
    | cons result rest ih =>
      intro first
      have among : name ∈ (Host.startedSlots (result :: rest)).map (·.name) ↔
          (result.2 = .started ∧ name = result.1.name) ∨
            name ∈ (Host.startedSlots rest).map (·.name) := by
        rw [Host.startedSlots, List.filter_cons]
        by_cases starts : result.2 = .started <;> simp [starts, Host.startedSlots]
      rw [List.foldl_cons, ih, mark?_settle]
      simp only [among]
      by_cases here : owner = stream <;>
        by_cases now : result.2 = .started ∧ name = result.1.name <;> simp [here, now]
  exact fold _

theorem mark?_started (results : List (FilterSlot × StartResult)) (owner : StreamId)
    (name : String) :
    (outline.started stream results).mark? owner name =
      if owner = stream ∧ name ∈ (Host.startedSlots results).map (·.name) then some true
      else outline.mark? owner name :=
  outline.mark?_starting stream results owner name

/-- A stop takes the marks away from the filters that it stops. -/
theorem mark?_stopped (serials : List Nat) (slots : List FilterSlot) (owner : StreamId)
    (name : String) :
    (outline.stopped stream serials slots).mark? owner name =
      if owner = stream ∧ name ∈ slots.map (·.name) then some false
      else outline.mark? owner name := by
  have fold : ∀ first : Outline,
      (slots.foldl (fun outline => outline.halt stream) first).mark? owner name =
        if owner = stream ∧ name ∈ slots.map (·.name) then some false
        else first.mark? owner name := by
    induction slots with
    | nil => simp
    | cons slot rest ih =>
      intro first
      rw [List.foldl_cons, ih]
      by_cases here : owner = stream <;> by_cases same : name = slot.name <;>
        simp [halt, mark, change, here, same]
  exact fold _

end Outline

namespace Host

open StreamControl.Action Session

variable {σ : Type}

/-! ## Which filters run -/

/-- The started filters of a stream that runs. -/
def Running (host : Host σ) (stream : StreamId) (filter : String) : Prop :=
  ∃ graph, host.stream? stream = some graph ∧ graph.flow = .running ∧
    filter ∈ (runningSlots graph).map (·.name)

variable {fresh : FilterGraph → Prop} {past past' : Past} {before after : Host σ}

/-- Filters of a stream that is not attached, or does not run, are not started. -/
theorem not_running {stream : StreamId} {filter : String} (still : ¬ before.Runs stream) :
    ¬ before.Running stream filter := by
  rintro ⟨graph, attached, running, _⟩
  exact still ⟨graph, attached, running⟩

theorem running_of_streams (streams : after.streams = before.streams) :
    after.Running = before.Running := by
  funext stream filter
  rw [Running, Running, Host.stream?, Host.stream?, streams]

theorem running_of_replaced {stream : StreamId} {graph? : Option FilterGraph}
    (streams : ∀ other, after.stream? other =
      if other = stream then graph? else before.stream? other)
    (still : ¬ before.Runs stream) (fresh : ∀ graph, graph? = some graph → graph.flow = .idle) :
    after.Running = before.Running := by
  have runs := runs_of_replaced streams still fresh
  funext other filter
  by_cases here : other = stream
  · subst here
    exact propext ⟨fun now => absurd now (not_running (runs ▸ still)),
      fun earlier => absurd earlier (not_running still)⟩
  · rw [Running, Running, streams, if_neg here]

theorem Starts.running {stream : StreamId} {graph : FilterGraph} {report : StartReport}
    {results : List (FilterSlot × StartResult)}
    (starts : Starts stream graph report results before after)
    (found : before.stream? stream = some graph) (idle : graph.flow = .idle) (other : StreamId)
    (filter : String) : after.Running other filter ↔
      (other = stream ∧ filter ∈ (startedSlots results).map (·.name)) ∨
        before.Running other filter := by
  have attached := starts.stream? other
  by_cases here : other = stream
  · subst here
    rw [found, Option.map_some, if_pos rfl] at attached
    have still : ¬ before.Running other filter := not_running (not_runs_of_idle found idle)
    simp only [Running, attached, Option.some.injEq, exists_eq_left',
      names_runningSlots_settled starts.slots, true_and]
    exact ⟨fun both => .inl both.2, fun either => ⟨rfl, either.resolve_right still⟩⟩
  · simp only [here, if_false, Option.map_id'] at attached
    simp only [Running, attached, here, false_and, false_or]

theorem Stops.running {stream : StreamId} {graph : FilterGraph}
    (stops : Stops stream graph before after) (other : StreamId) (filter : String) :
    after.Running other filter ↔ before.Running other filter ∧ other ≠ stream := by
  by_cases here : other = stream
  · subst here
    have idle : ¬ after.Running other filter :=
      not_running fun runs => ((stops.runs other).mp runs).2 rfl
    exact ⟨fun now => absurd now idle, fun both => absurd rfl both.2⟩
  · have attached := stops.stream? other
    simp only [here, if_false, Option.map_id'] at attached
    simp only [Running, attached, here, ne_eq, not_false_eq_true, and_true]

/-! ## Tidy hosts -/

/-- The tree and the graphs of the streams agree on which filters there are and
which of them are started. -/
structure Tidy (host : Host σ) : Prop where
  /-- The tree knows only filters of attached streams. -/
  attached : ∀ stream filter, (host.outline.mark? stream filter).isSome = true →
    ∃ graph, host.stream? stream = some graph ∧ filter ∈ graph.names
  /-- It marks the started filters of streams that run. -/
  marked : ∀ stream filter, host.outline.mark? stream filter = some true ↔
    host.Running stream filter

theorem tidy_onChannel (channel : Broadcast Event) (config : Config) (memory : σ) :
    Tidy (onChannel channel config memory) where
  attached _ _ known := nomatch known
  marked _ _ := ⟨fun marked => (nomatch marked), fun ⟨_, attached, _⟩ => nomatch attached⟩

/-- What changes neither streams nor marks keeps a host tidy. -/
theorem Tidy.of_outline (tidy : Tidy before) (streams : after.streams = before.streams)
    (marks : after.session.tree.mark? = before.session.tree.mark?) : Tidy after := by
  have same : after.outline.mark? = before.outline.mark? := marks
  refine { attached := fun stream filter known => ?_, marked := fun stream filter => ?_ }
  · rw [same] at known
    rw [Host.stream?, streams]
    exact tidy.attached stream filter known
  · rw [same, tidy.marked, running_of_streams streams]

/-- A stream that does not run is replaced by one that does not either, and the
tree knows no filters of it besides its own. -/
theorem Tidy.replace (tidy : Tidy before) {stream : StreamId} {graph? : Option FilterGraph}
    (streams : ∀ other, after.stream? other =
      if other = stream then graph? else before.stream? other)
    (idle : ∀ graph, graph? = some graph → graph.flow = .idle)
    (marks : ∀ filter, after.outline.mark? stream filter ≠ some true)
    (known : ∀ filter, (after.outline.mark? stream filter).isSome = true →
      ∃ graph, graph? = some graph ∧ filter ∈ graph.names)
    (others : ∀ other filter, other ≠ stream →
      after.outline.mark? other filter = before.outline.mark? other filter) : Tidy after where
  attached other filter there := by
    rw [streams]
    by_cases here : other = stream
    · subst here
      rw [if_pos rfl]
      exact known filter there
    · rw [if_neg here]
      rw [others other filter here] at there
      exact tidy.attached other filter there
  marked other filter := by
    by_cases here : other = stream
    · subst here
      refine ⟨fun marked => absurd marked (marks filter), ?_⟩
      rintro ⟨graph, attached, running, _⟩
      rw [streams, if_pos rfl] at attached
      rw [idle graph attached] at running
      cases running
    · rw [others other filter here, tidy.marked, Running, Running, streams, if_neg here]

theorem Tidy.start {stream : StreamId} {graph : FilterGraph} {report : StartReport}
    {results : List (FilterSlot × StartResult)} (tidy : Tidy before)
    (found : before.stream? stream = some graph) (idle : graph.flow = .idle)
    (starts : Starts stream graph report results before after) : Tidy after where
  attached other filter known := by
    replace known := (starts.turns.tree.filters other filter).symm.trans known
    obtain ⟨old, attached, member⟩ := tidy.attached other filter known
    refine ⟨_, by rw [starts.stream?, attached, Option.map_some], ?_⟩
    split
    · exact (old.names_settled results).symm ▸ member
    · exact member
  marked other filter := by
    rw [starts.turns.shape, Outline.mark?_started, starts.running found idle, ← tidy.marked]
    by_cases now : other = stream ∧ filter ∈ (startedSlots results).map (·.name)
    · rw [if_pos now]
      exact ⟨fun _ => .inl now, fun _ => rfl⟩
    · rw [if_neg now, or_iff_right now]

theorem Tidy.stop {stream : StreamId} {graph : FilterGraph} (tidy : Tidy before)
    (found : before.stream? stream = some graph) (stops : Stops stream graph before after) :
    Tidy after := by
  obtain ⟨results, _, turns⟩ := stops.turns
  refine { attached := fun other filter known => ?_, marked := fun other filter => ?_ }
  · replace known := (turns.tree.filters other filter).symm.trans known
    obtain ⟨old, attached, member⟩ := tidy.attached other filter known
    refine ⟨_, by rw [stops.stream?, attached, Option.map_some], ?_⟩
    split
    · exact (old.names_halted _).symm ▸ member
    · exact member
  · rw [turns.shape, Outline.mark?_stopped, stops.running, ← tidy.marked]
    by_cases here : other = stream
    · subst here
      simp only [true_and, ne_eq, not_true_eq_false, and_false, iff_false]
      split
      · exact nofun
      · rename_i absent
        rw [tidy.marked]
        rintro ⟨same, attached, _, member⟩
        rw [found, Option.some.injEq] at attached
        exact absent (attached ▸ member)
    · simp only [here, false_and, if_false, ne_eq, not_false_eq_true, and_true]

/-- A turn of a host that is calm afterwards keeps it tidy. -/
theorem Tidy.turn (tidy : Tidy before) (sound : Sound past before)
    (turn : Turn fresh past before past' after) (calm : after.Calm) : Tidy after := by
  have quiet {visits : List Visit} (turns : Turns visits before.outline before after) : Tidy after :=
    tidy.of_outline (congrArg Outline.streams turns.shape) (congrArg Outline.mark? turns.shape)
  cases turn with
  | quiet _ turns => exact quiet turns
  | aside shape =>
    exact tidy.of_outline (congrArg Outline.streams shape) (congrArg Outline.mark? shape)
  | reject _ turns =>
    exact tidy.of_outline (congrArg Outline.streams turns.shape) (congrArg Outline.mark? turns.shape)
  | load loads =>
    exact tidy.of_outline (congrArg Outline.streams loads.turns.shape)
      (congrArg Outline.mark? loads.turns.shape)
  | unload _ _ turns =>
    exact tidy.of_outline (congrArg Outline.streams turns.shape) (congrArg Outline.mark? turns.shape)
  | @attach stream graph _ _ _ idle _ numbers =>
    have fresh : ∀ filter, before.outline.mark? stream filter = none := fun filter =>
      Option.not_isSome_iff_eq_none.mp fun known => by
        obtain ⟨graph, attached, _⟩ := tidy.attached stream filter known
        rw [sound.unattached numbers.number] at attached
        cases attached
    have marks : ∀ other filter, after.outline.mark? other filter =
        if other = stream ∧ filter ∈ graph.names then some false
        else before.outline.mark? other filter := fun other filter => by rw [numbers.shape]; rfl
    refine tidy.replace numbers.stream?_attached (fun _ same => by cases same; exact idle) ?_ ?_ ?_
    · intro filter
      rw [marks, fresh]
      split <;> exact nofun
    · intro filter known
      rw [marks, fresh] at known
      split at known
      · rename_i both
        exact ⟨graph, rfl, both.2⟩
      · cases known
    · intro other filter away
      rw [marks, if_neg fun both => away both.1]
  | @unattach stream _ _ _ numbers _ streams forgotten =>
    have marks : ∀ other filter, after.outline.mark? other filter =
        if other = stream then none else before.outline.mark? other filter := fun other filter => by
      rw [numbers.shape, forgotten calm]
      rfl
    refine tidy.replace (sound.stream?_unattached numbers streams)
      (fun _ impossible => nomatch impossible) (fun filter => ?_) (fun filter known => ?_)
      fun other filter away => ?_
    · rw [marks, if_pos rfl]
      exact nofun
    · rw [marks, if_pos rfl] at known
      cases known
    · rw [marks, if_neg away]
  | @detach stream _ _ _ _ detaches =>
    have marks : ∀ other filter, after.outline.mark? other filter =
        if other = stream then none else before.outline.mark? other filter := fun other filter => by
      rw [detaches.shape]
      rfl
    refine tidy.replace detaches.stream? (fun _ impossible => nomatch impossible)
      (fun filter => ?_) (fun filter known => ?_) fun other filter away => ?_
    · rw [marks, if_pos rfl]
      exact nofun
    · rw [marks, if_pos rfl] at known
      cases known
    · rw [marks, if_neg away]
  | start found idle starts => exact tidy.start found idle starts
  | breakStart _ _ breaks => exact absurd calm breaks.not_calm
  | stop found _ stops => exact tidy.stop found stops
  | breakStop _ _ breaks => exact absurd calm breaks.not_calm

/-- **As long as no filter has panicked, every host is tidy.** -/
theorem History.tidy {code : UserCode σ} {history : History σ} (reachable : history.Reachable code)
    (calm : history.host.Calm) : Tidy history.host :=
  reachable.calm_induction (motive := fun _ host => Tidy host) tidy_onChannel
    (fun sound tidy => tidy.turn sound) calm

end Host

end StreamControl
