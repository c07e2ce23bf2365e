import StreamControl.Proofs.UserCodeFrame

/-!
# Where runs are exhausted

A run is exhausted when callbacks and setters nest deeper than it allows or a
setter waits for itself, and nothing else exhausts it.  Handing a value to a
callback is exhausted exactly if the callback is (`Session.exhausts_dispatch`);
so a push is exhausted only with the callback of one of its subscribers
(`Session.exhausts_publish`).

An action that can neither be refused nor panic therefore returns whenever the
callbacks that it calls do (`Action.Meets.exhausts_or`).
-/

set_option autoImplicit false

namespace StreamControl

namespace Action

variable {σ α β : Type}

/-- Whether an action is exhausted, from a state. -/
def Exhausts (action : Action σ α) (state : σ) : Prop := (action state).1 = .exhausted

variable {first : Action σ α} {next : α → Action σ β} {action : Action σ α} {state : σ}

theorem exhausts_bind : (first >>= next).Exhausts state ↔ first.Exhausts state ∨
    ∃ value between, first state = (.returned value, between) ∧ (next value).Exhausts between := by
  simp only [Exhausts, bind_def, Action.bind]
  cases first state with
  | mk ending after =>
    cases ending with
    | returned value =>
      constructor
      · exact fun later => .inr ⟨value, after, rfl, later⟩
      · rintro (⟨⟨⟩⟩ | ⟨_, _, ⟨⟩, later⟩)
        exact later
    | exhausted => exact ⟨fun _ => .inl rfl, fun _ => rfl⟩
    | refused | panicked =>
      constructor
      · rintro ⟨⟩
      · rintro (⟨⟨⟩⟩ | ⟨_, _, ⟨⟩, _⟩)

theorem exhausts_get_bind {next : σ → Action σ β} :
    ((get : Action σ σ) >>= next).Exhausts state ↔ (next state).Exhausts state := Iff.rfl

theorem exhausts_modify_bind {change : σ → σ} {next : Unit → Action σ β} :
    ((modify change : Action σ Unit) >>= next).Exhausts state ↔
      (next ()).Exhausts (change state) := Iff.rfl

/-- If what follows is never exhausted, only the first action can be. -/
theorem exhausts_bind_iff (never : ∀ value state, ¬(next value).Exhausts state) :
    (first >>= next).Exhausts state ↔ first.Exhausts state :=
  exhausts_bind.trans (or_iff_left fun ⟨value, between, _, later⟩ => never value between later)

theorem not_exhausts_pure (value : α) (state : σ) :
    ¬(pure value : Action σ α).Exhausts state := nofun

theorem not_exhausts_get (state : σ) : ¬(get : Action σ σ).Exhausts state := nofun

theorem not_exhausts_modify (change : σ → σ) (state : σ) :
    ¬(modify change : Action σ Unit).Exhausts state := nofun

theorem not_exhausts_bind (never : ∀ state, ¬first.Exhausts state)
    (further : ∀ value state, ¬(next value).Exhausts state) (state : σ) :
    ¬(first >>= next).Exhausts state := fun exhausts =>
  never state ((exhausts_bind_iff further).mp exhausts)

theorem exhausts_contain : action.contain.Exhausts state ↔ action.Exhausts state := by
  simp only [Exhausts, contain]
  cases action state with
  | mk ending after => cases ending <;> simp

/-- What is neither refused nor panics is exhausted or returns. -/
theorem Meets.exhausts_or {returns : α → σ → Prop}
    (meets : action.Meets state returns (fun _ _ => False) (fun _ _ => False)) :
    action.Exhausts state ∨
      ∃ value after, action state = (.returned value, after) ∧ returns value after := by
  unfold Meets at meets
  split at meets
  · rename_i run
    exact .inr ⟨_, _, run, meets⟩
  · exact meets.elim
  · exact meets.elim
  · rename_i run
    exact .inl (congrArg Prod.fst run)

end Action

namespace Session

open StreamControl.Action

variable {σ : Type} {callees : Callees σ} {session : Session σ}

/-! ## Handing values to callbacks -/

theorem not_exhausts_record (entry : Entry) (session : Session σ) :
    ¬(record entry).Exhausts session := nofun

theorem not_exhausts_emit (event : Event) : ∀ session : Session σ, ¬(emit event).Exhausts session :=
  not_exhausts_bind (not_exhausts_modify _) fun _ => not_exhausts_record _

theorem not_exhausts_report (delivery : Delivery) (outcome : DispatchOutcome) :
    ∀ session : Session σ, ¬(report delivery outcome).Exhausts session := by
  refine not_exhausts_bind (not_exhausts_modify _) fun _ => ?_
  cases outcome with
  | invoked code =>
    refine not_exhausts_bind (not_exhausts_record _) fun _ => ?_
    split
    · exact not_exhausts_bind (not_exhausts_record _) fun _ => not_exhausts_emit _
    · exact not_exhausts_pure ()
  | mismatched found =>
    exact not_exhausts_bind (not_exhausts_record _) fun _ =>
      not_exhausts_bind (not_exhausts_record _) fun _ => not_exhausts_emit _
  | panicked => exact not_exhausts_bind (not_exhausts_record _) fun _ => not_exhausts_emit _

/-- A callback that exhausts the run can be called at all, and is called. -/
theorem exhausts_dispatch {cause : Cause} {callback : Callback} {delivery : Delivery} :
    (dispatch callees cause callback delivery).Exhausts session ↔
      callback.isWellFormed = true ∧
        (callees.callback callback.code delivery).Exhausts { session with
          journal := session.journal.push (.entered (.callback cause callback delivery)) } := by
  rw [dispatch, exhausts_bind_iff fun outcome => not_exhausts_bind (not_exhausts_report _ _)
    fun _ => not_exhausts_pure _, deliver]
  split
  · rename_i wellFormed
    rw [exhausts_bind_iff fun result => by cases result <;> exact not_exhausts_pure _,
      Session.call, Session.record, exhausts_modify_bind,
      exhausts_bind_iff fun _ => not_exhausts_bind (not_exhausts_record _) fun _ =>
        not_exhausts_pure _, exhausts_contain]
    exact (and_iff_right wellFormed).symm
  · rename_i malformed
    constructor
    · exact fun exhausts => (not_exhausts_pure _ _ exhausts).elim
    · exact fun both => (malformed both.1).elim

/-- Whether a callback can be called for a delivery, and exhausts the run then. -/
def Exhausting (callees : Callees σ) (callback : Callback) (delivery : Delivery) : Prop :=
  callback.isWellFormed = true ∧
    ∃ session, (callees.callback callback.code delivery).Exhausts session

theorem Exhausting.of_dispatch {cause : Cause} {callback : Callback} {delivery : Delivery}
    (exhausts : (dispatch callees cause callback delivery).Exhausts session) :
    Exhausting callees callback delivery :=
  ⟨(exhausts_dispatch.mp exhausts).1, _, (exhausts_dispatch.mp exhausts).2⟩

/-- Subscribers are called one after the other, and one of them has exhausted the run. -/
theorem exhausts_dispatchAll {delivery : Delivery} {subscribers : List Subscription}
    (exhausts : (dispatchAll callees delivery subscribers).Exhausts session) :
    ∃ subscription ∈ subscribers, Exhausting callees subscription.callback
      { delivery with context := subscription.context } := by
  induction subscribers generalizing session with
  | nil => exact (not_exhausts_pure _ _ exhausts).elim
  | cons subscription rest ih =>
    rcases exhausts_bind.mp exhausts with now | ⟨outcome, between, -, later⟩
    · exact ⟨subscription, List.mem_cons_self, .of_dispatch now⟩
    · obtain ⟨other, among, exhausting⟩ :=
        ih ((exhausts_bind_iff fun _ => not_exhausts_pure _).mp later)
      exact ⟨other, List.mem_cons_of_mem _ among, exhausting⟩

/-- What follows a change of the tree is exhausted after a change that is made. -/
theorem exhausts_changeTree_bind {α β : Type}
    {change : ParameterTree → Except Fault (α × ParameterTree)} {next : α → Action (Session σ) β} :
    (changeTree change >>= next).Exhausts session ↔
      ∃ result tree, change session.tree = .ok (result, tree) ∧
        (next result).Exhausts { session with
          tree, journal := session.journal.push (.grown tree) } := by
  rw [changeTree]
  simp only [bind_assoc]
  rw [exhausts_get_bind]
  cases change session.tree with
  | error fault =>
    constructor
    · rintro ⟨⟩
    · rintro ⟨_, _, ⟨⟩, _⟩
  | ok result =>
    constructor
    · exact fun exhausts => ⟨result.1, result.2, rfl, exhausts⟩
    · rintro ⟨_, _, ⟨⟩, exhausts⟩
      exact exhausts

/-- A push is exhausted with the callback of one of those that it calls. -/
theorem exhausts_publish {stream : StreamId} {filter name : String} {value : Value}
    (exhausts : (publish callees stream filter name value).Exhausts session) :
    ∃ subscribers tree, session.tree.store stream filter name value = .ok (subscribers, tree) ∧
      ∃ subscription ∈ subscribers, Exhausting callees subscription.callback
        { value, stream, filter, parameter := name, context := subscription.context } := by
  rw [publish, exhausts_changeTree_bind] at exhausts
  obtain ⟨subscribers, tree, stored, exhausts⟩ := exhausts
  rw [Session.record, exhausts_modify_bind] at exhausts
  refine ⟨subscribers, tree, stored,
    exhausts_dispatchAll ((exhausts_bind_iff fun outcomes => ?_).mp exhausts)⟩
  exact not_exhausts_bind not_exhausts_get fun _ => not_exhausts_bind (not_exhausts_modify _)
    fun _ => not_exhausts_bind (not_exhausts_modify _) fun _ => not_exhausts_pure _

end Session

end StreamControl
