import StreamControl.Proofs.UserCodeFrame

/-!
# Taking the queue from its head

A drain may be written in another way: take what is first in the queue, look at it, and
go on until the queue is empty; then put back what goes on waiting (`Session.popping`).
Callbacks meanwhile add to the end of the very queue that is being taken, so it is not
clear that this ever ends, nor that it is two passes over two lists.

It is, wherever nothing that joins the queue meanwhile can be answered at once
(`Session.popping_eq_drain`).  The reason is that user code cannot tell what is in the
queue before the place where it adds to it: every action that it can bring about comes to
the same with more at the head of the queue (`Action.Commutes`,
`UserCode.callees_commute`).
-/

set_option autoImplicit false

namespace StreamControl

namespace Action

variable {σ α β : Type} {shift : σ → σ}

/-- An action comes to the same from a shifted state, but for the shift. -/
def Commutes (shift : σ → σ) (action : Action σ α) : Prop :=
  ∀ state, action (shift state) = ((action state).1, shift (action state).2)

theorem commutes_pure (value : α) : Commutes shift (pure value : Action σ α) := fun _ => rfl

theorem commutes_refuse (fault : Fault) : Commutes shift (refuse fault : Action σ α) := fun _ => rfl

theorem commutes_panic (reason : String) : Commutes shift (Action.panic reason : Action σ α) :=
  fun _ => rfl

theorem commutes_exhaust : Commutes shift (exhaust : Action σ α) := fun _ => rfl

theorem commutes_modify {change : σ → σ}
    (apart : ∀ state, change (shift state) = shift (change state)) :
    Commutes shift (modify change : Action σ Unit) := fun state =>
  congrArg (Prod.mk (Ending.returned ())) (apart state)

theorem commutes_ofExcept (result : Except Fault α) :
    Commutes shift (Action.ofExcept result : Action σ α) := by
  cases result <;> exact fun _ => rfl

theorem Commutes.bind {first : Action σ α} {next : α → Action σ β} (one : Commutes shift first)
    (two : ∀ value, Commutes shift (next value)) : Commutes shift (first >>= next) := by
  intro state
  simp only [bind_def, Action.bind, one state]
  cases first state with
  | mk ending after =>
    cases ending with
    | returned value => exact two value after
    | refused | panicked | exhausted => rfl

/-- What follows depends on how an action ends, and where. -/
theorem bind_congr_run {first first' : Action σ α} {state state' : σ}
    (same : first state = first' state') (next : α → Action σ β) :
    (first >>= next) state = (first' >>= next) state' := by
  simp only [bind_def, Action.bind, same]

theorem get_bind_run (next : σ → Action σ β) (state : σ) :
    ((get : Action σ σ) >>= next) state = next state state := rfl

/-- What is read of the state must not be shifted. -/
theorem commutes_get {next : σ → Action σ β} (same : ∀ state, next (shift state) = next state)
    (commutes : ∀ state, Commutes shift (next state)) :
    Commutes shift ((get : Action σ σ) >>= next) := fun state =>
  (congrFun (same state) (shift state)).trans (commutes state state)

theorem Commutes.attempt {action : Action σ α} (commutes : Commutes shift action) :
    Commutes shift action.attempt := by
  intro state
  simp only [Action.attempt, commutes state]
  cases action state with
  | mk ending after => cases ending <;> rfl

theorem Commutes.contain {action : Action σ α} (commutes : Commutes shift action) :
    Commutes shift action.contain := by
  intro state
  simp only [Action.contain, commutes state]
  cases action state with
  | mk ending after => cases ending <;> rfl

end Action

namespace Session

open StreamControl.Action

variable {σ α : Type}

/-! ## What is at the head of the queue -/

/-- A session with more at the head of its queue. -/
def behind (head : List (Nat × Query)) (session : Session σ) : Session σ :=
  { session with waiting := head ++ session.waiting }

section Behind

variable {head : List (Nat × Query)}

theorem commutes_record (entry : Entry) :
    Commutes (behind head) (record entry : Action (Session σ) Unit) :=
  commutes_modify fun _ => rfl

theorem commutes_emit (event : Event) :
    Commutes (behind head) (emit event : Action (Session σ) Unit) :=
  Commutes.bind (commutes_modify fun _ => rfl) fun _ => commutes_record _

theorem commutes_changeTree (change : ParameterTree → Except Fault (α × ParameterTree)) :
    Commutes (behind head) (changeTree change : Action (Session σ) α) :=
  commutes_get (fun _ => rfl) fun _ => (commutes_ofExcept _).bind fun _ =>
    Commutes.bind (commutes_modify fun _ => rfl) fun _ => commutes_pure _

theorem commutes_readTree (read : ParameterTree → Except Fault α) :
    Commutes (behind head) (readTree read : Action (Session σ) α) :=
  commutes_get (fun _ => rfl) fun _ => commutes_ofExcept _

theorem commutes_claim (ticket : Nat) :
    Commutes (behind head) (claim ticket : Action (Session σ) Bool) := by
  refine commutes_get (fun _ => rfl) fun session => ?_
  split
  · exact commutes_pure _
  · exact Commutes.bind (commutes_modify fun _ => rfl) fun _ => commutes_pure _

theorem commutes_report (delivery : Delivery) (outcome : DispatchOutcome) :
    Commutes (behind head) (report delivery outcome : Action (Session σ) Unit) := by
  refine Commutes.bind (commutes_modify fun _ => rfl) fun _ => ?_
  cases outcome with
  | invoked code =>
    refine (commutes_record _).bind fun _ => ?_
    split
    · exact (commutes_record _).bind fun _ => commutes_emit _
    · exact commutes_pure _
  | mismatched found =>
    exact (commutes_record _).bind fun _ => (commutes_record _).bind fun _ => commutes_emit _
  | panicked => exact (commutes_record _).bind fun _ => commutes_emit _

section Callees

variable {callees : Callees σ}
  (callbacks : ∀ reference delivery, Commutes (behind head) (callees.callback reference delivery))
include callbacks

theorem commutes_dispatch (cause : Cause) (callback : Callback) (delivery : Delivery) :
    Commutes (behind head) (dispatch callees cause callback delivery) := by
  refine Commutes.bind ?_ fun outcome => (commutes_report _ _).bind fun _ => commutes_pure _
  rw [deliver]
  split
  · refine ((commutes_record _).bind fun _ => ((callbacks _ _).contain.bind fun result =>
      (commutes_record _).bind fun _ => commutes_pure _)).bind fun result => ?_
    cases result <;> exact commutes_pure _
  · exact (commutes_record _).bind fun _ => commutes_pure _

theorem commutes_dispatchAll (delivery : Delivery) :
    ∀ subscriptions, Commutes (behind head) (dispatchAll callees delivery subscriptions)
  | [] => commutes_pure _
  | _ :: rest => (commutes_dispatch callbacks _ _ _).bind fun _ =>
      (commutes_dispatchAll delivery rest).bind fun _ => commutes_pure _

theorem commutes_publish (stream : StreamId) (filter name : String) (value : Value) :
    Commutes (behind head) (publish callees stream filter name value) := by
  refine (commutes_changeTree _).bind fun subscribers => (commutes_record _).bind fun _ =>
    (commutes_dispatchAll callbacks _ subscribers).bind fun outcomes => ?_
  exact commutes_get (fun _ => rfl) fun _ => Commutes.bind (commutes_modify fun _ => rfl) fun _ =>
    (commutes_record _).bind fun _ => commutes_pure _

/-- A query joins the end of the queue, whatever is at its head. -/
theorem commutes_query (query : Query) :
    Commutes (behind head) (Session.query callees query) := by
  have recheck (ticket : Nat) : Commutes (behind head) (recheck callees ticket query) := by
    refine commutes_get (fun _ => rfl) fun session => ?_
    split
    · exact commutes_pure _
    · split
      · refine (commutes_claim ticket).bind fun claimed => ?_
        split
        · exact (commutes_dispatch callbacks _ _ _).bind fun _ => commutes_record _
        · exact commutes_pure _
      · exact commutes_pure _
  refine commutes_get (fun _ => rfl) fun session => ?_
  split
  · exact (commutes_record _).bind fun _ => (commutes_record _).bind fun _ =>
      (commutes_emit _).bind fun _ => commutes_pure _
  · refine (commutes_record _).bind fun _ => Commutes.bind ?_ fun ticket => ?_
    · exact commutes_get (fun _ => rfl) fun _ =>
        Commutes.bind (commutes_modify fun _ => rfl) fun _ =>
          (commutes_record _).bind fun _ => commutes_pure _
    · split
      · exact (commutes_dispatch callbacks _ _ _).bind fun _ => (commutes_record _).bind fun _ =>
          commutes_pure _
      · refine Commutes.bind (commutes_get (fun _ => rfl) fun session => ?_) fun _ =>
          commutes_pure _
        split
        · refine Commutes.bind (commutes_modify fun session => ?_) fun _ =>
            (commutes_record _).bind fun _ => recheck ticket
          simp only [behind, List.append_assoc]
        · exact commutes_record _

variable (setters : ∀ address reference requested current,
  Commutes (behind head) (callees.setter address reference requested current))
include setters

theorem commutes_requestChange (stream : StreamId) (filter name : String) (type : ValueType)
    (value : Value) :
    Commutes (behind head) (requestChange callees stream filter name type value) := by
  refine (commutes_readTree _).bind fun parameter => ?_
  split
  · split
    · exact (commutes_record _).bind fun _ => commutes_pure _
    · refine (setters _ _ _ _).bind fun answer => ?_
      cases answer with
      | some new => exact (commutes_publish callbacks _ _ _ new).bind fun _ => commutes_pure _
      | none => exact commutes_pure _
  · exact commutes_refuse _

theorem commutes_serve (request : Request) : Commutes (behind head) (serve callees request) := by
  cases request with
  | query query => exact commutes_query callbacks query
  | push owner name value => exact (commutes_publish callbacks _ _ _ _).attempt
  | create owner name type initial setter =>
    exact ((commutes_changeTree _).bind fun _ => commutes_record _).attempt
  | set => exact (commutes_requestChange callbacks setters _ _ _ _ _).attempt
  | subscribe => exact (commutes_changeTree _).attempt
  | value | declaredType | started | subscriptionCount => exact (commutes_readTree _).attempt
  | select | describe => exact commutes_get (fun _ => rfl) fun _ => commutes_pure _

theorem commutes_run (program : Program σ α) : Commutes (behind head) (program.run callees) := by
  induction program with
  | done => exact commutes_pure _
  | panic => exact commutes_panic _
  | inspect next ih => exact commutes_get (fun _ => rfl) fun session => ih session.memory
  | remember memory next ih => exact Commutes.bind (commutes_modify fun _ => rfl) fun _ => ih
  | ask request next ih => exact (commutes_serve callbacks setters request).bind ih

end Callees

end Behind

end Session

/-- **User code cannot tell what is at the head of the queue**, however deep callbacks and
setters nest. -/
theorem UserCode.callees_commute {σ : Type} (code : UserCode σ) (head : List (Nat × Query))
    (depth : Nat) (busy : List Address) :
    (code.calleesTo depth busy).All (Action.Commutes (Session.behind head)) :=
  code.all_calleesTo (Action.commutes_exhaust)
    (fun _ _ all _ _ => Session.commutes_run all.callback all.setter _)
    (fun _ _ all _ _ _ => Session.commutes_run all.callback all.setter _) depth busy

namespace Session

open StreamControl.Action

variable {σ : Type} {callees : Callees σ}

/-! ## One query after the other -/

theorem commutes_sweep {head : List (Nat × Query)}
    (callbacks : ∀ reference delivery,
      Commutes (behind head) (callees.callback reference delivery)) :
    ∀ queries, Commutes (behind head) (sweep callees queries)
  | [] => commutes_pure _
  | (ticket, query) :: rest => by
    have further := commutes_sweep callbacks rest
    refine commutes_get (fun _ => rfl) fun session => ?_
    split
    · exact further
    refine commutes_get (fun _ => rfl) fun session => ?_
    split
    · exact (commutes_record _).bind fun _ => further
    split
    · refine (commutes_claim ticket).bind fun claimed => ?_
      split
      · refine (commutes_dispatch callbacks _ _ _).bind fun outcome => ?_
        split
        · exact (commutes_record _).bind fun _ => further.bind fun _ => commutes_pure _
        · exact further.bind fun _ => commutes_pure _
      · exact further
    · exact further.bind fun _ => commutes_pure _

/-- What two passes come to, taken together. -/
def joint (first second : List (Nat × Query) × Nat) : List (Nat × Query) × Nat :=
  (first.1 ++ second.1, first.2 + second.2)

theorem joint_assoc (first second third : List (Nat × Query) × Nat) :
    joint (joint first second) third = joint first (joint second third) := by
  simp only [joint, List.append_assoc, Nat.add_assoc]

/-- A pass over some queries is a pass over the first and then over the others. -/
theorem sweep_cons (item : Nat × Query) (rest : List (Nat × Query)) :
    sweep callees (item :: rest) = do
      let first ← sweep callees [item]
      let others ← sweep callees rest
      return joint first others := by
  obtain ⟨ticket, query⟩ := item
  funext session
  have whole : (sweep callees rest) = do
      let others ← sweep callees rest
      return joint ([], 0) others := by
    simp [joint]
  rw [sweep, sweep]
  simp only [bind_assoc]
  rw [get_bind_run, get_bind_run]
  by_cases claimed : ticket ∈ session.claimed
  · rw [if_pos claimed, if_pos claimed, sweep, pure_bind, ← whole]
  rw [if_neg claimed, if_neg claimed]
  simp only [bind_assoc]
  rw [get_bind_run, get_bind_run]
  cases located : session.tree.locate query.stream query.filter query.parameter with
  | error fault =>
    dsimp only
    rw [bind_assoc, sweep, pure_bind, ← whole]
  | ok found =>
    dsimp only
    refine congrFun ?_ session
    by_cases started : found.1.started = true
    · rw [if_pos started, if_pos started, bind_assoc]
      refine bind_congr fun free => ?_
      cases free with
      | false => simp only [Bool.false_eq_true, if_false, sweep, pure_bind, ← whole]
      | true =>
        simp only [if_true, bind_assoc]
        refine bind_congr fun outcome => ?_
        split <;>
          simp only [sweep, joint, bind_assoc, pure_bind, List.nil_append, Nat.zero_add,
            Nat.add_comm 1]
    · rw [if_neg started, if_neg started]
      simp only [sweep, joint, pure_bind, List.singleton_append, Nat.zero_add]
      rfl

/-- Takes the query at the head of the queue. -/
def pop : Action (Session σ) (Option (Nat × Query)) := do
  match (← get).waiting with
  | [] => pure none
  | first :: rest =>
    modify fun session => { session with waiting := rest }
    return some first

/-- Takes queries from the head of the queue, as long as there are any, and looks at each;
gives the ones that go on waiting and how many were answered.  The number says how many
may be taken. -/
def popAll (callees : Callees σ) : Nat → Action (Session σ) (List (Nat × Query) × Nat)
  | 0 => Action.exhaust
  | fuel + 1 => do
    match ← pop with
    | none => return ([], 0)
    | some item =>
      let first ← sweep callees [item]
      let others ← popAll callees fuel
      return joint first others

/-- A drain that empties the queue from its head, also of what joins it meanwhile, and then
puts back what goes on waiting. -/
def popping (callees : Callees σ) (fuel : Nat) : Action (Session σ) Nat := do
  let (still, answered) ← popAll callees fuel
  modify fun session => { session with waiting := session.waiting ++ still }
  return answered

/-! ## Both drains -/

/-- A drain looks through what waits, and then through what has joined it. -/
theorem drain_run (session : Session σ) : drain callees session = ((do
      let first ← sweep callees session.waiting
      let second ← sweep callees (← takeWaiting)
      modify fun session => { session with waiting := first.1 ++ second.1 ++ session.waiting }
      return first.2 + second.2 : Action (Session σ) Nat)) { session with waiting := [] } := rfl

/-- A drain whose second pass leaves everything as it is. -/
theorem drain_of_sweep {session between : Session σ} {first : List (Nat × Query) × Nat}
    (swept : sweep callees session.waiting { session with waiting := [] } =
      (.returned first, between))
    (idle : sweep callees between.waiting { between with waiting := [] } =
      (.returned (between.waiting, 0), { between with waiting := [] })) :
    drain callees session =
      (.returned first.2, { between with waiting := first.1 ++ between.waiting }) := by
  have retaken : (takeWaiting : Action (Session σ) _) between =
      (.returned between.waiting, { between with waiting := [] }) := rfl
  rw [drain_run, bind_of_returned swept, bind_of_returned retaken, bind_of_returned idle]
  refine congrArg (Prod.mk _) (congrArg (fun waiting => { between with waiting }) ?_)
  exact List.append_nil _

section Popping

variable (callbacks : ∀ head reference delivery,
  Commutes (behind head) (callees.callback reference delivery))
include callbacks

/-- Queries at the head of the queue are looked at as by a pass that has taken them out. -/
theorem popAll_of_sweep {queries : List (Nat × Query)} {session between : Session σ}
    {first : List (Nat × Query) × Nat}
    (swept : sweep callees queries session = (.returned first, between)) (fuel : Nat) :
    popAll callees (queries.length + fuel) (session.behind queries) =
      (do return joint first (← popAll callees fuel)) between := by
  induction queries generalizing session first with
  | nil =>
    cases swept
    simp [joint, behind]
  | cons item rest ih =>
    rw [sweep_cons] at swept
    obtain ⟨one, middle, now, later⟩ := bind_eq_returned_iff.mp swept
    obtain ⟨others, final, later, both⟩ := bind_eq_returned_iff.mp later
    cases both
    have popped : popAll callees (rest.length + fuel + 1) (session.behind (item :: rest)) =
        (do
          let first ← sweep callees [item]
          let others ← popAll callees (rest.length + fuel)
          return joint first others) (session.behind rest) := rfl
    have turn : sweep callees [item] (session.behind rest) =
        (.returned one, middle.behind rest) := by
      rw [commutes_sweep (callbacks rest) [item] session, now]
    rw [List.length_cons, Nat.add_right_comm, popped, bind_of_returned turn,
      bind_congr_run (ih later), bind_assoc]
    simp only [pure_bind, joint_assoc]

/-- **Taking queries from the head of the queue comes to the same as two passes**, if what joins
the queue in the first is left alone by the second. -/
theorem popping_eq_drain {session between : Session σ} {first : List (Nat × Query) × Nat}
    (swept : sweep callees session.waiting { session with waiting := [] } =
      (.returned first, between))
    (idle : sweep callees between.waiting { between with waiting := [] } =
      (.returned (between.waiting, 0), { between with waiting := [] })) (more : Nat) :
    popping callees (session.waiting.length + (between.waiting.length + (1 + more))) session =
      drain callees session := by
  -- The queue that is taken from its head is the first list, then what has joined it, then empty.
  have firstly := popAll_of_sweep callbacks swept (between.waiting.length + (1 + more))
  have secondly := popAll_of_sweep callbacks idle (1 + more)
  have emptied : popAll callees (1 + more) { between with waiting := [] } =
      (.returned ([], 0), { between with waiting := [] }) := by
    rw [Nat.add_comm]
    rfl
  have all : popAll callees (session.waiting.length + (between.waiting.length + (1 + more)))
      session =
        (.returned (first.1 ++ between.waiting, first.2), { between with waiting := [] }) := by
    have whole : { session with waiting := [] }.behind session.waiting = session := by
      simp only [behind, List.append_nil]
    have joined : { between with waiting := [] }.behind between.waiting = between := by
      simp only [behind, List.append_nil]
    rw [whole] at firstly
    rw [joined] at secondly
    rw [firstly, bind_congr_run secondly, bind_assoc, bind_of_returned emptied]
    change (Ending.returned (joint first (joint (between.waiting, 0) ([], 0))), _) = _
    rw [joint, joint, List.append_nil, Nat.add_zero, Nat.add_zero]
  rw [drain_of_sweep swept idle, popping, bind_of_returned all]
  refine congrArg (Prod.mk _) (congrArg (fun waiting => { between with waiting }) ?_)
  exact List.nil_append _

end Popping

end Session

end StreamControl
