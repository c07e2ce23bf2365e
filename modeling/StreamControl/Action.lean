import StreamControl.Fault

/-!
# Actions

An action changes a state and ends in one of four ways.  It returns a value;
it is refused for a cause; user code panics, and the panic unwinds; or it never
gets to an end, since user code nests its calls deeper than a run allows or a
setter waits for itself.  Whatever the ending, the changes made so far stay:
nothing is undone.

An action goes on only after a return.  `Action.attempt` turns a refusal into
a value and `Action.contain` a panic; nothing turns exhaustion into a value,
so a run that is exhausted says nothing about what would have come next.
-/

set_option autoImplicit false

namespace StreamControl

/-- How an action ends. -/
inductive Ending (α : Type) where
  /-- With a value. -/
  | returned (value : α)
  /-- Refused, for a cause. -/
  | refused (fault : Fault)
  /-- With a panic of user code. -/
  | panicked (reason : String)
  /-- Not at all: calls are nested deeper than the run allows, or a setter waits for itself. -/
  | exhausted
  deriving DecidableEq, Inhabited

/-- A change of state with an ending. -/
def Action (σ α : Type) : Type := σ → Ending α × σ

namespace Action

variable {σ τ α β : Type}

/-! ## Sequencing -/

/-- Returns a value and changes nothing. -/
protected def pure (value : α) : Action σ α := fun state => (.returned value, state)

/-- Does one action and, if it returns, the next. -/
protected def bind (first : Action σ α) (next : α → Action σ β) : Action σ β := fun state =>
  match first state with
  | (.returned value, after) => next value after
  | (.refused fault, after) => (.refused fault, after)
  | (.panicked reason, after) => (.panicked reason, after)
  | (.exhausted, after) => (.exhausted, after)

instance : Monad (Action σ) where
  pure := Action.pure
  bind := Action.bind

theorem pure_def (value : α) : (pure value : Action σ α) = fun state => (.returned value, state) :=
  rfl

theorem bind_def (first : Action σ α) (next : α → Action σ β) :
    first >>= next = Action.bind first next := rfl

instance : LawfulMonad (Action σ) :=
  LawfulMonad.mk' (Action σ)
    (fun first => by
      funext state
      simp only [Functor.map, Action.bind, Function.comp, id]
      cases first state with
      | mk ending after => cases ending <;> rfl)
    (fun _ _ => rfl)
    (fun first second third => by
      funext state
      simp only [bind, Action.bind]
      cases first state with
      | mk ending after => cases ending <;> rfl)

theorem bind_of_returned {first : Action σ α} {next : α → Action σ β} {state after : σ} {value : α}
    (h : first state = (.returned value, after)) : (first >>= next) state = next value after := by
  simp only [bind_def, Action.bind, h]

/-- A sequence returns exactly when both parts do, one after the other. -/
theorem bind_eq_returned_iff {first : Action σ α} {next : α → Action σ β} {state final : σ}
    {result : β} :
    (first >>= next) state = (.returned result, final) ↔
      ∃ value between, first state = (.returned value, between) ∧
        next value between = (.returned result, final) := by
  constructor
  · intro h
    simp only [bind_def, Action.bind] at h
    split at h
    · exact ⟨_, _, ‹_›, h⟩
    all_goals simp at h
  · rintro ⟨value, between, hfirst, hnext⟩
    rw [bind_of_returned hfirst, hnext]

instance : MonadStateOf σ (Action σ) where
  get := fun state => (.returned state, state)
  set state := fun _ => (.returned (), state)
  modifyGet f := fun state => (.returned (f state).1, (f state).2)

/-! ## Ending otherwise -/

/-- Is refused. -/
def refuse (fault : Fault) : Action σ α := fun state => (.refused fault, state)

/-- Panics. -/
def panic (reason : String) : Action σ α := fun state => (.panicked reason, state)

/-- Is exhausted. -/
def exhaust : Action σ α := fun state => (.exhausted, state)

/-- Returns the value there is, or is refused. -/
def ofExcept : Except Fault α → Action σ α
  | .ok value => pure value
  | .error fault => refuse fault

/-- Turns a refusal into a value. -/
def attempt (action : Action σ α) : Action σ (Except Fault α) := fun state =>
  match action state with
  | (.returned value, after) => (.returned (.ok value), after)
  | (.refused fault, after) => (.returned (.error fault), after)
  | (.panicked reason, after) => (.panicked reason, after)
  | (.exhausted, after) => (.exhausted, after)

/-- Turns a panic into a value. -/
def contain (action : Action σ α) : Action σ (Except String α) := fun state =>
  match action state with
  | (.returned value, after) => (.returned (.ok value), after)
  | (.refused fault, after) => (.refused fault, after)
  | (.panicked reason, after) => (.returned (.error reason), after)
  | (.exhausted, after) => (.exhausted, after)

/-- Catching a refusal changes no state. -/
@[simp] theorem snd_attempt (action : Action σ α) (state : σ) :
    (action.attempt state).2 = (action state).2 := by
  unfold attempt
  cases action state with
  | mk ending after => cases ending <;> rfl

theorem attempt_ne_refused (action : Action σ α) (state : σ) (fault : Fault) :
    (action.attempt state).1 ≠ .refused fault := by
  unfold attempt
  cases action state with
  | mk ending after => cases ending <;> exact fun h => nomatch h

/-- Catching a panic changes no state. -/
@[simp] theorem snd_contain (action : Action σ α) (state : σ) :
    (action.contain state).2 = (action state).2 := by
  unfold contain
  cases action state with
  | mk ending after => cases ending <;> rfl

theorem contain_ne_panicked (action : Action σ α) (state : σ) (reason : String) :
    (action.contain state).1 ≠ .panicked reason := by
  unfold contain
  cases action state with
  | mk ending after => cases ending <;> exact fun h => nomatch h

/-! ## Parts of a state -/

/-- Does an action on a part of the state. -/
def within (read : σ → τ) (write : τ → σ → σ) (action : Action τ α) : Action σ α := fun state =>
  match action (read state) with
  | (ending, part) => (ending, write part state)

@[simp] theorem fst_within (read : σ → τ) (write : τ → σ → σ) (action : Action τ α) (state : σ) :
    (action.within read write state).1 = (action (read state)).1 := rfl

@[simp] theorem snd_within (read : σ → τ) (write : τ → σ → σ) (action : Action τ α) (state : σ) :
    (action.within read write state).2 = write (action (read state)).2 state := rfl

end Action

end StreamControl
