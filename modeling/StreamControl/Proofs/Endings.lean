import StreamControl.Action

/-!
# What an action comes to

An action ends in one of four ways, and what is to be shown of it usually
differs with the ending.  `Action.Meets` states it from one state: one
property for a return, one for a refusal, one for a panic.  Nothing is asked
of an exhausted action, since nothing follows it.

The rules take an action apart.  `meets_bind` is the rule of sequences: what
the second action is to meet is what the first has to come to.
`Action.Keeps` is the special case of one property that holds before and
after, however the action ends, and says which endings there may be; it
composes without any further condition.
-/

set_option autoImplicit false

namespace StreamControl.Action

variable {σ τ α β : Type}

/-- Whether an action comes to what is asked of it, from a state. -/
def Meets (action : Action σ α) (state : σ) (returns : α → σ → Prop)
    (refuses : Fault → σ → Prop) (panics : String → σ → Prop) : Prop :=
  match action state with
  | (.returned value, after) => returns value after
  | (.refused fault, after) => refuses fault after
  | (.panicked reason, after) => panics reason after
  | (.exhausted, _) => True

/-! ## Weakening -/

variable {returns returns' : α → σ → Prop} {refuses refuses' : Fault → σ → Prop}
  {panics panics' : String → σ → Prop}

/-- What an action comes to may be weakened, ending by ending. -/
theorem Meets.mono {action : Action σ α} {state : σ}
    (meets : action.Meets state returns refuses panics)
    (returned : ∀ value after, returns value after → returns' value after)
    (refused : ∀ fault after, refuses fault after → refuses' fault after)
    (panicked : ∀ reason after, panics reason after → panics' reason after) :
    action.Meets state returns' refuses' panics' := by
  unfold Meets at meets ⊢
  split at meets
  · exact returned _ _ meets
  · exact refused _ _ meets
  · exact panicked _ _ meets
  · exact trivial

/-- Only what is asked of a return is weakened. -/
theorem Meets.imp {action : Action σ α} {state : σ}
    (meets : action.Meets state returns refuses panics)
    (returned : ∀ value after, returns value after → returns' value after) :
    action.Meets state returns' refuses panics :=
  meets.mono returned (fun _ _ h => h) (fun _ _ h => h)

theorem Meets.always {action : Action σ α} {state : σ}
    (meets : action.Meets state returns (fun _ _ => False) (fun _ _ => False))
    (returned : ∀ value after, returns value after → returns' value after) :
    action.Meets state returns' refuses panics :=
  meets.mono returned (fun _ _ h => h.elim) (fun _ _ h => h.elim)

theorem Meets.of_forall (action : Action σ α) (state : σ)
    (returned : ∀ value after, returns value after) (refused : ∀ fault after, refuses fault after)
    (panicked : ∀ reason after, panics reason after) :
    action.Meets state returns refuses panics := by
  unfold Meets
  split
  · exact returned _ _
  · exact refused _ _
  · exact panicked _ _
  · exact trivial

/-- What is asked of an action may be shown in two parts. -/
theorem Meets.and {action : Action σ α} {state : σ}
    (one : action.Meets state returns refuses panics)
    (two : action.Meets state returns' refuses' panics') :
    action.Meets state (fun value after => returns value after ∧ returns' value after)
      (fun fault after => refuses fault after ∧ refuses' fault after)
      (fun reason after => panics reason after ∧ panics' reason after) := by
  unfold Meets at one two ⊢
  split at one <;> rename_i run <;> rw [run] at two
  · exact ⟨one, two⟩
  · exact ⟨one, two⟩
  · exact ⟨one, two⟩
  · exact trivial

/-! ## Reading a run -/

/-- An action comes to what its run shows. -/
theorem meets_run (action : Action σ α) (state : σ) :
    action.Meets state (fun value after => action state = (.returned value, after))
      (fun fault after => action state = (.refused fault, after))
      (fun reason after => action state = (.panicked reason, after)) := by
  unfold Meets
  split <;> first | assumption | trivial

theorem Meets.of_returned {action : Action σ α} {state after : σ} {value : α}
    (meets : action.Meets state returns refuses panics)
    (run : action state = (.returned value, after)) : returns value after := by
  simpa only [Meets, run] using meets

theorem Meets.of_refused {action : Action σ α} {state after : σ} {fault : Fault}
    (meets : action.Meets state returns refuses panics)
    (run : action state = (.refused fault, after)) : refuses fault after := by
  simpa only [Meets, run] using meets

/-- A property of the state that every ending but exhaustion leads to. -/
theorem Meets.of_ne_exhausted {action : Action σ α} {state : σ} {P : σ → Prop}
    (meets : action.Meets state (fun _ => P) (fun _ => P) (fun _ => P))
    (ends : (action state).1 ≠ .exhausted) : P (action state).2 := by
  unfold Meets at meets
  split at meets
  · rename_i run
    simpa only [run] using meets
  · rename_i run
    simpa only [run] using meets
  · rename_i run
    simpa only [run] using meets
  · rename_i run
    exact absurd (congrArg Prod.fst run) ends

/-- An action that can only return or panic returns, if a panic would break what holds of the
state. -/
theorem Meets.exists_returned {action : Action σ α} {state : σ} {P : σ → Prop}
    (meets : action.Meets state returns (fun _ _ => False) (fun _ after => ¬ P after))
    (ends : (action state).1 ≠ .exhausted) (holds : P (action state).2) :
    ∃ value after, action state = (.returned value, after) ∧ returns value after := by
  unfold Meets at meets
  split at meets <;> rename_i run
  · exact ⟨_, _, run, meets⟩
  · exact meets.elim
  · rw [run] at holds
    exact absurd holds meets
  · exact absurd (congrArg Prod.fst run) ends

/-! ## Taking actions apart -/

@[simp] theorem meets_pure {value : α} {state : σ} :
    (pure value : Action σ α).Meets state returns refuses panics ↔ returns value state := Iff.rfl

@[simp] theorem meets_refuse {fault : Fault} {state : σ} :
    (refuse fault : Action σ α).Meets state returns refuses panics ↔ refuses fault state := Iff.rfl

@[simp] theorem meets_panic {reason : String} {state : σ} :
    (panic reason : Action σ α).Meets state returns refuses panics ↔ panics reason state := Iff.rfl

@[simp] theorem meets_exhaust {state : σ} :
    (exhaust : Action σ α).Meets state returns refuses panics := trivial

@[simp] theorem meets_get {state : σ} {returns : σ → σ → Prop} :
    (get : Action σ σ).Meets state returns refuses panics ↔ returns state state := Iff.rfl

@[simp] theorem meets_modify {change : σ → σ} {state : σ} {returns : Unit → σ → Prop} :
    (modify change : Action σ Unit).Meets state returns refuses panics ↔
      returns () (change state) := Iff.rfl

/-- A sequence comes to something when the first action comes to a state from
which the second does; other endings of the first are endings of the whole. -/
@[simp] theorem meets_bind {first : Action σ α} {next : α → Action σ β} {state : σ}
    {returns : β → σ → Prop} :
    (first >>= next).Meets state returns refuses panics ↔
      first.Meets state (fun value between => (next value).Meets between returns refuses panics)
        refuses panics := by
  simp only [Meets, bind_def, Action.bind]
  cases first state with
  | mk ending after => cases ending <;> rfl

@[simp] theorem meets_map {f : α → β} {action : Action σ α} {state : σ}
    {returns : β → σ → Prop} :
    (f <$> action).Meets state returns refuses panics ↔
      action.Meets state (fun value => returns (f value)) refuses panics := by
  rw [map_eq_pure_bind, meets_bind]
  exact Iff.rfl

@[simp] theorem meets_ofExcept {result : Except Fault α} {state : σ} :
    (ofExcept result : Action σ α).Meets state returns refuses panics ↔
      match result with
      | .ok value => returns value state
      | .error fault => refuses fault state := by
  cases result <;> exact Iff.rfl

@[simp] theorem meets_attempt {action : Action σ α} {state : σ}
    {returns : Except Fault α → σ → Prop} :
    action.attempt.Meets state returns refuses panics ↔
      action.Meets state (fun value => returns (.ok value)) (fun fault => returns (.error fault))
        panics := by
  simp only [Meets, attempt]
  cases action state with
  | mk ending after => cases ending <;> rfl

@[simp] theorem meets_contain {action : Action σ α} {state : σ}
    {returns : Except String α → σ → Prop} :
    action.contain.Meets state returns refuses panics ↔
      action.Meets state (fun value => returns (.ok value)) refuses
        (fun reason => returns (.error reason)) := by
  simp only [Meets, contain]
  cases action state with
  | mk ending after => cases ending <;> rfl

@[simp] theorem meets_within {read : σ → τ} {write : τ → σ → σ} {action : Action τ α} {state : σ} :
    (action.within read write).Meets state returns refuses panics ↔
      action.Meets (read state) (fun value part => returns value (write part state))
        (fun fault part => refuses fault (write part state))
        (fun reason part => panics reason (write part state)) := by
  simp only [Meets, within]
  cases action (read state) with
  | mk ending after => cases ending <;> rfl

/-! ## What is returned -/

/-- Whether what an action returns from a state, if it returns, is what is asked. -/
def Yields (action : Action σ α) (state : σ) (returns : α → σ → Prop) : Prop :=
  action.Meets state returns (fun _ _ => True) (fun _ _ => True)

theorem Meets.yields {action : Action σ α} {state : σ}
    (meets : action.Meets state returns refuses panics) : action.Yields state returns :=
  meets.mono (fun _ _ h => h) (fun _ _ _ => trivial) fun _ _ _ => trivial

theorem Yields.imp {action : Action σ α} {state : σ} (yields : action.Yields state returns)
    (returned : ∀ value after, returns value after → returns' value after) :
    action.Yields state returns' := Meets.imp yields returned

/-- What is returned may be asked more of, once it is known how an action ends. -/
theorem Meets.with {action : Action σ α} {state : σ}
    (meets : action.Meets state returns refuses panics) (yields : action.Yields state returns') :
    action.Meets state (fun value after => returns value after ∧ returns' value after) refuses
      panics :=
  (meets.and yields).mono (fun _ _ h => h) (fun _ _ h => h.1) fun _ _ h => h.1

@[simp] theorem yields_bind {first : Action σ α} {next : α → Action σ β} {state : σ}
    {returns : β → σ → Prop} :
    (first >>= next).Yields state returns ↔
      first.Yields state fun value between => (next value).Yields between returns := meets_bind

@[simp] theorem yields_pure {value : α} {state : σ} :
    (pure value : Action σ α).Yields state returns ↔ returns value state := Iff.rfl

@[simp] theorem yields_get {state : σ} {returns : σ → σ → Prop} :
    (get : Action σ σ).Yields state returns ↔ returns state state := Iff.rfl

@[simp] theorem yields_modify {change : σ → σ} {state : σ} {returns : Unit → σ → Prop} :
    (modify change : Action σ Unit).Yields state returns ↔ returns () (change state) := Iff.rfl

@[simp] theorem yields_within {read : σ → τ} {write : τ → σ → σ} {action : Action τ α} {state : σ} :
    (action.within read write).Yields state returns ↔
      action.Yields (read state) fun value part => returns value (write part state) := meets_within

/-! ## Keeping a property -/

/-- A property that holds before an action holds after it.  Of the endings
besides a return, only those that are allowed occur. -/
def Keeps (P : σ → Prop) (refusal panic : Prop) (action : Action σ α) : Prop :=
  ∀ state, P state → action.Meets state (fun _ => P) (fun _ after => refusal ∧ P after)
    (fun _ after => panic ∧ P after)

variable {P : σ → Prop} {refusal panic : Prop}

theorem keeps_pure (value : α) : Keeps P refusal panic (pure value : Action σ α) :=
  fun _ holds => holds

theorem keeps_refuse (fault : Fault) : Keeps P True panic (refuse fault : Action σ α) :=
  fun _ holds => ⟨trivial, holds⟩

theorem keeps_panic (reason : String) : Keeps P refusal True (Action.panic reason : Action σ α) :=
  fun _ holds => ⟨trivial, holds⟩

theorem keeps_exhaust : Keeps P refusal panic (exhaust : Action σ α) := fun _ _ => trivial

theorem keeps_get : Keeps P refusal panic (get : Action σ σ) := fun _ holds => holds

theorem keeps_modify {change : σ → σ} (step : ∀ state, P state → P (change state)) :
    Keeps P refusal panic (modify change : Action σ Unit) := step

theorem keeps_ofExcept (result : Except Fault α) :
    Keeps P True panic (ofExcept result : Action σ α) := by
  cases result with
  | ok value => exact keeps_pure value
  | error fault => exact keeps_refuse fault

theorem Keeps.mono {refusal' panic' : Prop} {action : Action σ α}
    (keeps : Keeps P refusal panic action) (refused : refusal → refusal')
    (panicked : panic → panic') : Keeps P refusal' panic' action :=
  fun state holds => (keeps state holds).mono (fun _ _ h => h) (fun _ _ h => ⟨refused h.1, h.2⟩)
    (fun _ _ h => ⟨panicked h.1, h.2⟩)

theorem Keeps.bind {first : Action σ α} {next : α → Action σ β}
    (one : Keeps P refusal panic first) (two : ∀ value, Keeps P refusal panic (next value)) :
    Keeps P refusal panic (first >>= next) := by
  intro state holds
  exact meets_bind.mpr ((one state holds).imp fun value after => two value after)

/-- An action that keeps a property and is neither refused nor panics. -/
theorem Keeps.always {action : Action σ α} {state : σ} (keeps : Keeps P False False action)
    (holds : P state) : action.Meets state (fun _ => P) refuses panics :=
  (keeps state holds).mono (fun _ _ h => h) (fun _ _ h => h.1.elim) fun _ _ h => h.1.elim

/-- Going on after an action that keeps a property, when what follows need not keep
it. -/
theorem Keeps.next {first : Action σ α} {next : α → Action σ β} {returns : β → σ → Prop}
    (one : Keeps P refusal panic first) {state : σ} (holds : P state)
    (refused : ∀ fault after, refusal ∧ P after → refuses fault after)
    (panicked : ∀ reason after, panic ∧ P after → panics reason after)
    (further : ∀ value after, P after → (next value).Meets after returns refuses panics) :
    (first >>= next).Meets state returns refuses panics :=
  meets_bind.mpr ((one state holds).mono further refused panicked)

/-- The same after one that is neither refused nor panics. -/
theorem Keeps.onward {first : Action σ α} {next : α → Action σ β} {returns : β → σ → Prop}
    (one : Keeps P False False first) {state : σ} (holds : P state)
    (further : ∀ value after, P after → (next value).Meets after returns refuses panics) :
    (first >>= next).Meets state returns refuses panics :=
  meets_bind.mpr ((one.always holds).imp further)

/-- A refusal that is turned into a value is none. -/
theorem Keeps.attempt {refusal' : Prop} {action : Action σ α}
    (keeps : Keeps P refusal panic action) : Keeps P refusal' panic action.attempt :=
  fun state holds => meets_attempt.mpr
    ((keeps state holds).mono (fun _ _ h => h) (fun _ _ h => h.2) (fun _ _ h => h))

/-- A panic that is turned into a value is none. -/
theorem Keeps.contain {panic' : Prop} {action : Action σ α}
    (keeps : Keeps P refusal panic action) : Keeps P refusal panic' action.contain :=
  fun state holds => meets_contain.mpr
    ((keeps state holds).mono (fun _ _ h => h) (fun _ _ h => h) (fun _ _ h => h.2))

theorem Keeps.and {Q : σ → Prop} {action : Action σ α} (one : Keeps P refusal panic action)
    (other : Keeps Q refusal panic action) :
    Keeps (fun state => P state ∧ Q state) refusal panic action :=
  fun state holds => ((one state holds.1).and (other state holds.2)).mono (fun _ _ both => both)
    (fun _ _ both => ⟨both.1.1, both.1.2, both.2.2⟩) fun _ _ both => ⟨both.1.1, both.1.2, both.2.2⟩

/-- How an action ends and what state it leaves may be told separately. -/
theorem Keeps.of_endings {action : Action σ α} (endings : Keeps (fun _ => True) refusal panic action)
    {state : σ} (holds : (action state).1 ≠ .exhausted → P (action state).2) :
    action.Meets state (fun _ => P) (fun _ after => refusal ∧ P after)
      (fun _ after => panic ∧ P after) := by
  have ending := endings state trivial
  unfold Meets at ending ⊢
  split at ending <;> rename_i run <;> rw [run] at holds
  · exact holds fun impossible => by cases impossible
  · exact ⟨ending.1, holds fun impossible => by cases impossible⟩
  · exact ⟨ending.1, holds fun impossible => by cases impossible⟩
  · exact trivial

theorem Keeps.yields {action : Action σ α} (keeps : Keeps P refusal panic action) {state : σ}
    (holds : P state) : action.Yields state fun _ => P := (keeps state holds).yields

/-- Going on after an action that keeps a property, when only what is returned matters. -/
theorem Keeps.next_yields {first : Action σ α} {next : α → Action σ β} {returns : β → σ → Prop}
    (one : Keeps P refusal panic first) {state : σ} (holds : P state)
    (further : ∀ value after, P after → (next value).Yields after returns) :
    (first >>= next).Yields state returns :=
  yields_bind.mpr ((one.yields holds).imp further)

/-- A property that an action keeps holds after it, unless it is exhausted. -/
theorem Keeps.of_ne_exhausted {action : Action σ α} (keeps : Keeps P refusal panic action)
    {state : σ} (holds : P state) (ends : (action state).1 ≠ .exhausted) : P (action state).2 :=
  ((keeps state holds).mono (fun _ _ h => h) (fun _ _ h => h.2) (fun _ _ h => h.2)).of_ne_exhausted
    ends

end StreamControl.Action
