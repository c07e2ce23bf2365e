/-!
# Controller phases

A controller is constructed once, goes round a cycle with every stream that
starts and stops, and is destroyed once.

```text
unconstructed → constructed → preStarted → started → preStopped → stopped
```

From `stopped` the cycle may begin again at `preStarted`.  A controller that
is not inside a cycle (`unconstructed`, `constructed` or `stopped`) may be
destroyed.  `Phase.CanBecome` is the whole relation; `Phase.canBecome`
decides it.
-/

set_option autoImplicit false

namespace StreamControl

/-- Where a controller stands, as a whole or with one stream. -/
inductive Phase where
  /-- Made, but its construct hook has not succeeded. -/
  | unconstructed
  /-- Its construct hook has succeeded. -/
  | constructed
  /-- Its preStart hook has run for the filters of a stream. -/
  | preStarted
  /-- The filters have started and its postStart hook has run. -/
  | started
  /-- Its preStop hook has run. -/
  | preStopped
  /-- The filters have stopped and its postStop hook has run. -/
  | stopped
  /-- Its destroy hook has run. -/
  | destroyed
  deriving DecidableEq, Repr, Inhabited

namespace Phase

/-- The name of a phase. -/
def name : Phase → String
  | .unconstructed => "Unconstructed"
  | .constructed => "Constructed"
  | .preStarted => "PreStarted"
  | .started => "Started"
  | .preStopped => "PreStopped"
  | .stopped => "Stopped"
  | .destroyed => "Destroyed"

/-- The steps a controller may take. -/
inductive CanBecome : Phase → Phase → Prop where
  /-- Construction. -/
  | construct : CanBecome .unconstructed .constructed
  /-- The first cycle begins. -/
  | preStart : CanBecome .constructed .preStarted
  /-- A further cycle begins. -/
  | restart : CanBecome .stopped .preStarted
  /-- The filters have started. -/
  | start : CanBecome .preStarted .started
  /-- The end of a cycle begins. -/
  | preStop : CanBecome .started .preStopped
  /-- The filters have stopped. -/
  | stop : CanBecome .preStopped .stopped
  /-- Given up before construction. -/
  | abandon : CanBecome .unconstructed .destroyed
  /-- Destroyed without ever having seen a stream. -/
  | destroyUnused : CanBecome .constructed .destroyed
  /-- Destroyed after a cycle. -/
  | destroy : CanBecome .stopped .destroyed

/-- Decides `CanBecome`. -/
def canBecome : Phase → Phase → Bool
  | .unconstructed, .constructed => true
  | .unconstructed, .destroyed => true
  | .constructed, .preStarted => true
  | .constructed, .destroyed => true
  | .preStarted, .started => true
  | .started, .preStopped => true
  | .preStopped, .stopped => true
  | .stopped, .preStarted => true
  | .stopped, .destroyed => true
  | _, _ => false

theorem canBecome_iff {a b : Phase} : a.canBecome b = true ↔ CanBecome a b := by
  constructor
  · intro h
    cases a <;> cases b <;> first | constructor | cases h
  · intro h
    cases h <;> rfl

instance (a b : Phase) : Decidable (CanBecome a b) :=
  decidable_of_iff _ canBecome_iff

/-- Whether a cycle has begun and not ended. -/
def isActive : Phase → Bool
  | .preStarted | .started | .preStopped => true
  | _ => false

/-- Whether nothing can follow. -/
def isTerminal : Phase → Bool
  | .destroyed => true
  | _ => false

/-- A terminal phase is one with no step out of it. -/
theorem isTerminal_iff {a : Phase} : a.isTerminal = true ↔ ∀ b, ¬ CanBecome a b := by
  cases a <;> simp only [isTerminal, Bool.false_eq_true, false_iff, true_iff, Classical.not_forall,
    Classical.not_not]
  · exact ⟨_, .construct⟩
  · exact ⟨_, .preStart⟩
  · exact ⟨_, .start⟩
  · exact ⟨_, .preStop⟩
  · exact ⟨_, .stop⟩
  · exact ⟨_, .restart⟩
  · intro b h
    cases h

/-- A controller inside a cycle cannot be destroyed. -/
theorem not_canBecome_destroyed_of_isActive {a : Phase} (h : a.isActive = true) :
    ¬ CanBecome a .destroyed := by
  intro step
  cases step <;> simp [isActive] at h

end Phase

end StreamControl
