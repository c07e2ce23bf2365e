import StreamControl.Session.Basic

/-!
# Handing values to callbacks

A callback that does not take five inputs is left out.  One that does is
called, and a panic goes no further.  Either way one outcome is counted, and
every outcome but a return of zero is announced.

A callback may use the session while it is being called, so everything here
takes the means of calling user code as an argument (`Callees`).
-/

set_option autoImplicit false

namespace StreamControl

/-- The means of calling user code from within a session. -/
structure Callees (σ : Type) where
  /-- Calls a callback. -/
  callback : CodeRef → Delivery → Action (Session σ) Int32
  /-- Asks the setter of a parameter for the new value, from the requested value and the
  current one. -/
  setter : Address → CodeRef → Value → Value → Action (Session σ) (Option Value)

namespace Session

variable {σ : Type}

/-- Counts and announces what came of handing a value to a callback. -/
def report (delivery : Delivery) (outcome : DispatchOutcome) : Action (Session σ) Unit := do
  addToTally outcome
  match outcome with
  | .mismatched found =>
    count .signatureMismatches delivery.filter delivery.parameter
    log .warn "parameter callback has the wrong number of inputs; not calling it"
    emit (.signatureMismatch delivery.stream delivery.filter delivery.parameter callbackArity found)
  | .invoked code =>
    count .callbacksInvoked delivery.filter delivery.parameter
    if code ≠ 0 then
      log .debug "parameter callback returned nonzero"
      emit (.callbackFailed delivery.stream delivery.filter delivery.parameter code)
  | .panicked =>
    log .error "parameter callback panicked"
    emit (.callbackPanicked delivery.stream delivery.filter delivery.parameter)

/-- Calls a callback, if it can be called at all, and gives what came of it. -/
def deliver (callees : Callees σ) (cause : Cause) (callback : Callback) (delivery : Delivery) :
    Action (Session σ) DispatchOutcome := do
  if callback.isWellFormed then
    match ← call (.callback cause callback delivery) (· = 0)
        (callees.callback callback.code delivery) with
    | .ok code => return .invoked code
    | .error _ => return .panicked
  else
    record (.skipped cause callback delivery)
    return .mismatched callback.arity

/-- Hands a value to a callback, once. -/
def dispatch (callees : Callees σ) (cause : Cause) (callback : Callback) (delivery : Delivery) :
    Action (Session σ) DispatchOutcome := do
  let outcome ← deliver callees cause callback delivery
  report delivery outcome
  return outcome

end Session

end StreamControl
