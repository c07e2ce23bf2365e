import StreamControl.Session.Dispatch

/-!
# Publishing values

A new value of a parameter is stored first and then handed to the callbacks
that were subscribed at that moment, in the order they subscribed.  When all
have had it, those whose callback returned a code other than zero, or
panicked, are unsubscribed.

A request to change a parameter is decided by its owner's setter, and what
the setter gives is published.  The value shown to the setter as the current
one is that from before it is asked; a setter may use the session like any
other user code, and what it gives is checked in the session that it leaves.
-/

set_option autoImplicit false

namespace StreamControl.Session

variable {σ : Type}

/-- Hands a value to the callbacks of some subscriptions, in order, and gives
what came of each. -/
def dispatchAll (callees : Callees σ) (delivery : Delivery) :
    List Subscription → Action (Session σ) (List (Nat × DispatchOutcome))
  | [] => pure []
  | subscription :: rest => do
    let outcome ← dispatch callees (.subscription subscription.id) subscription.callback
      { delivery with context := subscription.context }
    return (subscription.id, outcome) :: (← dispatchAll callees delivery rest)

/-- Stores a value and hands it to the subscribers; gives the number of
callbacks that ran to their end. -/
def publish (callees : Callees σ) (stream : StreamId) (filter name : String) (value : Value) :
    Action (Session σ) Nat := do
  let subscribers ← changeTree (·.store stream filter name value)
  record (.pushing stream filter name)
  let outcomes ← dispatchAll callees { value, stream, filter, parameter := name, context := {} }
    subscribers
  let finished := (outcomes.filter (·.2.endsSubscription)).map (·.1)
  plant ((← get).tree.unsubscribe stream filter name finished)
  record (.pushed stream filter name)
  return outcomes.countP (·.2.wasInvoked)

/-- Publishes what a setter has answered, if it is a value; gives whether it is. -/
def adopt (callees : Callees σ) (stream : StreamId) (filter name : String) :
    Option Value → Action (Session σ) Bool
  | some value => do
    let _ ← publish callees stream filter name value
    return true
  | none => return false

/-- Asks the owner of a parameter to change it; gives whether a new value was
published. -/
def requestChange (callees : Callees σ) (stream : StreamId) (filter name : String)
    (type : ValueType) (value : Value) : Action (Session σ) Bool := do
  let parameter ← readTree (·.parameterAt stream filter name)
  if parameter.type.accepts type then
    match parameter.setter with
    | none =>
      log .debug "parameter has no setter; request ignored"
      return false
    | some setter =>
      let answer ← callees.setter ⟨stream, filter, name⟩ setter value parameter.value
      adopt callees stream filter name answer
  else Action.refuse (.typeMismatch filter name parameter.type type)

end StreamControl.Session
