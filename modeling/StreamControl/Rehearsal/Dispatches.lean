import StreamControl.Rehearsal.Play

/-!
# Handing values to callbacks, without a host

A session with nothing in it, one reader of events, and values handed to
callbacks one after the other.
-/

set_option autoImplicit false

namespace StreamControl.Rehearsal

/-- What is written down of handing a value to a callback. -/
structure DispatchRecord where
  /-- What came of it; nothing if user code nested too deep. -/
  outcome : Option DispatchOutcome
  /-- The counts afterwards. -/
  tally : Tally
  /-- The events that were sent. -/
  events : List Event

/-- Hands values to callbacks in order and writes down what came of it. -/
def recordDispatches (code : UserCode Memory) (reader : ReaderId) :
    List (Callback × Delivery) → Session Memory → List DispatchRecord × Session Memory
  | [], session => ([], session)
  | (callback, delivery) :: rest, session =>
    let (ending, after) := Session.dispatch code.callees .direct callback delivery session
    let (events, channel) := after.channel.drain reader
    let outcome := match ending with
      | .returned outcome => some outcome
      | _ => none
    let (records, final) := recordDispatches code reader rest { after with channel }
    ({ outcome, tally := after.tally, events } :: records, final)

/-- Hands values to callbacks whose scripts are given, if there can be a channel
of the capacity; gives what was written down, and the counts at the end. -/
def dispatches (capacity : Nat) (scripts : List (String × List Rule))
    (deliveries : List (Callback × Delivery)) :
    Except CapacityProblem (List DispatchRecord × Tally) := do
  let memory : Memory := { callbacks := scripts.map fun entry => (entry.1, { rules := entry.2 }) }
  let (reader, channel) := (← Broadcast.create capacity).subscribe
  let (records, session) :=
    recordDispatches (userCode 1) reader deliveries { channel, memory }
  return (records, session.tally)

end StreamControl.Rehearsal
