import StreamControl.Hook
import StreamControl.Phase

/-!
# Events

What a host announces: every step of a controller or a stream, and every
diagnostic about a hook, a callback or a query.
-/

set_option autoImplicit false

namespace StreamControl

/-- An announcement of a host. -/
inductive Event where
  /-- A controller was constructed and registered. -/
  | controllerLoaded (name : String)
  /-- A controller was destroyed and removed. -/
  | controllerUnloaded (name : String)
  /-- A controller's construct hook failed, and nothing was registered. -/
  | constructFailed (name : String) (code : Int32)
  /-- A controller took a step, as a whole or with one stream. -/
  | lifecycleChanged (controller : String) (stream : Option StreamId) (origin target : Phase)
  /-- A hook reported a failure. -/
  | hookFailed (controller : String) (hook : Hook) (stream : Option StreamId)
      (filter : Option String) (code : Int32)
  /-- A controller held a filter back. -/
  | startVetoed (controller : String) (stream : StreamId) (filter : String)
  /-- A filter started. -/
  | filterStarted (stream : StreamId) (filter : String)
  /-- A filter's start failed. -/
  | filterFailed (stream : StreamId) (filter reason : String)
  /-- A filter stopped. -/
  | filterStopped (stream : StreamId) (filter : String)
  /-- A stream finished starting. -/
  | streamStarted (stream : StreamId)
  /-- A stream finished stopping. -/
  | streamStopped (stream : StreamId)
  /-- A query named something that does not exist. -/
  | queryRejected (stream : StreamId) (filter parameter reason : String)
  /-- A callback was not called because it takes the wrong number of inputs. -/
  | signatureMismatch (stream : StreamId) (filter parameter : String) (expected found : Nat)
  /-- A callback returned a code other than zero. -/
  | callbackFailed (stream : StreamId) (filter parameter : String) (code : Int32)
  /-- A callback panicked. -/
  | callbackPanicked (stream : StreamId) (filter parameter : String)
  deriving DecidableEq, Inhabited

namespace Event

/-- The wording of an announcement. -/
def text : Event → String
  | controllerLoaded name => "Controller " ++ name ++ " loaded"
  | controllerUnloaded name => "Controller " ++ name ++ " unloaded"
  | constructFailed name code =>
    "Controller " ++ name ++ " construct() failed (" ++ toString code.toInt ++ ")"
  | lifecycleChanged controller (some stream) origin target =>
    "Controller " ++ controller ++ " on " ++ stream.text ++ ": " ++ origin.name ++ " -> " ++
      target.name
  | lifecycleChanged controller none origin target =>
    "Controller " ++ controller ++ ": " ++ origin.name ++ " -> " ++ target.name
  | hookFailed controller hook _ (some filter) code =>
    "Controller " ++ controller ++ " " ++ hook.name ++ "() failed for " ++ filter ++ " (" ++
      toString code.toInt ++ ")"
  | hookFailed controller hook _ none code =>
    "Controller " ++ controller ++ " " ++ hook.name ++ "() failed (" ++ toString code.toInt ++ ")"
  | startVetoed controller stream filter =>
    "Controller " ++ controller ++ " vetoed start of " ++ stream.text ++ ":" ++ filter
  | filterStarted stream filter => "Filter " ++ stream.text ++ ":" ++ filter ++ " started"
  | filterFailed stream filter reason =>
    "Filter " ++ stream.text ++ ":" ++ filter ++ " failed: " ++ reason
  | filterStopped stream filter => "Filter " ++ stream.text ++ ":" ++ filter ++ " stopped"
  | streamStarted stream => "Stream " ++ stream.text ++ " started"
  | streamStopped stream => "Stream " ++ stream.text ++ " stopped"
  | queryRejected stream filter parameter reason =>
    "Query " ++ stream.text ++ ":" ++ filter ++ ":" ++ parameter ++ " rejected: " ++ reason
  | signatureMismatch _ filter parameter expected found =>
    "Callback for " ++ filter ++ ":" ++ parameter ++ " takes " ++ toString found ++
      " inputs, not " ++ toString expected
  | callbackFailed _ filter parameter code =>
    "Callback for " ++ filter ++ ":" ++ parameter ++ " returned " ++ toString code.toInt
  | callbackPanicked _ filter parameter =>
    "Callback for " ++ filter ++ ":" ++ parameter ++ " panicked"

end Event

end StreamControl
