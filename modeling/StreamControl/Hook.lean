import StreamControl.CodeRef
import StreamControl.StreamId
import StreamControl.Text.Quoted

/-!
# Controller modules and their hooks

A controller module fills some of seven hooks.  A host calls a filled hook
at its moment and takes an empty one for a success.  Of the filled hooks,
`construct` can refuse the module, `preStart` can hold a filter back, and the
others can only report that something went wrong.
-/

set_option autoImplicit false

namespace StreamControl

/-! ## Hooks -/

/-- The moments at which a controller module can act. -/
inductive Hook where
  /-- The controller is being loaded. -/
  | construct
  /-- Somebody asks what the controller does. -/
  | help
  /-- A filter is about to start. -/
  | preStart
  /-- A filter has started. -/
  | postStart
  /-- A filter is about to stop. -/
  | preStop
  /-- A filter has stopped. -/
  | postStop
  /-- The controller is being unloaded. -/
  | destroy
  deriving DecidableEq, Repr, Inhabited

namespace Hook

/-- Every hook, in the order a controller meets them. -/
def all : List Hook := [construct, help, preStart, postStart, preStop, postStop, destroy]

/-- The name of a hook. -/
def name : Hook → String
  | construct => "construct"
  | help => "help"
  | preStart => "preStart"
  | postStart => "postStart"
  | preStop => "preStop"
  | postStop => "postStop"
  | destroy => "destroy"

theorem mem_all (hook : Hook) : hook ∈ all := by
  cases hook <;> decide

end Hook

/-! ## What hooks answer -/

/-- What every hook but `preStart` and `help` answers. -/
inductive HookStatus where
  /-- Success. -/
  | ok
  /-- Failure, with a code. -/
  | failed (code : Int32)
  deriving DecidableEq, Inhabited

namespace HookStatus

/-- Reads a status code: zero is success. -/
def ofCode (code : Int32) : HookStatus := if code = 0 then ok else failed code

/-- The code of a status. -/
def code : HookStatus → Int32
  | ok => 0
  | failed code => code

/-- Whether the hook succeeded. -/
def isOk : HookStatus → Bool
  | ok => true
  | failed _ => false

/-- How a status is shown. -/
def describe : HookStatus → String
  | ok => "Ok"
  | failed code => "Failed(" ++ toString code.toInt ++ ")"

end HookStatus

/-- What `preStart` answers. -/
inductive StartDecision where
  /-- The filter may start. -/
  | proceed
  /-- The filter is held back. -/
  | veto
  deriving DecidableEq, Inhabited

namespace StartDecision

/-- Reads a code: zero holds the filter back. -/
def ofCode (code : Int32) : StartDecision := if code = 0 then veto else proceed

/-- Reads a flag: true lets the filter start. -/
def ofBool (go : Bool) : StartDecision := if go then proceed else veto

/-- How a decision is shown. -/
def describe : StartDecision → String
  | proceed => "Proceed"
  | veto => "Veto"

end StartDecision

/-- What a hook that is called for a filter is told. -/
structure HookArguments where
  /-- The stream that starts or stops. -/
  stream : StreamId
  /-- The filter the hook is called for. -/
  filter : String
  /-- How many links lead into the filter. -/
  inputs : Nat
  /-- How many links lead out of the filter. -/
  outputs : Nat
  deriving DecidableEq, Inhabited

/-! ## Modules -/

/-- A controller module: user code and the hooks it fills. -/
structure ControllerModule where
  /-- The code behind the hooks. -/
  code : CodeRef
  /-- The hooks it fills. -/
  hooks : List Hook
  deriving DecidableEq, Inhabited

namespace ControllerModule

/-- Whether a module fills a hook. -/
def fills (module : ControllerModule) (hook : Hook) : Bool := hook ∈ module.hooks

/-- The names of the filled hooks, in the order a controller meets them. -/
def hookNames (module : ControllerModule) : List String :=
  (Hook.all.filter module.fills).map Hook.name

/-- How a module is shown. -/
def describe (module : ControllerModule) : String :=
  "ControllerModule \x7b hooks: " ++ Text.quoteList module.hookNames ++ " \x7d"

end ControllerModule

end StreamControl
