import StreamControl.ControllerName
import StreamControl.Host.Hooks

/-!
# Loading and unloading controllers

A controller is registered only if its construct hook succeeds.  It is
unloaded only when it is in no cycle with any stream; its destroy hook is
called, and whatever it answers, the controller is gone.
-/

set_option autoImplicit false

namespace StreamControl.Host

variable {σ : Type}

/-! ## Loading -/

/-- Takes the next controller serial number. -/
def takeSerial : Action (Host σ) Nat := do
  let serial := (← get).nextSerial
  modify fun host => { host with nextSerial := serial + 1 }
  return serial

/-- Calls a controller's construct hook, if it fills it. -/
def construct (code : UserCode σ) (spans : SpanConfig) (controller : LoadedController)
    (arguments : List String) : Action (Session σ) HookStatus := do
  Session.log .debug "calling construct()"
  Session.openSpan (spans.hookSpan? controller.name Hook.construct.name)
  if controller.module.fills .construct then
    statusOf code controller.serial .construct none
      (code.construct controller.module.code arguments)
  else return .ok

/-- Loads a controller and gives the name it is registered under: the
requested one, or one made from the path. -/
def load (code : UserCode σ) (path : String) (requested : Option String)
    (module : ControllerModule) (arguments : List String) : Action (Host σ) String := do
  let host ← get
  let name ← Action.ofExcept <| ControllerName.resolve path requested host.config.maxNameLength
    fun name => (host.controller? name).isSome
  let controller : LoadedController := { serial := ← takeSerial, name, path, module }
  match ← onSession (construct code host.config.spans controller arguments) with
  | .failed failure =>
    onSession (Session.count .hookFailures name Hook.construct.name)
    onSession (Session.log .error "construct() failed; controller not loaded")
    onSession (Session.emit (.constructFailed name failure))
    Action.refuse (.constructFailed name failure)
  | .ok =>
    let (origin, constructed) ← Action.ofExcept (controller.advance none .constructed)
    onSession (announceStep constructed none origin .constructed)
    modify fun host => { host with controllers := host.controllers ++ [constructed] }
    onSession (Session.log .info "controller loaded")
    onSession (Session.emit (.controllerLoaded name))
    return name

/-! ## Unloading -/

/-- The loaded controller of a name, or a refusal. -/
def loaded (name : String) : Action (Host σ) LoadedController := do
  match (← get).controller? name with
  | some controller => return controller
  | none => Action.refuse (.unknownController name)

/-- Calls a controller's destroy hook, if it fills it. -/
def destroy (code : UserCode σ) (spans : SpanConfig) (controller : LoadedController) :
    Action (Session σ) HookStatus := do
  Session.log .debug "calling destroy()"
  Session.openSpan (spans.hookSpan? controller.name Hook.destroy.name)
  if controller.module.fills .destroy then
    statusOf code controller.serial .destroy none (code.destroy controller.module.code)
  else return .ok

/-- Unloads a controller that is in no cycle. -/
def unload (code : UserCode σ) (name : String) : Action (Host σ) Unit := do
  let controller ← loaded name
  match controller.activeStreams with
  | stream :: _ => Action.refuse (.streamRunning stream)
  | [] =>
    match ← onSession (destroy code (← get).config.spans controller) with
    | .failed failure => onSession (reportHookFailure name .destroy none failure)
    | .ok => pure ()
    advance controller.serial none .destroyed
    modify fun host =>
      { host with controllers := host.controllers.filter (·.serial ≠ controller.serial) }
    onSession (Session.log .info "controller unloaded")
    onSession (Session.emit (.controllerUnloaded name))

/-! ## Help -/

/-- What a controller says about itself, if it is loaded, fills the hook and
does not panic. -/
def help (code : UserCode σ) (name : String) : Action (Host σ) (Option String) := do
  match (← get).controller? name with
  | none => return none
  | some controller =>
    if controller.module.fills .help then
      onSession (guarded code controller.serial .help none (fun _ => true)
        (code.help controller.module.code))
    else return none

end StreamControl.Host
