import StreamControl.Host.Basic

/-!
# Calling hooks and filter functions

A hook that panics is taken to have failed, and the host goes on.  A filter
function that panics unwinds out of the host's operation, with nothing
undone.
-/

set_option autoImplicit false

namespace StreamControl

/-- The code a hook that panicked is reported with. -/
def hookPanicCode : Int32 := -1

namespace Host

variable {σ α : Type}

/-! ## Hooks -/

/-- Reports the failure of a hook. -/
def reportHookFailure (controller : String) (hook : Hook) (target : Option (StreamId × String))
    (code : Int32) : Action (Session σ) Unit := do
  Session.count .hookFailures controller hook.name
  Session.log .warn "controller hook reported failure"
  Session.emit (.hookFailed controller hook (target.map (·.1)) (target.map (·.2)) code)

/-- Runs a hook and gives its result, or nothing if it panicked. -/
def guarded (code : UserCode σ) (serial : Nat) (hook : Hook) (target : Option (StreamId × String))
    (succeeds : α → Bool) (program : Program σ α) : Action (Session σ) (Option α) := do
  match ← Session.call (.hook serial hook target) succeeds (code.run program) with
  | .ok result => return some result
  | .error _ =>
    Session.log .error "controller hook panicked"
    return none

/-- Runs a hook that answers with a status. -/
def statusOf (code : UserCode σ) (serial : Nat) (hook : Hook)
    (target : Option (StreamId × String)) (program : Program σ HookStatus) :
    Action (Session σ) HookStatus := do
  return (← guarded code serial hook target HookStatus.isOk program).getD (.failed hookPanicCode)

/-- What a hook is told about a filter. -/
def hookArguments (stream : StreamId) (slot : FilterSlot) : HookArguments :=
  { stream, filter := slot.name, inputs := slot.inputs, outputs := slot.outputs }

/-- Calls the postStart, preStop or postStop hook of a controller for some
filters, in order; gives the number of failures. -/
def callFilterHook (code : UserCode σ) (spans : SpanConfig) (controller : LoadedController)
    (hook : Hook) (stream : StreamId) : List FilterSlot → Action (Session σ) Nat
  | [] => pure 0
  | slot :: rest => do
    Session.log .debug "calling hook"
    Session.openSpan (spans.hookSpan? controller.name hook.name)
    let target := some (stream, slot.name)
    let status ← statusOf code controller.serial hook target
      (code.filterHook controller.module.code hook (hookArguments stream slot))
    let failures ← match status with
      | .failed failure => do
        reportHookFailure controller.name hook target failure
        pure 1
      | .ok => pure 0
    return failures + (← callFilterHook code spans controller hook stream rest)

/-- Calls the postStart, preStop or postStop hook of a controller for some
filters, if the controller fills it. -/
def callFilterHook? (code : UserCode σ) (spans : SpanConfig) (controller : LoadedController)
    (hook : Hook) (stream : StreamId) (slots : List FilterSlot) : Action (Session σ) Nat :=
  if controller.module.fills hook then callFilterHook code spans controller hook stream slots
  else pure 0

/-- Goes through controllers in order: each has one of its hooks called for
some filters and then takes a step with the stream.  Gives the number of
hooks that failed. -/
def callFilterHooks (code : UserCode σ) (hook : Hook) (target : Phase) (stream : StreamId)
    (slots : List FilterSlot) : List LoadedController → Action (Host σ) Nat
  | [] => pure 0
  | controller :: rest => do
    let failures ← onSession
      (callFilterHook? code (← get).config.spans controller hook stream slots)
    advance controller.serial (some stream) target
    return failures + (← callFilterHooks code hook target stream slots rest)

/-! ## Filter functions -/

/-- What a filter function runs. -/
def filterProgram (code : UserCode σ) (reference : Option CodeRef) (function : FilterFunction)
    (context : FilterContext) : Program σ (Except Fault Unit) :=
  match reference with
  | some reference => code.filter reference function context
  | none => .done (.ok ())

/-- Whether there was no refusal. -/
def unrefused : Except Fault Unit → Bool
  | .ok () => true
  | .error _ => false

/-- Calls a function of a filter. -/
def callFilter (code : UserCode σ) (function : FilterFunction) (stream : StreamId)
    (slot : FilterSlot) : Action (Session σ) (Except Fault Unit) := do
  let program := filterProgram code slot.code function { stream, filter := slot.name }
  match ← Session.call (.filter function stream slot.name) unrefused (code.run program) with
  | .ok result => return result
  | .error reason => Action.panic reason

end Host

end StreamControl
