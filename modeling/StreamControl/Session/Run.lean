import StreamControl.Session.Publish
import StreamControl.Session.Query

/-!
# Running user code

`Session.serve` answers one request, and `Program.run` runs a program by
answering its requests one after the other.  Answering may call further user
code; `UserCode.callees` ties the knot, going one level deeper with each
callback and each setter, as deep as the run allows.

The setter of a parameter is locked while it is being asked.  A setter that
brings about a request to change its own parameter waits for that lock, which
it holds itself, and so neither request ever returns.
-/

set_option autoImplicit false

namespace StreamControl

variable {σ α : Type}

/-- Answers a request. -/
def Session.serve (callees : Callees σ) :
    (request : Request) → Action (Session σ) request.Answer
  | .query query => Session.query callees query
  | .push owner name value =>
    (Session.publish callees owner.stream owner.filter name value).attempt
  | .create owner name type initial setter =>
    Action.attempt do
      Session.changeTree fun tree =>
        ((), ·) <$> tree.create owner.stream owner.filter name type initial setter
      Session.log .debug "parameter created"
  | .set stream filter name type value =>
    (Session.requestChange callees stream filter name type value).attempt
  | .subscribe stream filter name type callback context flags =>
    (Session.changeTree
      (·.subscribe stream filter name type callback context flags)).attempt
  | .value stream filter name =>
    (Session.readTree fun tree => (·.value) <$> tree.parameterAt stream filter name).attempt
  | .declaredType stream filter name =>
    (Session.readTree fun tree => (·.type) <$> tree.parameterAt stream filter name).attempt
  | .started stream filter =>
    (Session.readTree fun tree => (·.started) <$> tree.filterAt stream filter).attempt
  | .subscriptionCount stream filter name =>
    (Session.readTree fun tree =>
      (·.subscriptions.length) <$> tree.parameterAt stream filter name).attempt
  | .select selector => return (← get).tree.select selector
  | .describe => return (← get).tree.describe

/-- Runs a program. -/
def Program.run (callees : Callees σ) : Program σ α → Action (Session σ) α
  | .done result => pure result
  | .panic reason => Action.panic reason
  | .inspect next => do
    let session ← get
    (next session.memory).run callees
  | .remember memory next => do
    modify fun session => { session with memory }
    next.run callees
  | .ask request next => do
    let answer ← Session.serve callees request
    (next answer).run callees

/-- The means of calling user code when calls may nest to a depth.  The setters of some
parameters are being asked meanwhile, and cannot be asked again. -/
def UserCode.calleesTo (code : UserCode σ) : Nat → List Address → Callees σ
  | 0, _ => { callback := fun _ _ => Action.exhaust, setter := fun _ _ _ _ => Action.exhaust }
  | depth + 1, busy =>
    { callback := fun reference delivery =>
        (code.callback reference delivery).run (code.calleesTo depth busy)
      setter := fun address reference requested current =>
        if address ∈ busy then Action.exhaust
        else
          (code.setter reference requested current).run (code.calleesTo depth (address :: busy)) }

/-- The means of calling user code at the outermost level. -/
def UserCode.callees (code : UserCode σ) : Callees σ := code.calleesTo code.nesting []

/-- Runs a program at the outermost level. -/
def UserCode.run (code : UserCode σ) (program : Program σ α) : Action (Session σ) α :=
  program.run code.callees

end StreamControl
