import StreamControl.Hook
import StreamControl.Journal
import StreamControl.ParameterTree

/-!
# User code

What hooks, callbacks, filter functions and setters may do.  A piece of user
code is a `Program`: it ends with a result or with a panic, reads and changes
the memory that all user code shares, and makes requests of the session it
runs in.  A request is answered before the program goes on, and answering it
may run other user code.

A filter's own requests (`Request.push`, `Request.create`) carry a
`FilterContext`, which a filter is handed by the host and may keep for ever.

`UserCode` gives the programs behind the references that a host holds, and
says how deep callbacks and setters may nest in a run.
-/

set_option autoImplicit false

namespace StreamControl

/-! ## Requests -/

/-- What a filter is handed to reach its own parameters. -/
structure FilterContext where
  /-- The stream the filter was attached with. -/
  stream : StreamId
  /-- The filter's name. -/
  filter : String
  deriving DecidableEq, Inhabited

/-- How a context is shown. -/
def FilterContext.describe (context : FilterContext) : String :=
  "FilterContext \x7b stream: " ++ context.stream.describe ++ ", name: " ++
    Text.quote context.filter ++ " \x7d"

/-- Something user code asks of its session. -/
inductive Request where
  /-- Hand the value of a parameter to a callback, now or once its filter has
  started. -/
  | query (query : Query)
  /-- Store and announce a value of a parameter of the filter's own. -/
  | push (owner : FilterContext) (name : String) (value : Value)
  /-- Make a parameter of the filter's own. -/
  | create (owner : FilterContext) (name : String) (type : ValueType) (initial : Value)
      (setter : Option CodeRef)
  /-- Ask the owner of a parameter to change it. -/
  | set (stream : StreamId) (filter name : String) (type : ValueType) (value : Value)
  /-- Hand the coming values of one parameter, or of all, to a callback. -/
  | subscribe (stream : StreamId) (filter : String) (name : Option String) (type : ValueType)
      (callback : Callback) (context : UserContext) (flags : SubscribeFlags)
  /-- The value of a parameter. -/
  | value (stream : StreamId) (filter name : String)
  /-- The declared type of a parameter. -/
  | declaredType (stream : StreamId) (filter name : String)
  /-- Whether a filter is started. -/
  | started (stream : StreamId) (filter : String)
  /-- How many subscriptions a parameter has. -/
  | subscriptionCount (stream : StreamId) (filter name : String)
  /-- The parameters that are meant, as they are now. -/
  | select (selector : Selector)
  /-- How the parameter tree is shown. -/
  | describe

/-- What a request is answered with. -/
def Request.Answer : Request → Type
  | .query _ => Except QueryFault Unit
  | .push _ _ _ => Except Fault Nat
  | .create _ _ _ _ _ => Except Fault Unit
  | .set _ _ _ _ _ => Except Fault Bool
  | .subscribe _ _ _ _ _ _ _ => Except Fault Nat
  | .value _ _ _ => Except Fault Value
  | .declaredType _ _ _ => Except Fault ValueType
  | .started _ _ => Except Fault Bool
  | .subscriptionCount _ _ _ => Except Fault Nat
  | .select _ => List ParameterInfo
  | .describe => String

/-! ## Programs -/

/-- A piece of user code with a memory of type `σ` and a result of type `α`. -/
inductive Program (σ α : Type) : Type where
  /-- Ends with a result. -/
  | done (result : α)
  /-- Panics. -/
  | panic (reason : String)
  /-- Reads the memory. -/
  | inspect (next : σ → Program σ α)
  /-- Changes the memory. -/
  | remember (memory : σ) (next : Program σ α)
  /-- Makes a request and goes on with its answer. -/
  | ask (request : Request) (next : request.Answer → Program σ α)

namespace Program

variable {σ τ α β : Type}

/-- Goes on with another program after a result. -/
protected def bind : Program σ α → (α → Program σ β) → Program σ β
  | done result, next => next result
  | panic reason, _ => panic reason
  | inspect read, next => inspect fun memory => (read memory).bind next
  | remember memory rest, next => remember memory (rest.bind next)
  | ask request rest, next => ask request fun answer => (rest answer).bind next

instance : Monad (Program σ) where
  pure := done
  bind := Program.bind

instance : LawfulMonad (Program σ) :=
  LawfulMonad.mk' (Program σ)
    (fun program => by
      simp only [Functor.map]
      induction program with
      | done => rfl
      | panic => rfl
      | inspect read ih => exact congrArg inspect (funext ih)
      | remember memory rest ih => exact congrArg (remember memory) ih
      | ask request rest ih => exact congrArg (ask request) (funext ih))
    (fun _ _ => rfl)
    (fun program _ _ => by
      simp only [bind]
      induction program with
      | done => rfl
      | panic => rfl
      | inspect read ih => exact congrArg inspect (funext ih)
      | remember memory rest ih => exact congrArg (remember memory) ih
      | ask request rest ih => exact congrArg (ask request) (funext ih))

/-- Makes a request and ends with the answer. -/
def request (request : Request) : Program σ request.Answer := ask request done

/-- Ends with the memory. -/
def memory : Program σ σ := inspect done

/-- Changes the memory. -/
def change (f : σ → σ) : Program σ Unit := inspect fun memory => remember (f memory) (done ())

/-- Visits parameters in order, up to and including the first visit that breaks
off; gives how many were visited, and the visitor's state. -/
def walk (visit : τ → ParameterInfo → Program σ (Bool × τ)) :
    τ → List ParameterInfo → Program σ (Nat × τ)
  | state, [] => done (0, state)
  | state, info :: rest => do
    let (breaks, state) ← visit state info
    if breaks then return (1, state)
    else
      let (visited, state) ← walk visit state rest
      return (visited + 1, state)

/-- Visits the parameters that are meant, as they are before the first visit. -/
def forEach (selector : Selector) (visit : τ → ParameterInfo → Program σ (Bool × τ))
    (state : τ) : Program σ (Nat × τ) := do
  let infos : List ParameterInfo ← request (.select selector)
  walk visit state infos

end Program

/-! ## The code of a run -/

/-- The user code of a run, by reference. -/
structure UserCode (σ : Type) where
  /-- Callbacks; the result is a status code. -/
  callback : CodeRef → Delivery → Program σ Int32
  /-- The construct hook of a module, with the arguments it was loaded with. -/
  construct : CodeRef → List String → Program σ HookStatus
  /-- The help hook of a module. -/
  help : CodeRef → Program σ String
  /-- The preStart hook of a module. -/
  preStart : CodeRef → HookArguments → Program σ StartDecision
  /-- The postStart, preStop and postStop hooks of a module. -/
  filterHook : CodeRef → Hook → HookArguments → Program σ HookStatus
  /-- The destroy hook of a module. -/
  destroy : CodeRef → Program σ HookStatus
  /-- The functions of a filter. -/
  filter : CodeRef → FilterFunction → FilterContext → Program σ (Except Fault Unit)
  /-- Setters: from the requested value and the current value, the new value if there is to
  be one. -/
  setter : CodeRef → Value → Value → Program σ (Option Value)
  /-- How many callbacks and setters may be under way inside one another. -/
  nesting : Nat

end StreamControl
