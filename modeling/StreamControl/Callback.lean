import StreamControl.CodeRef
import StreamControl.StreamId
import StreamControl.Value

/-!
# Callbacks

A callback is user code that is handed the value of a parameter, together
with the stream, the filter and the name the value belongs to and whatever
its owner asked to be given back.  Those are five inputs, and a callback
that does not take five is never called.
-/

set_option autoImplicit false

namespace StreamControl

/-! ## Contexts -/

/-- What the owner of a callback wants to be given back. -/
inductive Payload where
  /-- A text. -/
  | text (content : String)
  /-- A number. -/
  | number (content : UInt64)
  deriving DecidableEq, Inhabited

/-- Something shared by the owner of a callback: its identity and content. -/
structure Shared where
  /-- Tells it apart from other things with the same content. -/
  identity : Nat
  /-- The content. -/
  payload : Payload
  deriving DecidableEq, Inhabited

/-- What a callback is given back: the very thing its owner supplied, or
nothing.  A host never looks inside. -/
structure UserContext where
  /-- The thing supplied, if any. -/
  shared : Option Shared := none
  deriving DecidableEq, Inhabited

namespace UserContext

/-- Whether nothing was supplied. -/
def isNone (context : UserContext) : Bool := context.shared.isNone

/-- Whether two contexts carry the same thing, or both nothing. -/
def same (a b : UserContext) : Bool :=
  a.shared.map Shared.identity = b.shared.map Shared.identity

/-- The text carried, if it is a text. -/
def text? (context : UserContext) : Option String :=
  match context.shared with
  | some ⟨_, .text content⟩ => some content
  | _ => none

/-- The number carried, if it is a number. -/
def number? (context : UserContext) : Option UInt64 :=
  match context.shared with
  | some ⟨_, .number content⟩ => some content
  | _ => none

/-- How a context is shown; the content stays hidden. -/
def describe (context : UserContext) : String :=
  if context.isNone then "UserContext(none)" else "UserContext(..)"

end UserContext

/-! ## Callbacks -/

/-- How many inputs a callback has to take. -/
def callbackArity : Nat := 5

/-- A callback, as handed to a host. -/
structure Callback where
  /-- The code to be called. -/
  code : CodeRef
  /-- How many inputs the code takes. -/
  arity : Nat := callbackArity
  /-- A name for messages. -/
  label : Option String := none
  deriving DecidableEq, Inhabited

namespace Callback

/-- Whether a callback can be called at all. -/
def isWellFormed (callback : Callback) : Bool := callback.arity = callbackArity

/-- Whether two callbacks are the same code, whatever their labels. -/
def same (a b : Callback) : Bool := a.code = b.code

/-- The same callback under another label. -/
def labeled (callback : Callback) (label : String) : Callback :=
  { callback with label := some label }

/-- How a callback is shown. -/
def describe (callback : Callback) : String :=
  let label := match callback.label with
    | some label => "Some(" ++ Text.quote label ++ ")"
    | none => "None"
  "Callback \x7b arity: " ++ toString callback.arity ++ ", label: " ++ label ++ " \x7d"

end Callback

/-- What a callback is called with. -/
structure Delivery where
  /-- The value of the parameter. -/
  value : Value
  /-- The stream of the parameter. -/
  stream : StreamId
  /-- The filter that owns the parameter. -/
  filter : String
  /-- The name of the parameter. -/
  parameter : String
  /-- What the owner of the callback supplied. -/
  context : UserContext
  deriving DecidableEq, Inhabited

/-- A request to hand the value of a parameter to a callback, once. -/
structure Query where
  /-- The stream of the parameter. -/
  stream : StreamId
  /-- The filter that owns the parameter. -/
  filter : String
  /-- The name of the parameter. -/
  parameter : String
  /-- The callback to be called. -/
  callback : Callback
  /-- What the owner of the callback supplied. -/
  context : UserContext := {}
  deriving DecidableEq, Inhabited

/-- What the callback of a query is called with when the value is known. -/
def Query.delivery (query : Query) (value : Value) : Delivery :=
  { value, stream := query.stream, filter := query.filter, parameter := query.parameter,
    context := query.context }

/-! ## Outcomes -/

/-- What came of handing a value to a callback. -/
inductive DispatchOutcome where
  /-- The callback ran and returned a code. -/
  | invoked (code : Int32)
  /-- The callback takes `found` inputs and was not called. -/
  | mismatched (found : Nat)
  /-- The callback panicked. -/
  | panicked
  deriving DecidableEq, Inhabited

namespace DispatchOutcome

/-- Whether the callback ran to its end. -/
def wasInvoked : DispatchOutcome → Bool
  | invoked _ => true
  | _ => false

/-- Whether a subscription with this outcome is over: the callback returned a
code other than zero, or panicked. -/
def endsSubscription : DispatchOutcome → Bool
  | invoked code => code ≠ 0
  | mismatched _ => false
  | panicked => true

end DispatchOutcome

/-- How many values were handed to callbacks, by outcome. -/
structure Tally where
  /-- Callbacks that ran. -/
  invoked : Nat := 0
  /-- Callbacks that ran and returned a code other than zero. -/
  failed : Nat := 0
  /-- Callbacks not called because they take the wrong number of inputs. -/
  mismatched : Nat := 0
  /-- Callbacks that panicked. -/
  panicked : Nat := 0
  deriving DecidableEq, Inhabited

namespace Tally

/-- Counts one outcome. -/
def add (tally : Tally) : DispatchOutcome → Tally
  | .invoked code =>
    { tally with
      invoked := tally.invoked + 1
      failed := tally.failed + if code = 0 then 0 else 1 }
  | .mismatched _ => { tally with mismatched := tally.mismatched + 1 }
  | .panicked => { tally with panicked := tally.panicked + 1 }

/-- Every outcome is counted once, as what it was. -/
theorem handled_add (tally : Tally) (outcome : DispatchOutcome) :
    (tally.add outcome).invoked + (tally.add outcome).mismatched + (tally.add outcome).panicked =
      tally.invoked + tally.mismatched + tally.panicked + 1 := by
  cases outcome <;> simp only [add] <;> omega

/-- How a tally is shown. -/
def describe (tally : Tally) : String :=
  "DispatchStats \x7b invoked: " ++ toString tally.invoked ++ ", failed: " ++
    toString tally.failed ++ ", mismatched: " ++ toString tally.mismatched ++ ", panicked: " ++
    toString tally.panicked ++ " \x7d"

end Tally

end StreamControl
