import StreamControl.Phase
import StreamControl.StreamId
import StreamControl.Value

/-!
# Refusals

Everything a host, a filter graph or a parameter tree can refuse, by cause.
`Fault.message` is the wording.

A parameter query is refused for one of three of these causes, and then also
carries a status code and a wording of its own: `QueryFault`.
`QueryFault.toFault` forgets both.
-/

set_option autoImplicit false

namespace StreamControl

/-- Why an operation was refused. -/
inductive Fault where
  /-- No stream has this number. -/
  | unknownStream (stream : StreamId)
  /-- The stream has no filter of this name. -/
  | unknownFilter (filter : String)
  /-- The filter owns no parameter of this name. -/
  | unknownParameter (filter name : String)
  /-- The stream already has a filter of this name. -/
  | duplicateFilter (filter : String)
  /-- The filter already owns a parameter of this name. -/
  | parameterExists (filter name : String)
  /-- The parameter's declared type does not serve the requested type. -/
  | typeMismatch (filter name : String) (actual requested : ValueType)
  /-- Not allowed while the stream runs. -/
  | streamRunning (stream : StreamId)
  /-- Only allowed while the stream runs. -/
  | streamNotRunning (stream : StreamId)
  /-- Two filters cannot be linked. -/
  | invalidLink (reason : String)
  /-- A loaded controller has this name. -/
  | controllerExists (name : String)
  /-- No loaded controller has this name. -/
  | unknownController (name : String)
  /-- The controller name has more bytes than allowed. -/
  | nameTooLong (name : String) (limit : Nat)
  /-- Every name made from this one is taken. -/
  | nameExhausted (name : String)
  /-- The controller's construct hook failed. -/
  | constructFailed (name : String) (code : Int32)
  /-- The controller cannot take this step. -/
  | invalidTransition (origin target : Phase)
  /-- The filter did not start. -/
  | filterStartFailed (filter reason : String)
  deriving DecidableEq, Inhabited

namespace Fault

/-- A filter and one of its parameters, as messages name them. -/
def parameterText (filter name : String) : String := "'" ++ filter ++ ":" ++ name ++ "'"

/-- The wording of a refusal. -/
def message : Fault → String
  | unknownStream stream => "unknown stream: " ++ stream.text
  | unknownFilter filter => "unknown filter '" ++ filter ++ "'"
  | unknownParameter filter name => "unknown parameter " ++ parameterText filter name
  | duplicateFilter filter => "filter '" ++ filter ++ "' already exists in stream"
  | parameterExists filter name => "parameter " ++ parameterText filter name ++ " already exists"
  | typeMismatch filter name actual requested =>
    "parameter " ++ parameterText filter name ++ " has type " ++ actual.text ++
      ", not requested type " ++ requested.text
  | streamRunning stream => "stream " ++ stream.text ++ " is running"
  | streamNotRunning stream => "stream " ++ stream.text ++ " is not running"
  | invalidLink reason => "invalid link: " ++ reason
  | controllerExists name => "controller name '" ++ name ++ "' is in use already"
  | unknownController name => "controller '" ++ name ++ "' not found"
  | nameTooLong name limit =>
    "controller name '" ++ name ++ "' is longer than " ++ toString limit ++ " bytes"
  | nameExhausted name => "could not generate a unique name for controller '" ++ name ++ "'"
  | constructFailed name code =>
    "controller '" ++ name ++ "' construct() failed with code " ++ toString code.toInt
  | invalidTransition origin target =>
    "invalid lifecycle transition " ++ origin.name ++ " -> " ++ target.name
  | filterStartFailed filter reason =>
    "filter '" ++ filter ++ "' failed to start: " ++ reason

end Fault

/-! ## Refused queries -/

/-- Why a parameter query was refused. -/
inductive QueryFault where
  /-- No stream has this number. -/
  | unknownStream (stream : StreamId)
  /-- The stream has no filter of this name. -/
  | unknownFilter (filter : String)
  /-- The filter owns no parameter of this name. -/
  | unknownParameter (filter name : String)
  deriving DecidableEq, Inhabited

namespace QueryFault

/-- The status code of a refused query; an accepted one has code zero. -/
def code : QueryFault → Int32
  | unknownStream _ => -1
  | unknownFilter _ => -2
  | unknownParameter _ _ => -3

/-- The wording of a refused query. -/
def message : QueryFault → String
  | unknownStream stream => "unknown stream " ++ stream.text
  | unknownFilter filter => "filter '" ++ filter ++ "' not found in parameter tree"
  | unknownParameter filter name => "parameter " ++ Fault.parameterText filter name ++ " not found"

/-- The same cause, as any other operation reports it. -/
def toFault : QueryFault → Fault
  | unknownStream stream => .unknownStream stream
  | unknownFilter filter => .unknownFilter filter
  | unknownParameter filter name => .unknownParameter filter name

theorem code_ne_zero (fault : QueryFault) : fault.code ≠ 0 := by
  cases fault <;> simp [code]

theorem toFault_injective {a b : QueryFault} (h : a.toFault = b.toFault) : a = b := by
  cases a <;> cases b <;> simp_all [toFault]

end QueryFault

/-- The answer to a parameter query, as a status code. -/
def queryCode : Except QueryFault Unit → Int32
  | .ok () => 0
  | .error fault => fault.code

end StreamControl
