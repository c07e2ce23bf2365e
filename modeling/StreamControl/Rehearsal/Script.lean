import StreamControl.Host.Stop

/-!
# Scripts

A rehearsal tries a host out with user code that is written down as scripts.
A script is a list of rules; of the rules that apply to a call the first is
played.  A rule makes some requests in order (`Act`), then may panic, and
otherwise gives a result.

What an act is about may be left out; it then is about whatever the script
was called for (`Place`).
-/

set_option autoImplicit false

namespace StreamControl.Rehearsal

/-! ## Places -/

/-- What a script was called for; a part is missing where it makes no sense. -/
structure Place where
  /-- The stream. -/
  stream : Option StreamId := none
  /-- The filter. -/
  filter : Option String := none
  /-- The parameter. -/
  name : Option String := none
  deriving DecidableEq, Inhabited

/-- What an act says it is about. -/
abbrev Target := Place

namespace Place

/-- Fills in what is missing from another place. -/
def orElse (place other : Place) : Place :=
  { stream := place.stream <|> other.stream
    filter := place.filter <|> other.filter
    name := place.name <|> other.name }

/-- The stream, or the number zero, which no stream has. -/
def streamOrZero (place : Place) : StreamId := place.stream.getD ⟨0⟩

/-- The filter, or the empty name. -/
def filterOrEmpty (place : Place) : String := place.filter.getD ""

/-- The parameter, or the empty name. -/
def nameOrEmpty (place : Place) : String := place.name.getD ""

/-- The place of a parameter. -/
def ofInfo (info : ParameterInfo) : Place := ⟨some info.stream, some info.filter, some info.name⟩

end Place

/-! ## Rules -/

/-- When a rule applies; what is left out is no restriction. -/
structure Condition where
  /-- At the call with this number, counted from zero. -/
  call : Option Nat := none
  /-- From the call with this number on. -/
  since : Option Nat := none
  /-- When called for this place. -/
  place : Place := {}
  deriving DecidableEq, Inhabited

/-- Whether a part of a place is as required. -/
def required {α : Type} [DecidableEq α] (wanted actual : Option α) : Bool :=
  wanted.isNone || wanted = actual

/-- Whether a condition holds for a call at a place. -/
def Condition.holds (condition : Condition) (place : Place) (call : Nat) : Bool :=
  condition.call.all (· = call) && condition.since.all (· ≤ call) &&
    required condition.place.stream place.stream && required condition.place.filter place.filter &&
    required condition.place.name place.name

/-- What a setter's rule gives. -/
inductive SetterOutcome where
  /-- The requested value. -/
  | accept
  /-- The current value. -/
  | current
  /-- The requested value as a double-precision number, if it is a number. -/
  | double
  /-- A value of its own. -/
  | const (value : Value)
  /-- No new value. -/
  | ignore
  deriving DecidableEq, Inhabited

/-- A rule of a setter. -/
structure SetterRule where
  /-- When the rule applies. -/
  condition : Condition := {}
  /-- Whether it panics, and with what. -/
  panic : Option String := none
  /-- What it gives. -/
  outcome : SetterOutcome := .accept
  deriving DecidableEq, Inhabited

/-- Something a script does. -/
inductive Act where
  /-- Queries a parameter. -/
  | query (target : Target) (callback : Callback) (context : UserContext)
  /-- Pushes a value, by the context remembered for the filter. -/
  | push (target : Target) (value : Value)
  /-- Asks the owner of a parameter to change it. -/
  | set (target : Target) (type : ValueType) (value : Value)
  /-- Reads a parameter. -/
  | value (target : Target)
  /-- Reads a parameter's declared type. -/
  | declaredType (target : Target)
  /-- Asks whether a filter is started. -/
  | started (target : Target)
  /-- Counts the subscriptions of a parameter. -/
  | subscriptionCount (target : Target)
  /-- Reads a parameter, by the context remembered for the filter. -/
  | contextValue (target : Target)
  /-- Describes the context remembered for a filter. -/
  | contextInfo (target : Target)
  /-- Makes a parameter, by the context remembered for the filter. -/
  | create (target : Target) (type : ValueType) (initial : Value)
      (setter : Option (List SetterRule))
  /-- Subscribes to one parameter, or to all of the filter. -/
  | subscribe (target : Target) (all : Bool) (type : ValueType) (callback : Callback)
      (context : UserContext) (flags : SubscribeFlags)
  /-- Visits parameters, up to so many, doing the same at each. -/
  | forEach (selector : Selector) (limit : Option Nat) (acts : List Act)
  /-- Asks for the version. -/
  | version
  /-- Describes the parameters and the handle to the host. -/
  | describe
  /-- Writes something down. -/
  | note (text : String)
  /-- Fails. -/
  | fail (fault : Fault)
  deriving Inhabited

/-- An act of a rule; where failures count, this one's may be ignored. -/
structure Cue where
  /-- What is done. -/
  act : Act
  /-- Whether its failure is ignored. -/
  ignoreFailure : Bool := false
  deriving Inhabited

/-- The code a rule returns. -/
inductive ReturnCode where
  /-- Whatever is usual. -/
  | usual
  /-- This code. -/
  | exactly (code : Int32)
  /-- The code of the last query the rule has made, or zero. -/
  | lastQuery
  deriving DecidableEq, Inhabited

/-- A rule of a hook, a callback or a filter function. -/
structure Rule where
  /-- When the rule applies. -/
  condition : Condition := {}
  /-- What is done. -/
  cues : List Cue := []
  /-- Whether it panics then, and with what. -/
  panic : Option String := none
  /-- The code it returns. -/
  code : ReturnCode := .usual
  /-- The code it fails with, even if that is zero. -/
  failure : Option Int32 := none
  /-- Whether a filter may start. -/
  proceed : Option Bool := none
  /-- What it says. -/
  text : String := ""
  deriving Inhabited

/-- A list of rules, and how often it has been called. -/
structure Script where
  /-- The rules. -/
  rules : List Rule
  /-- How many calls there have been. -/
  calls : Nat := 0
  deriving Inhabited

/-- The rule that applies to the next call, for a place. -/
def Script.applicable? (script : Script) (place : Place) : Option Rule :=
  script.rules.find? fun rule => rule.condition.holds place script.calls

/-- The script after one more call. -/
def Script.called (script : Script) : Script := { script with calls := script.calls + 1 }

end StreamControl.Rehearsal
