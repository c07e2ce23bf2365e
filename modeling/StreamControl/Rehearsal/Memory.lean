import StreamControl.Rehearsal.Script

/-!
# What scripted user code remembers

The scripts behind the references of a rehearsal, with the number of times
each has been called; the contexts that filters were handed; and the log of
what the scripts have done.

Scripts of modules, filters and setters are added as the rehearsal goes on,
so their references are their places in these lists.
-/

set_option autoImplicit false

namespace StreamControl.Rehearsal

/-! ## Answers and log -/

/-- What a request or a step was answered with. -/
inductive Reply where
  /-- Done. -/
  | done
  /-- Nothing there. -/
  | nothing
  /-- Refused. -/
  | fault (fault : Fault)
  /-- User code panicked, and nothing caught it. -/
  | panicked (reason : String)
  /-- User code nested too deep. -/
  | exhausted
  /-- No context was remembered for the filter. -/
  | noContext
  /-- The host is gone. -/
  | noHost
  /-- No stream is kept under the key. -/
  | noSavedStream
  /-- No receiver of that name, or no channel to receive from. -/
  | noReceiver
  /-- No event stream of that name. -/
  | noEventStream
  /-- An event that was sent. -/
  | event (event : Event)
  /-- Events that were sent. -/
  | events (events : List Event)
  /-- No event yet. -/
  | pending
  /-- A text. -/
  | text (content : String)
  /-- Several texts. -/
  | texts (contents : List String)
  /-- A flag. -/
  | flag (content : Bool)
  /-- A count. -/
  | number (content : Nat)
  /-- The answer to a query. -/
  | queried (answer : Except QueryFault Unit)
  /-- The answer to a query made through a new handle, with the version. -/
  | queriedAnew (answer : Except QueryFault Unit) (version : String)
  /-- A value. -/
  | value (value : Value)
  /-- A type. -/
  | type (type : ValueType)
  /-- A filter's context. -/
  | context (context : FilterContext)
  /-- The parameters that were visited. -/
  | visited (infos : List ParameterInfo)
  /-- A stream was attached. -/
  | attached (stream : StreamId)
  /-- A stream. -/
  | graph (graph : FilterGraph)
  /-- The numbers of the attached streams. -/
  | streams (streams : List StreamId)
  /-- A stream was started. -/
  | started (report : StartReport)
  /-- A stream was stopped. -/
  | stopped (report : StopReport)
  /-- A controller's phase, its phase with a stream, and its path. -/
  | controller (phase streamPhase : Option Phase) (path : Option String)
  /-- What came of handing values to callbacks. -/
  | tally (tally : Tally)
  /-- How the host is set up. -/
  | config (config : Config)
  deriving Inhabited

/-- Something a script has done. -/
inductive LogLine where
  /-- A callback was called. -/
  | callback (name : String) (call : Nat) (delivery : Delivery)
  /-- A hook was called for a filter. -/
  | filterHook (tag : String) (hook : Hook) (call : Nat) (arguments : HookArguments)
  /-- A hook was called for no filter; construct has arguments. -/
  | plainHook (tag : String) (hook : Hook) (call : Nat) (arguments : Option (List String))
  /-- A filter function was called. -/
  | filter (function : FilterFunction) (context : FilterContext) (call : Nat)
  /-- An act was done. -/
  | act (act : Act) (reply : Reply)
  deriving Inhabited

/-! ## Memory -/

/-- The scripts of a module's hooks. -/
structure ModuleScripts where
  /-- What the module is called in the log. -/
  tag : String
  /-- The script of each filled hook. -/
  hooks : List (Hook × Script)
  deriving Inhabited

/-- The scripts of a filter's functions. -/
structure FilterScripts where
  /-- The script of the construct function. -/
  construct : Script
  /-- The script of the start function. -/
  start : Script
  /-- The script of the stop function. -/
  stop : Script
  deriving Inhabited

/-- A setter's rules, and how often it has been asked. -/
structure SetterScript where
  /-- The rules. -/
  rules : List SetterRule
  /-- How many calls there have been. -/
  calls : Nat := 0
  deriving Inhabited

/-- What scripted user code remembers. -/
structure Memory where
  /-- Callbacks, by reference, with their names. -/
  callbacks : List (String × Script)
  /-- Modules, by reference. -/
  modules : List ModuleScripts := []
  /-- Filters, by reference. -/
  filters : List FilterScripts := []
  /-- Setters, by reference. -/
  setters : List SetterScript := []
  /-- The contexts that filters were handed. -/
  contexts : List FilterContext := []
  /-- What the scripts have done. -/
  log : Array LogLine := #[]
  deriving Inhabited

namespace FilterScripts

/-- The script of a function. -/
def script (scripts : FilterScripts) : FilterFunction → Script
  | .construct => scripts.construct
  | .start => scripts.start
  | .stop => scripts.stop

/-- Notes a call of a function. -/
def called (scripts : FilterScripts) : FilterFunction → FilterScripts
  | .construct => { scripts with construct := scripts.construct.called }
  | .start => { scripts with start := scripts.start.called }
  | .stop => { scripts with stop := scripts.stop.called }

end FilterScripts

namespace ModuleScripts

/-- The script of a hook. -/
def script? (scripts : ModuleScripts) (hook : Hook) : Option Script := scripts.hooks.lookup hook

/-- Notes a call of a hook. -/
def called (scripts : ModuleScripts) (hook : Hook) : ModuleScripts :=
  { scripts with hooks := scripts.hooks.map fun entry =>
      if entry.1 = hook then (hook, entry.2.called) else entry }

end ModuleScripts

namespace Memory

/-- Writes a line into the log. -/
def write (memory : Memory) (line : LogLine) : Memory :=
  { memory with log := memory.log.push line }

/-- Notes a call of a callback. -/
def callbackCalled (memory : Memory) (code : CodeRef) : Memory :=
  { memory with callbacks := memory.callbacks.modify code fun entry => (entry.1, entry.2.called) }

/-- Notes a call of a hook. -/
def hookCalled (memory : Memory) (code : CodeRef) (hook : Hook) : Memory :=
  { memory with modules := memory.modules.modify code (·.called hook) }

/-- Notes a call of a filter function. -/
def filterCalled (memory : Memory) (code : CodeRef) (function : FilterFunction) : Memory :=
  { memory with filters := memory.filters.modify code (·.called function) }

/-- Notes a call of a setter. -/
def setterCalled (memory : Memory) (code : CodeRef) : Memory :=
  { memory with setters := memory.setters.modify code fun setter =>
      { setter with calls := setter.calls + 1 } }

/-- Adds a setter and gives its reference. -/
def addSetter (memory : Memory) (rules : List SetterRule) : CodeRef × Memory :=
  (memory.setters.length, { memory with setters := memory.setters ++ [{ rules }] })

/-- Adds a filter and gives its reference. -/
def addFilter (memory : Memory) (scripts : FilterScripts) : CodeRef × Memory :=
  (memory.filters.length, { memory with filters := memory.filters ++ [scripts] })

/-- Adds a module and gives its reference. -/
def addModule (memory : Memory) (scripts : ModuleScripts) : CodeRef × Memory :=
  (memory.modules.length, { memory with modules := memory.modules ++ [scripts] })

/-- Remembers a context. -/
def keepContext (memory : Memory) (context : FilterContext) : Memory :=
  if context ∈ memory.contexts then memory
  else { memory with contexts := memory.contexts ++ [context] }

end Memory

end StreamControl.Rehearsal
