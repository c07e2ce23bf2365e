import StreamControl.Rehearsal.Memory

/-!
# Playing scripts

The user code of a rehearsal.  `playAct` turns an act into requests and logs
the answer; `playRule` does the acts of a rule, in order, and then panics if
the rule says so.  `userCode` is the user code behind every reference: it
logs the call, finds the rule that applies, plays it, and gives the rule's
result, or what is usual if no rule applies.

Failed acts are only logged, except in the functions of filters, where the
first failure that is not to be ignored ends the script and is what the
function is refused with.
-/

set_option autoImplicit false

namespace StreamControl.Rehearsal

/-- A program of a rehearsal. -/
abbrev Played (α : Type) : Type := Program Memory α

/-! ## Acts -/

/-- The reply that a refusable answer makes. -/
def Reply.ofExcept {α : Type} (reply : α → Reply) : Except Fault α → Reply
  | .ok result => reply result
  | .error cause => .fault cause

/-- The context remembered for the filter of a place. -/
def contextAt (place : Place) : Played (Option FilterContext) := do
  let context : FilterContext := ⟨place.streamOrZero, place.filterOrEmpty⟩
  let memory ← Program.memory
  return if context ∈ memory.contexts then some context else none

/-- Does something with the context remembered for the filter of a place. -/
def withContext (place : Place) (use : FilterContext → Played Reply) : Played Reply := do
  match ← contextAt place with
  | some context => use context
  | none => return .noContext

/-- Adds a setter, if there is to be one. -/
def prepareSetter : Option (List SetterRule) → Played (Option CodeRef)
  | none => return none
  | some rules => do
    let (code, memory) := (← Program.memory).addSetter rules
    Program.change fun _ => memory
    return some code

/-- How the handle to a host is shown. -/
def describeHandle (tree : String) : String :=
  "Controller \x7b version: " ++ Text.quote version ++ ", store: " ++ tree ++ " \x7d"

/-- The code of an answer to a query. -/
def Reply.queryCode? : Reply → Option Int32
  | .queried answer => some (queryCode answer)
  | _ => none

mutual

/-- What an act is answered with, when done by a script that was called for a
place. -/
def answerTo (place : Place) : Act → Played Reply
  | .query target callback context => do
    let target := target.orElse place
    return .queried (← Program.request (.query
      { stream := target.streamOrZero, filter := target.filterOrEmpty,
        parameter := target.nameOrEmpty, callback, context }))
  | .push target value => do
    let target := target.orElse place
    withContext target fun context => do
      return .ofExcept .number (← Program.request (.push context target.nameOrEmpty value))
  | .set target type value => do
    let target := target.orElse place
    return .ofExcept .flag (← Program.request
      (.set target.streamOrZero target.filterOrEmpty target.nameOrEmpty type value))
  | .value target => do
    let target := target.orElse place
    return .ofExcept .value (← Program.request
      (.value target.streamOrZero target.filterOrEmpty target.nameOrEmpty))
  | .declaredType target => do
    let target := target.orElse place
    return .ofExcept .type (← Program.request
      (.declaredType target.streamOrZero target.filterOrEmpty target.nameOrEmpty))
  | .started target => do
    let target := target.orElse place
    return .ofExcept .flag (← Program.request
      (.started target.streamOrZero target.filterOrEmpty))
  | .subscriptionCount target => do
    let target := target.orElse place
    return .ofExcept .number (← Program.request
      (.subscriptionCount target.streamOrZero target.filterOrEmpty target.nameOrEmpty))
  | .contextValue target => do
    let target := target.orElse place
    withContext target fun context => do
      return .ofExcept .value
        (← Program.request (.value context.stream context.filter target.nameOrEmpty))
  | .contextInfo target =>
    withContext (target.orElse place) fun context => return .context context
  | .create target type initial setter => do
    let target := target.orElse place
    withContext target fun context => do
      let code ← prepareSetter setter
      return .ofExcept (fun _ => .done)
        (← Program.request (.create context target.nameOrEmpty type initial code))
  | .subscribe target all type callback context flags => do
    let target := target.orElse place
    let name := if all then none else some target.nameOrEmpty
    return .ofExcept .number (← Program.request
      (.subscribe target.streamOrZero target.filterOrEmpty name type callback context flags))
  | .forEach selector limit acts => do
    let visit := fun (visited : List ParameterInfo) info => do
      answerToAll (.ofInfo info) acts
      let visited := visited ++ [info]
      return (limit.any (· ≤ visited.length), visited)
    let (_, visited) ← Program.forEach selector visit []
    return .visited visited
  | .version => return .texts [version, version]
  | .describe => do
    let tree : String ← Program.request .describe
    return .texts ["ParameterView(" ++ tree ++ ")", describeHandle tree]
  | .note text => return .text text
  | .fail fault => return .fault fault

/-- Does acts in order, logging each. -/
def answerToAll (place : Place) : List Act → Played Unit
  | [] => return ()
  | act :: rest => do
    let reply ← answerTo place act
    Program.change (·.write (.act act reply))
    answerToAll place rest

end

/-- Does an act and logs it. -/
def playAct (place : Place) (act : Act) : Played Reply := do
  let reply ← answerTo place act
  Program.change (·.write (.act act reply))
  return reply

/-! ## Rules -/

/-- Does the acts of a rule in order; gives the code of the last query among
them, `last` being that so far.  Where failures count (`strict`), the first
that is not to be ignored ends the script. -/
def playCues (strict : Bool) (place : Place) :
    Int32 → List Cue → Played (Except Fault Int32)
  | last, [] => return .ok last
  | last, cue :: rest => do
    let reply ← playAct place cue.act
    match reply with
    | .fault fault =>
      if strict && !cue.ignoreFailure then return .error fault
      else playCues strict place last rest
    | _ => playCues strict place (reply.queryCode?.getD last) rest

/-- Plays a rule up to its result; gives the code of the last query among its
acts. -/
def playRule (strict : Bool) (place : Place) (rule : Rule) : Played (Except Fault Int32) := do
  match ← playCues strict place 0 rule.cues with
  | .error fault => return .error fault
  | .ok last =>
    match rule.panic with
    | some reason => .panic reason
    | none => return .ok last

/-- The code a rule returns. -/
def Rule.codeOr (rule : Rule) (usual last : Int32) : Int32 :=
  match rule.code with
  | .usual => usual
  | .exactly code => code
  | .lastQuery => last

/-- Plays the rule of a script that applies, if one does; gives the rule and
the code of the last query made. -/
def playLeniently (script : Script) (place : Place) : Played (Option (Rule × Int32)) := do
  match script.applicable? place with
  | none => return none
  | some rule =>
    match ← playRule false place rule with
    | .ok last => return some (rule, last)
    | .error _ => return some (rule, 0)

/-! ## The user code -/

/-- Callbacks. -/
def callbackProgram (code : CodeRef) (delivery : Delivery) : Played Int32 := do
  match (← Program.memory).callbacks[code]? with
  | none => return 0
  | some (name, script) =>
    Program.change fun memory =>
      (memory.callbackCalled code).write (.callback name script.calls delivery)
    let place : Place := ⟨some delivery.stream, some delivery.filter, some delivery.parameter⟩
    match ← playLeniently script place with
    | none => return 0
    | some (rule, last) => return rule.codeOr 0 last

/-- Plays the script of a hook, after logging the call. -/
def playHook (code : CodeRef) (hook : Hook) (line : String → Nat → LogLine) (place : Place) :
    Played (Option (Rule × Int32)) := do
  match (← Program.memory).modules[code]? with
  | none => return none
  | some scripts =>
    match scripts.script? hook with
    | none => return none
    | some script =>
      Program.change fun memory =>
        (memory.hookCalled code hook).write (line scripts.tag script.calls)
      playLeniently script place

/-- The status a hook's rule gives. -/
def statusOf : Option (Rule × Int32) → HookStatus
  | none => .ok
  | some (rule, last) =>
    match rule.failure with
    | some failure => .failed failure
    | none => .ofCode (rule.codeOr 0 last)

/-- The decision a preStart rule gives. -/
def decisionOf : Option (Rule × Int32) → StartDecision
  | none => .proceed
  | some (rule, last) =>
    match rule.proceed with
    | some go => .ofBool go
    | none => .ofCode (rule.codeOr 1 last)

/-- The place a hook is called for. -/
def placeOf (arguments : HookArguments) : Place :=
  { stream := some arguments.stream, filter := some arguments.filter }

/-- Hooks that are called for a filter. -/
def playFilterHook (code : CodeRef) (hook : Hook) (arguments : HookArguments) :
    Played (Option (Rule × Int32)) :=
  playHook code hook (fun tag call => .filterHook tag hook call arguments) (placeOf arguments)

/-- Hooks that are called for no filter. -/
def playPlainHook (code : CodeRef) (hook : Hook) (arguments : Option (List String)) :
    Played (Option (Rule × Int32)) :=
  playHook code hook (fun tag call => .plainHook tag hook call arguments) {}

/-- The functions of filters. -/
def filterProgram (code : CodeRef) (function : FilterFunction) (context : FilterContext) :
    Played (Except Fault Unit) := do
  match (← Program.memory).filters[code]? with
  | none => return .ok ()
  | some scripts =>
    let script := scripts.script function
    Program.change fun memory =>
      ((memory.keepContext context).filterCalled code function).write
        (.filter function context script.calls)
    let place : Place := { stream := some context.stream, filter := some context.filter }
    match script.applicable? place with
    | none => return .ok ()
    | some rule => return (fun _ => ()) <$> (← playRule true place rule)

/-- What a setter's rule gives. -/
def SetterOutcome.apply (requested current : Value) : SetterOutcome → Option Value
  | .accept => some requested
  | .current => some current
  | .double => requested.asDouble?.map .double
  | .const value => some value
  | .ignore => none

/-- Setters; the only acts of their rules are to answer and to panic. -/
def setterProgram (code : CodeRef) (requested current : Value) : Played (Option Value) := do
  match (← Program.memory).setters[code]? with
  | none => return none
  | some setter =>
    Program.change (·.setterCalled code)
    match setter.rules.find? (·.condition.holds {} setter.calls) with
    | none => return some requested
    | some rule =>
      match rule.panic with
      | some reason => .panic reason
      | none => return rule.outcome.apply requested current

/-- The user code of a rehearsal, with callbacks and setters nested up to a depth. -/
def userCode (nesting : Nat) : UserCode Memory where
  callback := callbackProgram
  construct code arguments := statusOf <$> playPlainHook code .construct (some arguments)
  help code := (fun played => (played.map (·.1.text)).getD "") <$> playPlainHook code .help none
  preStart code arguments := decisionOf <$> playFilterHook code .preStart arguments
  filterHook code hook arguments := statusOf <$> playFilterHook code hook arguments
  destroy code := statusOf <$> playPlainHook code .destroy none
  filter := filterProgram
  setter := setterProgram
  nesting := nesting

end StreamControl.Rehearsal
