import StreamControl.Callback
import StreamControl.Fault
import StreamControl.OrderedMap

/-!
# The parameter tree

Every parameter known to a session, by stream, filter and name.  A parameter
has a declared type, a value, perhaps a setter, and subscriptions in the
order they were made.  A filter is marked while it is started, and takes no
new parameters then.

This module says what each change does to the tree; it calls no user code.
An operation on something that does not exist is refused for the first thing
missing on the way down: the stream, then the filter, then the parameter
(`ParameterTree.parameterAt`).  A query looks by `ParameterTree.locate`, and
finds and misses the same.
-/

set_option autoImplicit false

namespace StreamControl

/-! ## Entries of the tree -/

/-- What a subscription asks for besides being called. -/
structure SubscribeFlags where
  /-- Stay when the stream stops. -/
  keepAtRestart : Bool := false
  /-- Do not subscribe the same callback to the same parameter twice. -/
  keepOne : Bool := false
  deriving DecidableEq, Inhabited

namespace SubscribeFlags

/-- Whether everything `other` asks for is asked for. -/
def contains (flags other : SubscribeFlags) : Bool :=
  (flags.keepAtRestart || !other.keepAtRestart) && (flags.keepOne || !other.keepOne)

/-- Asks for what either asks for. -/
def union (a b : SubscribeFlags) : SubscribeFlags :=
  ⟨a.keepAtRestart || b.keepAtRestart, a.keepOne || b.keepOne⟩

theorem contains_self (flags : SubscribeFlags) : flags.contains flags = true := by
  simp [contains]

/-- Asking for both is asking for each. -/
theorem contains_union (flags a b : SubscribeFlags) :
    flags.contains (a.union b) = (flags.contains a && flags.contains b) := by
  cases flags with
  | mk restart one =>
    cases restart <;> cases one <;>
      simp [contains, union, Bool.and_assoc, Bool.and_comm, Bool.and_left_comm]

end SubscribeFlags

/-- A callback waiting for the next values of a parameter. -/
structure Subscription where
  /-- The subscription's number. -/
  id : Nat
  /-- The callback to be called. -/
  callback : Callback
  /-- What the owner of the callback supplied. -/
  context : UserContext
  /-- Whether it stays when the stream stops. -/
  keptAtRestart : Bool
  deriving DecidableEq, Inhabited

/-- A parameter. -/
structure Parameter where
  /-- The declared type. -/
  type : ValueType
  /-- The current value. -/
  value : Value
  /-- The code that decides about requests to change the value. -/
  setter : Option CodeRef
  /-- The subscriptions, oldest first. -/
  subscriptions : List Subscription := []
  deriving DecidableEq, Inhabited

/-- What the tree knows of a filter. -/
structure FilterEntry where
  /-- Whether the filter is started. -/
  started : Bool := false
  /-- The parameters the filter owns. -/
  parameters : OrderedMap String Parameter := .empty
  deriving DecidableEq, Inhabited

/-- The parameters of a session. -/
structure ParameterTree where
  /-- The filters of each stream. -/
  streams : OrderedMap StreamId (OrderedMap String FilterEntry) := .empty
  /-- The number of the next subscription.  It is never used twice: 2 ^ 64 subscriptions, after
  which a counter of 64 bits would start again, are taken to be out of reach. -/
  nextSubscription : Nat := 0
  deriving DecidableEq, Inhabited

/-- Where a parameter is. -/
structure Address where
  /-- The stream of the filter. -/
  stream : StreamId
  /-- The filter that owns the parameter. -/
  filter : String
  /-- The name of the parameter. -/
  name : String
  deriving DecidableEq, Inhabited

/-- A parameter as it was found. -/
structure ParameterInfo where
  /-- The stream of the filter. -/
  stream : StreamId
  /-- The filter that owns the parameter. -/
  filter : String
  /-- The name of the parameter. -/
  name : String
  /-- The declared type. -/
  type : ValueType
  /-- The value. -/
  value : Value
  deriving DecidableEq, Inhabited

/-- Which parameters are meant; what is left out is no restriction. -/
structure Selector where
  /-- Those of one stream. -/
  stream : Option StreamId := none
  /-- Those of filters of one name. -/
  filter : Option String := none
  /-- Those of one name. -/
  name : Option String := none
  /-- Those that serve a type. -/
  type : ValueType := .any
  deriving DecidableEq, Inhabited

/-- Whether a parameter is meant. -/
def Selector.matches (selector : Selector) (info : ParameterInfo) : Bool :=
  selector.stream.all (· = info.stream) && selector.filter.all (· = info.filter) &&
    selector.name.all (· = info.name) && info.type.accepts selector.type

/-- Adds a subscription to a parameter under the next number, unless the same
callback must not be there twice and is there.  The number of subscriptions
added and the next number are given back too. -/
def Parameter.subscribe (parameter : Parameter) (callback : Callback) (context : UserContext)
    (flags : SubscribeFlags) (number : Nat) : Nat × Nat × Parameter :=
  if flags.keepOne && parameter.subscriptions.any (·.callback.same callback) then
    (0, number, parameter)
  else
    let subscription := { id := number, callback, context, keptAtRestart := flags.keepAtRestart }
    (1, number + 1,
      { parameter with subscriptions := parameter.subscriptions ++ [subscription] })

/-- Removes the subscriptions that do not stay when the stream stops. -/
def Parameter.stopped (parameter : Parameter) : Parameter :=
  { parameter with subscriptions := parameter.subscriptions.filter (·.keptAtRestart) }

namespace ParameterTree

/-! ## Finding -/

/-- The filter and the parameter that a query names, or what is missing. -/
def locate (tree : ParameterTree) (stream : StreamId) (filter name : String) :
    Except QueryFault (FilterEntry × Parameter) :=
  match tree.streams.find? stream with
  | none => .error (.unknownStream stream)
  | some filters =>
    match filters.find? filter with
    | none => .error (.unknownFilter filter)
    | some entry =>
      match entry.parameters.find? name with
      | none => .error (.unknownParameter filter name)
      | some parameter => .ok (entry, parameter)

/-- A parameter is found exactly when its stream, its filter and its name are
all there. -/
theorem locate_eq_ok_iff {tree : ParameterTree} {stream : StreamId} {filter name : String}
    {entry : FilterEntry} {parameter : Parameter} :
    tree.locate stream filter name = .ok (entry, parameter) ↔
      ∃ filters, tree.streams.find? stream = some filters ∧
        filters.find? filter = some entry ∧ entry.parameters.find? name = some parameter := by
  constructor
  · intro h
    simp only [locate] at h
    split at h
    · cases h
    · rename_i filters hstream
      split at h
      · cases h
      · rename_i found hfilter
        split at h
        · cases h
        · rename_i it hname
          cases h
          exact ⟨filters, hstream, hfilter, hname⟩
  · rintro ⟨filters, hstream, hfilter, hname⟩
    simp only [locate, hstream, hfilter, hname]

/-- The filters of a stream. -/
def filtersOf (tree : ParameterTree) (stream : StreamId) :
    Except Fault (OrderedMap String FilterEntry) :=
  match tree.streams.find? stream with
  | none => .error (.unknownStream stream)
  | some filters => .ok filters

/-- A filter. -/
def filterAt (tree : ParameterTree) (stream : StreamId) (filter : String) :
    Except Fault FilterEntry := do
  match (← tree.filtersOf stream).find? filter with
  | none => .error (.unknownFilter filter)
  | some entry => .ok entry

/-- The parameter of a name. -/
def parameterAt (tree : ParameterTree) (stream : StreamId) (filter name : String) :
    Except Fault Parameter := do
  match (← tree.filterAt stream filter).parameters.find? name with
  | none => .error (.unknownParameter filter name)
  | some parameter => .ok parameter

/-- A query looks for its parameter in a way of its own, and finds what every
other operation finds; what it misses is the same cause, too. -/
theorem parameterAt_eq_locate (tree : ParameterTree) (stream : StreamId) (filter name : String) :
    tree.parameterAt stream filter name =
      ((·.2) <$> tree.locate stream filter name).mapError QueryFault.toFault := by
  simp only [parameterAt, filterAt, filtersOf, locate]
  cases tree.streams.find? stream with
  | none => rfl
  | some filters =>
    dsimp only [bind, Except.bind]
    cases filters.find? filter with
    | none => rfl
    | some entry =>
      dsimp only
      cases entry.parameters.find? name <;> rfl

/-- Every parameter, by stream, filter and name. -/
def infos (tree : ParameterTree) : List ParameterInfo :=
  tree.streams.entries.flatMap fun (stream, filters) =>
    filters.entries.flatMap fun (filter, entry) =>
      entry.parameters.entries.map fun (name, parameter) =>
        { stream, filter, name, type := parameter.type, value := parameter.value }

/-- The parameters that are meant, by stream, filter and name. -/
def select (tree : ParameterTree) (selector : Selector) : List ParameterInfo :=
  tree.infos.filter selector.matches

/-- How a tree is shown. -/
def describe (tree : ParameterTree) : String :=
  "ParameterStore \x7b streams: " ++ toString tree.streams.size ++ ", parameters: " ++
    toString tree.infos.length ++ " \x7d"

/-! ## Streams and filters -/

/-- Changes one filter, if it exists. -/
def modifyFilter (tree : ParameterTree) (stream : StreamId) (filter : String)
    (change : FilterEntry → FilterEntry) : ParameterTree :=
  { tree with streams := tree.streams.modify stream fun filters => filters.modify filter change }

/-- Changes one parameter, if it exists. -/
def modifyParameter (tree : ParameterTree) (stream : StreamId) (filter name : String)
    (change : Parameter → Parameter) : ParameterTree :=
  tree.modifyFilter stream filter fun entry =>
    { entry with parameters := entry.parameters.modify name change }

/-- Makes a stream known; one that is known stays as it is. -/
def addStream (tree : ParameterTree) (stream : StreamId) : ParameterTree :=
  if tree.streams.contains stream then tree
  else { tree with streams := tree.streams.insert stream .empty }

/-- Forgets a stream with everything in it. -/
def removeStream (tree : ParameterTree) (stream : StreamId) : ParameterTree :=
  { tree with streams := tree.streams.erase stream }

/-- Makes a filter of a stream known. -/
def addFilter (tree : ParameterTree) (stream : StreamId) (filter : String) :
    Except Fault ParameterTree := do
  let filters ← tree.filtersOf stream
  if filters.contains filter then .error (.duplicateFilter filter)
  else .ok { tree with streams := tree.streams.insert stream (filters.insert filter {}) }

/-- Marks a filter as started, or as not started. -/
def setStarted (tree : ParameterTree) (stream : StreamId) (filter : String) (started : Bool) :
    Except Fault ParameterTree := do
  let _ ← tree.filterAt stream filter
  return tree.modifyFilter stream filter fun entry => { entry with started }

/-! ## Parameters -/

/-- Refuses a value that may not be stored under the declared type. -/
def checkType (filter name : String) (declared : ValueType) (value : Value) : Except Fault Unit :=
  if value.fits declared then .ok ()
  else .error (.typeMismatch filter name declared value.type)

/-- Gives a filter a new parameter. -/
def create (tree : ParameterTree) (stream : StreamId) (filter name : String) (type : ValueType)
    (initial : Value) (setter : Option CodeRef) : Except Fault ParameterTree := do
  let entry ← tree.filterAt stream filter
  if entry.started then .error (.streamRunning stream)
  else if entry.parameters.contains name then .error (.parameterExists filter name)
  else
    checkType filter name type initial
    .ok (tree.modifyFilter stream filter fun entry =>
      { entry with parameters := entry.parameters.insert name { type, value := initial, setter } })

/-- Stores a new value and gives the subscriptions that are to be told. -/
def store (tree : ParameterTree) (stream : StreamId) (filter name : String) (value : Value) :
    Except Fault (List Subscription × ParameterTree) := do
  let parameter ← tree.parameterAt stream filter name
  checkType filter name parameter.type value
  return (parameter.subscriptions,
    tree.modifyParameter stream filter name fun parameter => { parameter with value })

/-! ## Subscriptions -/

/-- Subscribes a callback to the parameters of one filter that have one of the
names, in that order; gives the number of subscriptions made. -/
def subscribeAll (tree : ParameterTree) (stream : StreamId) (filter : String)
    (callback : Callback) (context : UserContext) (flags : SubscribeFlags) :
    List String → Nat × ParameterTree
  | [] => (0, tree)
  | name :: rest =>
    match tree.parameterAt stream filter name with
    | .error _ => tree.subscribeAll stream filter callback context flags rest
    | .ok parameter =>
      let (made, number, changed) := parameter.subscribe callback context flags tree.nextSubscription
      let tree := { tree.modifyParameter stream filter name fun _ => changed with
        nextSubscription := number }
      let (more, final) := tree.subscribeAll stream filter callback context flags rest
      (made + more, final)

/-- Subscribes a callback to one parameter that serves a type, or, without a
name, to every parameter of the filter that does. -/
def subscribe (tree : ParameterTree) (stream : StreamId) (filter : String) (name : Option String)
    (type : ValueType) (callback : Callback) (context : UserContext) (flags : SubscribeFlags) :
    Except Fault (Nat × ParameterTree) := do
  let entry ← tree.filterAt stream filter
  match name with
  | some name =>
    match entry.parameters.find? name with
    | none => .error (.unknownParameter filter name)
    | some parameter =>
      if parameter.type.accepts type then
        .ok (tree.subscribeAll stream filter callback context flags [name])
      else .error (.typeMismatch filter name parameter.type type)
  | none =>
    let names := (entry.parameters.entries.filter (·.2.type.accepts type)).map (·.1)
    .ok (tree.subscribeAll stream filter callback context flags names)

/-- Removes the subscriptions of a parameter that have one of the numbers. -/
def unsubscribe (tree : ParameterTree) (stream : StreamId) (filter name : String)
    (finished : List Nat) : ParameterTree :=
  tree.modifyParameter stream filter name fun parameter =>
    { parameter with
      subscriptions := parameter.subscriptions.filter fun subscription =>
        subscription.id ∉ finished }

/-- How many subscriptions the parameters of a stream have. -/
def subscriptionsOf (tree : ParameterTree) (stream : StreamId) : Nat :=
  match tree.streams.find? stream with
  | none => 0
  | some filters =>
    (filters.values.flatMap fun entry => entry.parameters.values.flatMap (·.subscriptions)).length

/-- Removes the subscriptions in a stream that do not stay when it stops, and
gives their number. -/
def dropUnkept (tree : ParameterTree) (stream : StreamId) : Nat × ParameterTree :=
  let after := { tree with
    streams := tree.streams.modify stream fun filters =>
      filters.mapValues fun _ entry =>
        { entry with parameters := entry.parameters.mapValues fun _ parameter => parameter.stopped } }
  (tree.subscriptionsOf stream - after.subscriptionsOf stream, after)

end ParameterTree

end StreamControl
