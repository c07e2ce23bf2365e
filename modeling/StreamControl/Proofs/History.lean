import StreamControl.Host.Attach
import StreamControl.Host.Shutdown
import StreamControl.Proofs.Endings

/-!
# Histories of a host

What can be done to a host from outside, in what order it has been done, and
which hosts come of it.  An `Operation` is a call of the host, or something
that goes past it: a program that uses the handles to the session, or a
change of who reads the events.  A `History` is what has been done so far,
episode by episode, with the host that came of it.  `Leads` extends a history
by one permitted operation at a time, and `Reachable` says that a history
began with a new host.

Only a stream that no host has can be attached: a new one, one that was
detached, or one of these with a further filter or link (`History.Loose`).  An
operation whose user code never ends, since it nests deeper than the run allows
or a setter waits for itself, never ends either, and so nothing follows it.
-/

set_option autoImplicit false

namespace StreamControl

/-- Whether an action is exhausted. -/
def Ending.isExhausted {α : Type} : Ending α → Bool
  | .exhausted => true
  | _ => false

theorem Ending.isExhausted_iff {α : Type} {ending : Ending α} :
    ending.isExhausted = true ↔ ending = .exhausted := by
  cases ending <;> simp [isExhausted]

/-- That can be seen whatever it would have returned. -/
instance {α : Type} (ending : Ending α) : Decidable (ending = .exhausted) :=
  decidable_of_iff (ending.isExhausted = true) Ending.isExhausted_iff

/-- Whether an entry shows that a function of a filter has panicked. -/
def Entry.isAlarm : Entry → Bool
  | .left (.filter ..) .panicked => true
  | _ => false

namespace Host

variable {σ : Type}

/-! ## Operations -/

/-- Something that can be done to a host from outside. -/
inductive Operation (σ : Type) where
  /-- Attaches a stream. -/
  | addStream (graph : FilterGraph)
  /-- Detaches a stream. -/
  | removeStream (stream : StreamId)
  /-- Loads a controller. -/
  | load (path : String) (requested : Option String) (module : ControllerModule)
      (arguments : List String)
  /-- Unloads a controller. -/
  | unload (name : String)
  /-- Starts a stream. -/
  | start (stream : StreamId)
  /-- Stops a stream. -/
  | stop (stream : StreamId)
  /-- Shuts the host down. -/
  | shutdown
  /-- Drops the host. -/
  | drop
  /-- Asks a controller for help. -/
  | help (name : String)
  /-- Runs a program that uses handles to the session. -/
  | outside (program : Program σ Unit)
  /-- Reads events, or begins or ceases to. -/
  | listen (change : Broadcast Event → Broadcast Event)

namespace Operation

/-- What an operation gives. -/
def Answer : Operation σ → Type
  | addStream _ => StreamId
  | removeStream _ => FilterGraph
  | load _ _ _ _ => String
  | unload _ => Unit
  | start _ => StartReport
  | stop _ => StopReport
  | shutdown => Unit
  | drop => Unit
  | help _ => Option String
  | outside _ => Unit
  | listen _ => Unit

/-- Does an operation. -/
def perform (code : UserCode σ) : (operation : Operation σ) → Action (Host σ) operation.Answer
  | addStream graph => Host.addStream code graph
  | removeStream stream => Host.removeStream code stream
  | load path requested module arguments => Host.load code path requested module arguments
  | unload name => Host.unload code name
  | start stream => Host.start code stream
  | stop stream => Host.stop code stream
  | shutdown => Host.shutdown code
  | drop => Host.drop code
  | help name => Host.help code name
  | outside program => onSession (code.run program)
  | listen change => onSession (modify fun session =>
      { session with channel := change session.channel })

/-- Whether an operation needs a host that has not been dropped. -/
def needsHost : Operation σ → Bool
  | outside _ | listen _ => false
  | _ => true

end Operation

/-! ## Episodes -/

/-- An operation that was done, and what came of it. -/
structure Episode (σ : Type) where
  /-- The operation. -/
  operation : Operation σ
  /-- The host before. -/
  before : Host σ
  /-- How the operation ended. -/
  ending : Ending operation.Answer
  /-- The host afterwards. -/
  after : Host σ

namespace Episode

/-- The episode that an operation makes of a host. -/
def of (code : UserCode σ) (operation : Operation σ) (host : Host σ) : Episode σ :=
  { operation, before := host, ending := (operation.perform code host).1,
    after := (operation.perform code host).2 }

/-- The stream that was started, and the report, if that is what happened. -/
def started? : Episode σ → Option (StreamId × StartReport)
  | ⟨.start stream, _, .returned report, _⟩ => some (stream, report)
  | _ => none

/-- The stream whose start broke off, if that is what happened. -/
def brokenStart? : Episode σ → Option StreamId
  | ⟨.start stream, _, .panicked _, _⟩ => some stream
  | _ => none

/-- The stream that was detached, if that is what happened. -/
def detached? : Episode σ → Option FilterGraph
  | ⟨.removeStream _, _, .returned graph, _⟩ => some graph
  | _ => none

/-- What is shown of an operation in each way it may end is shown of the
episode. -/
theorem of_meets {code : UserCode σ} {operation : Operation σ} {host : Host σ}
    {motive : Episode σ → Prop}
    (meets : Action.Meets (operation.perform code) host
      (fun value after => motive ⟨operation, host, .returned value, after⟩)
      (fun fault after => motive ⟨operation, host, .refused fault, after⟩)
      (fun reason after => motive ⟨operation, host, .panicked reason, after⟩))
    (ends : (operation.perform code host).1 ≠ .exhausted) :
    motive (Episode.of code operation host) := by
  unfold Action.Meets at meets
  rw [Episode.of]
  split at meets <;> rename_i run <;> rw [run] at ends ⊢
  · exact meets
  · exact meets
  · exact meets
  · exact absurd rfl ends

end Episode

/-! ## Histories -/

/-- What has been done, oldest first, and the host that came of it. -/
structure History (σ : Type) where
  /-- What has been done. -/
  episodes : List (Episode σ)
  /-- The host. -/
  host : Host σ

namespace History

/-- A history with one more operation. -/
def extend (code : UserCode σ) (history : History σ) (operation : Operation σ) : History σ :=
  { episodes := history.episodes ++ [Episode.of code operation history.host]
    host := (operation.perform code history.host).2 }

/-- A stream that somebody has while no host has it. -/
inductive Loose (history : History σ) : FilterGraph → Prop where
  /-- A new stream. -/
  | new : Loose history .empty
  /-- A stream that was detached. -/
  | detached {episode : Episode σ} {graph : FilterGraph} (member : episode ∈ history.episodes)
      (detached : episode.detached? = some graph) : Loose history graph
  /-- A filter is added under a name. -/
  | add {graph grown : FilterGraph} {name : String} {code : Option CodeRef} {index : Nat}
      (loose : Loose history graph) (added : graph.add name code = .ok (index, grown)) :
      Loose history grown
  /-- A filter is added under a generated name. -/
  | addAuto {graph : FilterGraph} {code : Option CodeRef} (loose : Loose history graph) :
      Loose history (graph.addAuto code).2
  /-- Two filters are linked. -/
  | link {graph linked : FilterGraph} {source sink : Nat} (loose : Loose history graph)
      (made : graph.link source sink = .ok linked) : Loose history linked

/-- A filter may be added under a name that is free. -/
theorem Loose.append {history : History σ} {graph : FilterGraph} {name : String}
    {code : Option CodeRef} (loose : history.Loose graph)
    (free : (graph.find? name).isSome = false) : history.Loose (graph.append name code) :=
  loose.add (if_neg (Bool.eq_false_iff.mp free))

/-- Whether an operation can be done. -/
structure Permits (history : History σ) (operation : Operation σ) : Prop where
  /-- The host is there if it is needed. -/
  isOpen : operation.needsHost = true → history.host.session.isOpen = true
  /-- A stream that is attached is in nobody else's hands. -/
  loose : ∀ graph, operation = .addStream graph → history.Loose graph

/-- One history leads to another by permitted operations. -/
inductive Leads (code : UserCode σ) (origin : History σ) : History σ → Prop where
  /-- Nothing is done. -/
  | refl : Leads code origin origin
  /-- One more operation is done, and ends. -/
  | step {history : History σ} (operation : Operation σ) (leads : Leads code origin history)
      (permits : history.Permits operation)
      (ends : (operation.perform code history.host).1 ≠ .exhausted) :
      Leads code origin (history.extend code operation)

/-- A history that began with a new host. -/
def Reachable (code : UserCode σ) (history : History σ) : Prop :=
  ∃ (config : Config) (memory : σ) (host : Host σ),
    Host.create config memory = .ok host ∧ Leads code { episodes := [], host } history

variable {code : UserCode σ} {history : History σ}

theorem Leads.trans {origin later : History σ} (first : Leads code origin history)
    (second : Leads code history later) : Leads code origin later := by
  induction second with
  | refl => exact first
  | step operation _ permits ends ih => exact .step operation ih permits ends

theorem Reachable.leads {later : History σ} (reachable : Reachable code history)
    (leads : Leads code history later) : Reachable code later := by
  obtain ⟨config, memory, host, created, first⟩ := reachable
  exact ⟨config, memory, host, created, first.trans leads⟩

/-- A new host, unless there cannot be one. -/
theorem eq_of_create {config : Config} {memory : σ} {host : Host σ}
    (created : Host.create config memory = .ok host) :
    ∃ channel, host = onChannel channel config memory := by
  simp only [Host.create, bind, Except.bind] at created
  split at created
  · cases created
  · cases created
    exact ⟨_, rfl⟩

/-- **Induction over what is reachable**: what holds of new hosts and is
preserved by every operation that can be done holds throughout. -/
theorem Reachable.induction {motive : History σ → Prop}
    (new : ∀ channel config memory, motive { episodes := [], host := onChannel channel config memory })
    (step : ∀ (history : History σ) (operation : Operation σ), Reachable code history →
      motive history → history.Permits operation →
        (operation.perform code history.host).1 ≠ .exhausted →
          motive (history.extend code operation))
    (reachable : Reachable code history) : motive history := by
  obtain ⟨config, memory, host, created, leads⟩ := reachable
  induction leads with
  | refl =>
    obtain ⟨channel, rfl⟩ := eq_of_create created
    exact new channel config memory
  | step operation leads permits ends ih =>
    exact step _ operation ⟨config, memory, host, created, leads⟩ ih permits ends

/-! ## Looking back -/

/-- The last start of a stream: the host before it and its report. -/
def lastStart? (history : History σ) (stream : StreamId) : Option (Host σ × StartReport) :=
  history.episodes.reverse.findSome? fun episode =>
    match episode.started? with
    | some (other, report) => if other = stream then some (episode.before, report) else none
    | none => none

/-- Whether the controller with a serial number was loaded when a stream was
last started. -/
def SawLastStart (history : History σ) (serial : Nat) (stream : StreamId) : Prop :=
  ∃ before report, history.lastStart? stream = some (before, report) ∧
    serial ∈ before.controllers.map (·.serial)

instance (history : History σ) (serial : Nat) (stream : StreamId) :
    Decidable (history.SawLastStart serial stream) :=
  decidable_of_iff (∃ start ∈ (history.lastStart? stream).toList,
      serial ∈ start.1.controllers.map (·.serial)) (by
    simp only [SawLastStart, Option.mem_toList, Prod.exists])

theorem lastStart?_extend (operation : Operation σ) (stream : StreamId) :
    (history.extend code operation).lastStart? stream =
      match (Episode.of code operation history.host).started? with
      | some (other, report) =>
        if other = stream then some (history.host, report) else history.lastStart? stream
      | none => history.lastStart? stream := by
  simp only [lastStart?, extend, List.reverse_append, List.reverse_cons, List.reverse_nil,
    List.nil_append, List.singleton_append, List.findSome?_cons]
  cases (Episode.of code operation history.host).started? with
  | none => rfl
  | some found =>
    obtain ⟨other, report⟩ := found
    by_cases same : other = stream <;> simp [same, Episode.of]

end History

/-! ## Panics of filter functions -/

/-- Whether no function of a filter has panicked so far. -/
def Calm (host : Host σ) : Prop := ∀ entry ∈ host.session.journal.toList, entry.isAlarm = false

instance (host : Host σ) : Decidable host.Calm :=
  inferInstanceAs (Decidable (∀ entry ∈ host.session.journal.toList, entry.isAlarm = false))

/-- Whether a stream is attached and runs. -/
def Runs (host : Host σ) (stream : StreamId) : Prop :=
  ∃ graph, host.stream? stream = some graph ∧ graph.flow = .running

instance (host : Host σ) (stream : StreamId) : Decidable (host.Runs stream) :=
  decidable_of_iff ((host.stream? stream).map (·.flow) = some .running) Option.map_eq_some_iff

/-! ## Code that does nothing -/

/-- User code that does nothing and always succeeds. -/
def idleCode : UserCode Unit where
  callback _ _ := .done 0
  construct _ _ := .done .ok
  help _ := .done ""
  preStart _ _ := .done .proceed
  filterHook _ _ _ := .done .ok
  destroy _ := .done .ok
  filter _ _ _ := .done (.ok ())
  setter _ _ _ := .done none
  nesting := 1

/-- A new host with nothing in the memory of user code. -/
def freshHost : Host Unit := onChannel { room := 1 } { eventCapacity := 1 } ()

theorem create_smallest (memory : σ) : Host.create { eventCapacity := 1 } memory =
    .ok (onChannel { room := 1 } { eventCapacity := 1 } memory) := by
  have room : Broadcast.roomFor 1 = 1 := by
    decide +kernel
  simp [Host.create, Broadcast.create, room, Broadcast.wordLimit, Broadcast.slotBytes, bind,
    Except.bind, pure, Except.pure]

theorem create_freshHost : Host.create { eventCapacity := 1 } () = .ok freshHost :=
  create_smallest ()

/-- What comes of doing some operations in order. -/
def History.after (code : UserCode σ) (history : History σ) (operations : List (Operation σ)) :
    History σ := operations.foldl (History.extend code) history

/-- Whether some operations can be done one after another, and end. -/
def History.Allows (code : UserCode σ) : History σ → List (Operation σ) → Prop
  | _, [] => True
  | history, operation :: rest =>
    (history.Permits operation ∧ (operation.perform code history.host).1 ≠ .exhausted) ∧
      (history.extend code operation).Allows code rest

theorem History.leads_after {code : UserCode σ} (operations : List (Operation σ))
    {history : History σ} (allows : history.Allows code operations) :
    History.Leads code history (history.after code operations) := by
  induction operations generalizing history with
  | nil => exact .refl
  | cons operation rest ih =>
    obtain ⟨⟨permits, ends⟩, allowsRest⟩ := allows
    exact (History.Leads.step operation .refl permits ends).trans (ih allowsRest)

end Host

end StreamControl
