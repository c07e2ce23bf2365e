import StreamControl.Callback
import StreamControl.Event
import StreamControl.OrderedMap
import StreamControl.ParameterTree
import StreamControl.Telemetry

/-!
# The journal of a session

Everything that happens in a session is written down in order: what is told
to those who run the host (messages, spans, counts, events), what is done with
user code (queries accepted, calls begun and ended, calls left out, values
handed to subscribers), and every parameter tree there has been.
What an observer sees is read off the journal: `Journal.linesFrom` is the
messages and spans, `Journal.totals` the counters.  The rest of the journal
lets statements about a whole run be made at all.
-/

set_option autoImplicit false

namespace StreamControl

/-! ## Calls of user code -/

/-- Why a value is handed to a callback. -/
inductive Cause where
  /-- For the accepted query with this ticket. -/
  | query (ticket : Nat)
  /-- For the subscription with this number. -/
  | subscription (id : Nat)
  /-- For somebody outside, who has the value and the callback at hand. -/
  | direct
  deriving DecidableEq, Inhabited

/-- The functions of a filter. -/
inductive FilterFunction where
  /-- Called when the stream is attached. -/
  | construct
  /-- Called when the stream starts. -/
  | start
  /-- Called when the stream stops. -/
  | stop
  deriving DecidableEq, Repr, Inhabited

/-- The name of a filter function. -/
def FilterFunction.name : FilterFunction → String
  | .construct => "construct"
  | .start => "start"
  | .stop => "stop"

/-- A call of user code. -/
inductive Call where
  /-- A hook of the controller with this serial number, for a filter or for
  none. -/
  | hook (controller : Nat) (hook : Hook) (target : Option (StreamId × String))
  /-- A function of a filter. -/
  | filter (function : FilterFunction) (stream : StreamId) (filter : String)
  /-- A callback. -/
  | callback (cause : Cause) (callback : Callback) (delivery : Delivery)
  deriving DecidableEq

/-- How a call of user code ended. -/
inductive Exit where
  /-- With success: a status of zero, leave to proceed, or no refusal. -/
  | succeeded
  /-- With a failure: a status other than zero, a veto, or a refusal. -/
  | failed
  /-- With a panic. -/
  | panicked
  deriving DecidableEq, Repr

/-! ## Entries -/

/-- Something that happened. -/
inductive Entry where
  /-- A message was written. -/
  | message (level : Level) (text : String)
  /-- A span was opened. -/
  | opened (span : Span)
  /-- A counter was increased. -/
  | counted (metric : Metric) (first second : String)
  /-- An event was sent. -/
  | sent (event : Event)
  /-- The controller with this serial number took a step, as a whole or with
  one stream. -/
  | advanced (controller : Nat) (stream : Option StreamId) (origin target : Phase)
  /-- A query was accepted under a ticket. -/
  | accepted (ticket : Nat) (query : Query)
  /-- A call of user code began. -/
  | entered (call : Call)
  /-- A call of user code ended. -/
  | left (call : Call) (exit : Exit)
  /-- A callback was left out because it takes the wrong number of inputs. -/
  | skipped (cause : Cause) (callback : Callback) (delivery : Delivery)
  /-- A new value of a parameter begins to be handed to its subscribers. -/
  | pushing (stream : StreamId) (filter parameter : String)
  /-- All of them have had it, and the subscriptions that are over are gone. -/
  | pushed (stream : StreamId) (filter parameter : String)
  /-- The parameter tree became this one. -/
  | grown (tree : ParameterTree)
  deriving DecidableEq

/-- What an observer sees of the journal. -/
inductive Line where
  /-- A message at a level. -/
  | message (level : Level) (text : String)
  /-- A span. -/
  | span (span : Span)
  deriving DecidableEq

namespace Entry

/-- What an observer sees of one entry. -/
def line? : Entry → Option Line
  | message level text => some (.message level text)
  | opened span => some (.span span)
  | advanced _ _ _ _ => some (.message .trace "lifecycle transition")
  | _ => none

end Entry

/-- What has happened, in order. -/
abbrev Journal := Array Entry

namespace Journal

/-- The messages and spans from the entry with number `start` on. -/
def linesFrom (journal : Journal) (start : Nat) : List Line :=
  (journal.toList.drop start).filterMap Entry.line?

/-- How often each pair of labels was counted under a metric, in the order of
the labels. -/
def counts (journal : Journal) (metric : Metric) : OrderedMap String (OrderedMap String Nat) :=
  journal.toList.foldl
    (fun counts entry =>
      match entry with
      | .counted counted first second =>
        if counted = metric then
          let row := (counts.find? first).getD .empty
          counts.insert first (row.insert second ((row.find? second).getD 0 + 1))
        else counts
      | _ => counts)
    .empty

/-- Every counter that was increased: the metric, its two labels and the
count, in the order of the names and then of the labels. -/
def totals (journal : Journal) : List (Metric × String × String × Nat) :=
  Metric.all.flatMap fun metric =>
    (journal.counts metric).entries.flatMap fun row =>
      row.2.entries.map fun cell => (metric, row.1, cell.1, cell.2)

end Journal

end StreamControl
