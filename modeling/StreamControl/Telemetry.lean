import StreamControl.StreamId

/-!
# Levels, spans and metrics

A host tells those who run it what it does in three ways besides events: by
messages at a level, by spans around the start or stop of a stream and
around each hook, and by counters.  The configuration says which spans are
opened and at which level; messages and counters are always given.
-/

set_option autoImplicit false

namespace StreamControl

/-! ## Levels and spans -/

/-- How important a message or a span is. -/
inductive Level where
  /-- Something failed. -/
  | error
  /-- Something looks wrong. -/
  | warn
  /-- A step worth knowing about. -/
  | info
  /-- A detail of a step. -/
  | debug
  /-- The finest detail. -/
  | trace
  deriving DecidableEq, Repr, Inhabited

/-- The name of a level. -/
def Level.name : Level → String
  | .error => "ERROR"
  | .warn => "WARN"
  | .info => "INFO"
  | .debug => "DEBUG"
  | .trace => "TRACE"

/-- A span that was opened: its name, its level and what it is about. -/
structure Span where
  /-- The name of the span. -/
  name : String
  /-- The level of the span. -/
  level : Level
  /-- What the span is about, field by field. -/
  fields : List (String × String)
  deriving DecidableEq, Inhabited

namespace Span

/-- The span of a stream's start or stop. -/
def ofStream (level : Level) (stream : StreamId) (operation : String) : Span :=
  ⟨"stream", level, [("stream", stream.text), ("op", operation)]⟩

/-- The span of a controller's hook. -/
def ofHook (level : Level) (controller hook : String) : Span :=
  ⟨"controller", level, [("name", controller), ("hook", hook)]⟩

end Span

/-! ## Configuration -/

/-- Which spans a host opens. -/
structure SpanConfig where
  /-- Whether starts and stops of streams have spans. -/
  streamSpans : Bool := true
  /-- Whether hooks have spans. -/
  hookSpans : Bool := false
  /-- The level of the spans. -/
  level : Level := .info
  deriving DecidableEq, Inhabited

namespace SpanConfig

/-- Opens every span. -/
def all : SpanConfig := ⟨true, true, .debug⟩

/-- Opens no span. -/
def off : SpanConfig := ⟨false, false, .info⟩

/-- The span of a stream's start or stop, if such spans are opened. -/
def streamSpan? (config : SpanConfig) (stream : StreamId) (operation : String) : Option Span :=
  if config.streamSpans then some (.ofStream config.level stream operation) else none

/-- The span of a controller's hook, if such spans are opened. -/
def hookSpan? (config : SpanConfig) (controller hook : String) : Option Span :=
  if config.hookSpans then some (.ofHook config.level controller hook) else none

end SpanConfig

/-- How a host is set up. -/
structure Config where
  /-- How many events a reader may fall behind. -/
  eventCapacity : Nat := 256
  /-- How many bytes a controller name may have. -/
  maxNameLength : Nat := 128
  /-- Which spans are opened. -/
  spans : SpanConfig := {}
  deriving DecidableEq, Inhabited

namespace Config

/-- Every span opened. -/
def verbose : Config := { spans := .all }

/-- No span opened, and few events kept. -/
def quiet : Config := { eventCapacity := 16, spans := .off }

end Config

/-! ## Metrics -/

/-- What is counted. -/
inductive Metric where
  /-- Callbacks not called because they take the wrong number of inputs. -/
  | signatureMismatches
  /-- Callbacks that ran. -/
  | callbacksInvoked
  /-- Hooks that reported a failure. -/
  | hookFailures
  /-- Queries that were accepted. -/
  | queriesAccepted
  /-- Queries that were rejected. -/
  | queriesRejected
  deriving DecidableEq, Repr, Inhabited

namespace Metric

/-- Every metric, in the order of their names. -/
def all : List Metric :=
  [signatureMismatches, callbacksInvoked, hookFailures, queriesAccepted, queriesRejected]

/-- The name of a metric. -/
def name : Metric → String
  | signatureMismatches => "streamknob_callback_signature_mismatch"
  | callbacksInvoked => "streamknob_callbacks_invoked"
  | hookFailures => "streamknob_hook_failures"
  | queriesAccepted => "streamknob_queries_accepted"
  | queriesRejected => "streamknob_queries_rejected"

/-- What a metric counts, in words. -/
def description : Metric → String
  | signatureMismatches => "Parameter callbacks skipped because they do not take five inputs"
  | callbacksInvoked => "Parameter callbacks that ran"
  | hookFailures => "Controller hooks that returned a failure"
  | queriesAccepted => "Parameter queries accepted by a controller handle"
  | queriesRejected => "Parameter queries naming an unknown stream, filter or parameter"

/-- What a metric counts in. -/
def unit : Metric → String := fun _ => "count"

/-- What the two labels of a count say. -/
def labels : Metric → String × String
  | hookFailures => ("controller", "hook")
  | _ => ("filter", "parameter")

end Metric

end StreamControl
