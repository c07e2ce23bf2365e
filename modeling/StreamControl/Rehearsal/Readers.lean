import StreamControl.Rehearsal.Memory

/-!
# Readers of events

A rehearsal reads events through readers it has given names to.  A reader is
either a receiver, which is read in several ways, or an event stream, which is
only ever asked for the next event; the two kinds have names of their own.

`ChannelStage` is a channel without a host, to which a rehearsal sends events
itself.
-/

set_option autoImplicit false

namespace StreamControl.Rehearsal

/-- The named readers of a rehearsal. -/
structure Readers where
  /-- The receivers. -/
  receivers : OrderedMap String ReaderId := .empty
  /-- The event streams. -/
  streams : OrderedMap String EventStream := .empty
  deriving Inhabited

/-- Something done with a reader. -/
inductive ReaderStep where
  /-- Makes a receiver, in place of one of that name. -/
  | subscribe (name : String)
  /-- Makes an event stream, in place of one of that name. -/
  | stream (name : String)
  /-- Drops the receiver and the event stream of a name. -/
  | drop (name : String)
  /-- Receives every event there is. -/
  | drain (name : String)
  /-- Receives the next event, if there is one. -/
  | tryReceive (name : String)
  /-- Waits for the next event. -/
  | receive (name : String)
  /-- Waits for an event of a kind, passing over some of that kind. -/
  | waitFor (name : String) (wanted : Event → Bool) (skip : Nat)
  /-- Asks an event stream for the next event. -/
  | poll (name : String)

/-- Whether a step changes which readers there are; a rehearsal does that only
while it has a host. -/
def ReaderStep.needsHost : ReaderStep → Bool
  | .subscribe _ | .stream _ | .drop _ => true
  | _ => false

/-- What waiting for an event is answered with. -/
def Reply.ofAwaited : Awaited Event → Reply
  | .ready content => .event content
  | .pending => .pending
  | .closed => .nothing

/-- Waits for an event of a kind, passing over `skip` of that kind; the flag
says whether some events were missed. -/
def awaitAfter (wanted : Event → Bool) (reader : ReaderId) :
    Nat → Broadcast Event → Awaited Event × Bool × Broadcast Event
  | 0, channel => channel.awaitFirst reader wanted
  | skip + 1, channel =>
    match channel.awaitFirst reader wanted with
    | (.ready _, lagged, after) =>
      let (found, laggedLater, final) := awaitAfter wanted reader skip after
      (found, lagged || laggedLater, final)
    | other => other

/-- What came of a step with a reader. -/
structure ReaderResult where
  /-- The answer. -/
  reply : Reply
  /-- Whether a reader that was waited for had missed events. -/
  lagged : Bool := false
  /-- The readers afterwards. -/
  readers : Readers
  /-- The channel afterwards. -/
  channel : Broadcast Event

namespace Readers

/-- Drops a reader from a channel, if there is one. -/
def unsubscribe? (channel : Broadcast Event) : Option ReaderId → Broadcast Event
  | some reader => channel.unsubscribe reader
  | none => channel

/-- Drops an event stream from a channel, if there is one. -/
def dropStream? (channel : Broadcast Event) : Option EventStream → Broadcast Event
  | some stream => stream.drop channel
  | none => channel

/-- Does something with a receiver. -/
def withReceiver (readers : Readers) (channel : Broadcast Event) (name : String)
    (use : ReaderId → Reply × Bool × Broadcast Event) : ReaderResult :=
  match readers.receivers.find? name with
  | some reader =>
    let (reply, lagged, channel) := use reader
    { reply, lagged, readers, channel }
  | none => { reply := .noReceiver, readers, channel }

/-- Does a step with a reader. -/
def perform (readers : Readers) (channel : Broadcast Event) : ReaderStep → ReaderResult
  | .subscribe name =>
    if channel.isOpen then
      let (reader, channel) := channel.subscribe
      { reply := .done
        readers := { readers with receivers := readers.receivers.insert name reader }
        channel := unsubscribe? channel (readers.receivers.find? name) }
    else { reply := .noReceiver, readers, channel }
  | .stream name =>
    if channel.isOpen then
      let (stream, channel) := channel.stream
      { reply := .done
        readers := { readers with streams := readers.streams.insert name stream }
        channel := dropStream? channel (readers.streams.find? name) }
    else { reply := .noReceiver, readers, channel }
  | .drop name =>
    { reply := .flag (readers.receivers.contains name || readers.streams.contains name)
      readers :=
        { receivers := readers.receivers.erase name, streams := readers.streams.erase name }
      channel := dropStream? (unsubscribe? channel (readers.receivers.find? name))
        (readers.streams.find? name) }
  | .drain name => readers.withReceiver channel name fun reader =>
    let (events, after) := channel.drain reader
    (.events events, false, after)
  | .tryReceive name => readers.withReceiver channel name fun reader =>
    match channel.tryReceive reader with
    | (some event, after) => (.event event, false, after)
    | (none, after) => (.nothing, false, after)
  | .receive name => readers.withReceiver channel name fun reader =>
    let (found, lagged, after) := channel.await reader
    (.ofAwaited found, lagged, after)
  | .waitFor name wanted skip => readers.withReceiver channel name fun reader =>
    let (found, lagged, after) := awaitAfter wanted reader skip channel
    (.ofAwaited found, lagged, after)
  | .poll name =>
    match readers.streams.find? name with
    | some stream =>
      let (found, lagged, stream, channel) := stream.pollNext channel
      { reply := .ofAwaited found
        lagged
        readers := { readers with streams := readers.streams.insert name stream }
        channel }
    | none => { reply := .noEventStream, readers, channel }

end Readers

/-! ## A channel without a host -/

/-- A channel and its named readers. -/
structure ChannelStage where
  /-- The channel. -/
  channel : Broadcast Event
  /-- Its readers. -/
  readers : Readers := {}

/-- Something done with a channel. -/
inductive ChannelStep where
  /-- Sends an event so many times. -/
  | send (event : Event) (times : Nat)
  /-- Sends so many events, one for each stream from a number on. -/
  | burst (first count : Nat)
  /-- Describes the sender. -/
  | describe
  /-- Drops the sender. -/
  | close
  /-- Does something with a reader. -/
  | reader (step : ReaderStep)

/-- Sends events in order; gives how many readers found the last. -/
def sendAll (channel : Broadcast Event) : List Event → Option Nat × Broadcast Event
  | [] => (none, channel)
  | event :: rest =>
    let (count, after) := channel.send event
    match sendAll after rest with
    | (none, final) => (some count, final)
    | other => other

/-- The events of a burst. -/
def burstEvents (first count : Nat) : List Event :=
  (List.range' first count).map fun number => .streamStarted ⟨UInt32.ofNat number⟩

namespace ChannelStage

/-- Does something as the sender, if there still is one. -/
def asSender (stage : ChannelStage) (use : Broadcast Event → Reply × Broadcast Event) :
    Reply × ChannelStage :=
  if stage.channel.isOpen then
    let (reply, channel) := use stage.channel
    (reply, { stage with channel })
  else (.noReceiver, stage)

/-- Does a step with a channel. -/
def perform (stage : ChannelStage) : ChannelStep → Reply × ChannelStage
  | .send event times => stage.asSender fun channel =>
    match sendAll channel (List.replicate times event) with
    | (some count, after) => (.number count, after)
    | (none, after) => (.nothing, after)
  | .burst first count => stage.asSender fun channel =>
    (.done, (sendAll channel (burstEvents first count)).2)
  | .describe => stage.asSender fun channel => (.text channel.describe, channel)
  | .close => (.done, { stage with channel := stage.channel.close })
  | .reader step =>
    let result := stage.readers.perform stage.channel step
    (result.reply, { channel := result.channel, readers := result.readers })

/-- Does steps in order; gives the answers. -/
def performAll (stage : ChannelStage) : List ChannelStep → List Reply
  | [] => []
  | step :: rest =>
    let (reply, after) := stage.perform step
    reply :: after.performAll rest

end ChannelStage

/-- Does steps with a channel of a capacity, if there can be one; gives the
answers. -/
def useChannel (capacity : Nat) (steps : List ChannelStep) :
    Except CapacityProblem (List Reply) := do
  return ChannelStage.performAll { channel := ← Broadcast.create capacity } steps

end StreamControl.Rehearsal
