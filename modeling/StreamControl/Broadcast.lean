/-!
# Broadcast channels

One sender, any number of readers, and a ring of the newest items.  An item
sent while somebody reads is numbered, in order; one sent while nobody reads
is not kept at all.  A reader has a position, the number of the next item it
wants; it begins at the item after the newest and moves on by one with each
item it is given.  Only as many of the newest items can be read as the ring
has room for (`Broadcast.room`), so a reader that falls too far behind finds
its item gone: it is told how many it has missed and moves on to the oldest
item there is (`Broadcast.oldest`).

After the sender has closed the channel a reader is given what is still
there, and then told that nothing more will come.

A reader can be read directly, or be given away to an event stream.  That is
asked for an item by being polled, and has nobody to wait for it in between: so
the receive that is under way owns the reader, and lives on from poll to poll
until it is over (`Receiving`, `EventStream`).

A ring has room for the next power of two, which for a very large capacity is
more than can be made (`CapacityProblem`).
-/

set_option autoImplicit false

namespace StreamControl

/-- Stands for a reader of a channel. -/
abbrev ReaderId := Nat

/-- A broadcast channel. -/
structure Broadcast (ε : Type) where
  /-- How many of the newest items can be read. -/
  room : Nat
  /-- The items so far, by number. -/
  items : Array ε := #[]
  /-- The readers, with the number of the item each wants next. -/
  readers : List (ReaderId × Nat) := []
  /-- The next reader's name. -/
  nextReader : ReaderId := 0
  /-- Whether the sender may still send. -/
  isOpen : Bool := true
  deriving Inhabited

/-- What a reader finds when it looks once. -/
inductive Reception (ε : Type) where
  /-- The next item. -/
  | item (content : ε)
  /-- So many items were missed; the reader has moved on to the oldest there is. -/
  | lagged (missed : Nat)
  /-- Nothing yet. -/
  | empty
  /-- Nothing, and nothing will come. -/
  | closed
  deriving DecidableEq

/-- What waiting for an item comes to when nothing else happens meanwhile. -/
inductive Awaited (ε : Type) where
  /-- The item. -/
  | ready (content : ε)
  /-- Nothing yet. -/
  | pending
  /-- Nothing, and nothing will come. -/
  | closed
  deriving DecidableEq

/-- A receive that is under way.  It owns its reader until it is over. -/
structure Receiving where
  /-- The reader. -/
  reader : ReaderId

/-- What polling a receive comes to. -/
inductive Polled (ε : Type) where
  /-- There is nothing yet: the receive goes on, and keeps its reader. -/
  | pending (goingOn : Receiving)
  /-- The receive is over, with the next item unless nothing will come, and its
  reader is given back. -/
  | ready (found : Option ε) (reader : ReaderId)

/-- A stream of the items of a channel. -/
structure EventStream where
  /-- The receive that is under way; there always is one. -/
  next : Receiving

/-! ## Capacities -/

/-- Why a channel of some capacity cannot be made. -/
inductive CapacityProblem where
  /-- The capacity is more than a signed machine word can say. -/
  | tooMany
  /-- The ring takes more bytes than a signed machine word can say. -/
  | tooLarge
  deriving DecidableEq, Repr

/-- What is said of a capacity problem. -/
def CapacityProblem.message : CapacityProblem → String
  | .tooMany => "broadcast channel capacity exceeded `usize::MAX / 2`"
  | .tooLarge => "capacity overflow"

namespace Broadcast

variable {ε : Type}

/-- How many items can be read when at least `capacity` are wanted: the next
power of two, and one at least. -/
def roomFor (capacity : Nat) : Nat := (max 1 capacity).nextPowerOfTwo

/-- How many bytes an item takes in the ring. -/
def slotBytes : Nat := 104

/-- One more than the largest signed machine word. -/
def wordLimit : Nat := Nat.pow 2 63

/-- Makes a channel on which at least `capacity` items can be read. -/
def create (capacity : Nat) : Except CapacityProblem (Broadcast ε) :=
  if wordLimit ≤ capacity then .error .tooMany
  else if wordLimit ≤ roomFor capacity * slotBytes then .error .tooLarge
  else .ok { room := roomFor capacity }

/-- A new channel is empty, open, and without readers. -/
theorem eq_of_create {capacity : Nat} {channel : Broadcast ε}
    (h : create capacity = .ok channel) : channel = { room := roomFor capacity } := by
  unfold create at h
  split at h
  · cases h
  · split at h
    · cases h
    · cases h
      rfl

/-! ## The sender's side -/

/-- How many readers there are. -/
def readerCount (channel : Broadcast ε) : Nat := channel.readers.length

/-- Sends an item and gives the number of readers who will find it. -/
def send (channel : Broadcast ε) (item : ε) : Nat × Broadcast ε :=
  if channel.readers = [] then (0, channel)
  else (channel.readerCount, { channel with items := channel.items.push item })

theorem fst_send (channel : Broadcast ε) (item : ε) :
    (channel.send item).1 = channel.readerCount := by
  unfold send readerCount
  split <;> simp_all

/-- Adds a reader who will find what is sent from now on. -/
def subscribe (channel : Broadcast ε) : ReaderId × Broadcast ε :=
  (channel.nextReader,
    { channel with
      readers := channel.readers ++ [(channel.nextReader, channel.items.size)]
      nextReader := channel.nextReader + 1 })

@[simp] theorem readerCount_subscribe (channel : Broadcast ε) :
    channel.subscribe.2.readerCount = channel.readerCount + 1 := by
  simp [subscribe, readerCount]

/-- Closes the channel: nothing more will be sent. -/
def close (channel : Broadcast ε) : Broadcast ε := { channel with isOpen := false }

/-- How the sender is shown. -/
def describe (channel : Broadcast ε) : String :=
  "ControlEventSender \x7b receivers: " ++ toString channel.readerCount ++ " \x7d"

/-! ## A reader's side -/

/-- The number of the item a reader wants next. -/
def position? (channel : Broadcast ε) (reader : ReaderId) : Option Nat :=
  channel.readers.lookup reader

/-- The number of the oldest item that can be read. -/
def oldest (channel : Broadcast ε) : Nat := channel.items.size - channel.room

/-- No more items can be read than there is room for. -/
theorem size_sub_oldest_le (channel : Broadcast ε) :
    channel.items.size - channel.oldest ≤ channel.room := by
  unfold oldest
  omega

/-- Moves a reader to an item. -/
def moveTo (channel : Broadcast ε) (reader : ReaderId) (number : Nat) : Broadcast ε :=
  { channel with
    readers := channel.readers.map fun entry =>
      if entry.1 = reader then (reader, number) else entry }

/-- Drops a reader. -/
def unsubscribe (channel : Broadcast ε) (reader : ReaderId) : Broadcast ε :=
  { channel with readers := channel.readers.filter fun entry => entry.1 ≠ reader }

/-- Lets a reader look once. -/
def receive (channel : Broadcast ε) (reader : ReaderId) : Reception ε × Broadcast ε :=
  match channel.position? reader with
  | none => (.closed, channel)
  | some number =>
    if number < channel.oldest then
      (.lagged (channel.oldest - number), channel.moveTo reader channel.oldest)
    else
      match channel.items[number]? with
      | some item => (.item item, channel.moveTo reader (number + 1))
      | none => (if channel.isOpen then .empty else .closed, channel)

/-- Lets a reader look again after it was told what it has missed; the flag
says whether it was. -/
def receivePastLag (channel : Broadcast ε) (reader : ReaderId) :
    Reception ε × Bool × Broadcast ε :=
  match channel.receive reader with
  | (.lagged _, moved) =>
    let (found, after) := moved.receive reader
    (found, true, after)
  | (found, after) => (found, false, after)

/-- The next item, if there is one now. -/
def tryReceive (channel : Broadcast ε) (reader : ReaderId) : Option ε × Broadcast ε :=
  match channel.receivePastLag reader with
  | (.item item, _, after) => (some item, after)
  | (_, _, after) => (none, after)

/-- Waits for the next item; the flag says whether some were missed. -/
def await (channel : Broadcast ε) (reader : ReaderId) : Awaited ε × Bool × Broadcast ε :=
  match channel.receivePastLag reader with
  | (.item item, lagged, after) => (.ready item, lagged, after)
  | (.closed, lagged, after) => (.closed, lagged, after)
  | (_, lagged, after) => (.pending, lagged, after)

/-- How many items a reader has not been given, whether or not it still can. -/
def backlog (channel : Broadcast ε) (reader : ReaderId) : Nat :=
  match channel.position? reader with
  | none => 0
  | some number => channel.items.size - number

/-- Every item there is now, up to `limit` of them. -/
def drainUpTo : Nat → Broadcast ε → ReaderId → List ε × Broadcast ε
  | 0, channel, _ => ([], channel)
  | limit + 1, channel, reader =>
    match channel.tryReceive reader with
    | (some item, after) =>
      let (items, final) := drainUpTo limit after reader
      (item :: items, final)
    | (none, after) => ([], after)

/-- Every item there is now. -/
def drain (channel : Broadcast ε) (reader : ReaderId) : List ε × Broadcast ε :=
  drainUpTo (channel.backlog reader + 1) channel reader

/-- Waits for an item that `wanted` holds of, among the next `limit`; the
items before it are used up. -/
def awaitAmong (wanted : ε → Bool) :
    Nat → Broadcast ε → ReaderId → Awaited ε × Bool × Broadcast ε
  | 0, channel, _ => (.pending, false, channel)
  | limit + 1, channel, reader =>
    match channel.await reader with
    | (.ready item, lagged, after) =>
      if wanted item then (.ready item, lagged, after)
      else
        let (found, laggedLater, final) := awaitAmong wanted limit after reader
        (found, lagged || laggedLater, final)
    | (other, lagged, after) => (other, lagged, after)

/-- Waits for the first item that `wanted` holds of; the items before it are
used up. -/
def awaitFirst (channel : Broadcast ε) (reader : ReaderId) (wanted : ε → Bool) :
    Awaited ε × Bool × Broadcast ε :=
  awaitAmong wanted (channel.backlog reader + 1) channel reader

end Broadcast

/-! ## Event streams -/

/-- Begins to receive the next item with a reader that is given away. -/
def Receiving.start (reader : ReaderId) : Receiving := { reader }

/-- Polls a receive; the flag says whether some items were missed.  A receive
that is over is gone, so that nobody can poll it again. -/
def Receiving.poll {ε : Type} (receiving : Receiving) (channel : Broadcast ε) :
    Polled ε × Bool × Broadcast ε :=
  match channel.await receiving.reader with
  | (.ready item, lagged, after) => (.ready (some item) receiving.reader, lagged, after)
  | (.closed, lagged, after) => (.ready none receiving.reader, lagged, after)
  | (.pending, lagged, after) => (.pending receiving, lagged, after)

namespace EventStream

/-- The event stream that a reader is given away to. -/
def ofReader (reader : ReaderId) : EventStream := { next := .start reader }

/-- Asks for the next item; the flag says whether some were missed.  When the
receive is over the next one begins, with the reader that it gives back. -/
def pollNext {ε : Type} (stream : EventStream) (channel : Broadcast ε) :
    Awaited ε × Bool × EventStream × Broadcast ε :=
  match stream.next.poll channel with
  | (.pending goingOn, lagged, after) => (.pending, lagged, { next := goingOn }, after)
  | (.ready (some item) reader, lagged, after) => (.ready item, lagged, .ofReader reader, after)
  | (.ready none reader, lagged, after) => (.closed, lagged, .ofReader reader, after)

/-- Drops an event stream, and so the reader that its receive owns. -/
def drop {ε : Type} (stream : EventStream) (channel : Broadcast ε) : Broadcast ε :=
  channel.unsubscribe stream.next.reader

end EventStream

/-- Adds a reader who will find what is sent from now on, and gives it away to an
event stream. -/
def Broadcast.stream {ε : Type} (channel : Broadcast ε) : EventStream × Broadcast ε :=
  (.ofReader channel.subscribe.1, channel.subscribe.2)

end StreamControl
