import Mathlib.Data.List.Infix
import StreamControl.Proofs.Ledger
import StreamControl.Proofs.Reception

/-!
# What a reader is given in the long run

Items are sent, readers come, read and go, and the sender closes the channel,
in any order (`Broadcast.Move`).  Of all that, only what is sent, that the
channel is closed, and its own readings matter to a reader
(`Broadcast.Move.happening?`).

The reference is a queue that one reader has for itself (`Broadcast.Feed`): what
is sent is put at its end, and at a reading the reader first loses what is older
than the newest items that there is room for, and is then given a beginning of
the rest.  A reader of a channel is answered as one of such a queue
(`given_eq`).  So it makes no difference to a reader what others do, and two
readers to whom the same things happen get the same answers (`given_congr`).

Counted over a whole run, the items that a reader receives are those sent since
it subscribed, in order and once each, but for those that it lost at a reading
(`exists_tally`).

An event stream is polled while others make moves (`Broadcast.Turn`).  At each poll it
leaves the channel as its reader would that waits (`EventStream.foldl_step`).  Nobody
else has the reader that its receives hand on to each other (`EventStream.Owns`), and so
the event stream yields what that reader would be answered (`EventStream.yielded_eq`).
-/

set_option autoImplicit false

namespace StreamControl

/-! ## Collecting along a run -/

section Along

variable {σ μ β : Type} {step : σ → μ → σ} {look : σ → μ → List β}

/-- What is seen in the course of a run, move by move. -/
def along (step : σ → μ → σ) (look : σ → μ → List β) : σ → List μ → List β
  | _, [] => []
  | state, move :: rest => look state move ++ along step look (step state move) rest

theorem along_append (state : σ) (first second : List μ) :
    along step look state (first ++ second) =
      along step look state first ++ along step look (first.foldl step state) second := by
  induction first generalizing state with
  | nil => rfl
  | cons move rest ih =>
    rw [List.cons_append, along, along, ih, List.append_assoc, List.foldl_cons]

end Along

namespace Broadcast

variable {ε : Type} {channel : Broadcast ε} {reader other : ReaderId} {number : Nat}

/-! ## Moves -/

/-- Something done with a channel. -/
inductive Move (ε : Type) where
  /-- An item is sent, if the channel is open. -/
  | send (item : ε)
  /-- A reader is added, if the channel is open. -/
  | subscribe
  /-- A reader is dropped. -/
  | unsubscribe (reader : ReaderId)
  /-- The sender closes the channel. -/
  | close
  /-- A reader reads. -/
  | read (reader : ReaderId) (reading : Reading ε)

/-- The channel after a move. -/
def step (channel : Broadcast ε) : Move ε → Broadcast ε
  | .send item => if channel.isOpen then (channel.send item).2 else channel
  | .subscribe => if channel.isOpen then channel.subscribe.2 else channel
  | .unsubscribe reader => channel.unsubscribe reader
  | .close => channel.close
  | .read reader reading => (reading.ask channel reader).2

/-- The channel after some moves. -/
def run (channel : Broadcast ε) (moves : List (Move ε)) : Broadcast ε := moves.foldl step channel

/-- The item that is sent in a move. -/
def sentIn (channel : Broadcast ε) : Move ε → List ε
  | .send item => if channel.isOpen then [item] else []
  | _ => []

/-- What a reader is given at a reading. -/
structure Given (ε : Type) where
  /-- The answer. -/
  answer : Answer ε
  /-- The items that are received. -/
  items : List ε
  deriving DecidableEq

/-- An answer that there is nothing and will be nothing. -/
def Answer.IsEnd : Answer ε → Prop
  | .tried found => found = none
  | .awaited found => found = .closed
  | .drained items => items = []

/-- What a reader is given in a move. -/
def givenIn (reader : ReaderId) (channel : Broadcast ε) : Move ε → List (Given ε)
  | .read other reading =>
    if other = reader then
      [{ answer := (reading.ask channel reader).1, items := reading.received channel reader }]
    else []
  | _ => []

/-- The items that are sent in the course of some moves. -/
def sent : Broadcast ε → List (Move ε) → List ε := along step sentIn

/-- What a reader is given in the course of some moves. -/
def given (reader : ReaderId) (channel : Broadcast ε) (moves : List (Move ε)) : List (Given ε) :=
  along step (givenIn reader) channel moves

/-- The items that a reader receives in the course of some moves. -/
def received (reader : ReaderId) (channel : Broadcast ε) (moves : List (Move ε)) : List ε :=
  (given reader channel moves).flatMap (·.items)

theorem run_concat (channel : Broadcast ε) (moves : List (Move ε)) (move : Move ε) :
    channel.run (moves ++ [move]) = (channel.run moves).step move := by
  rw [run, List.foldl_append]
  rfl

/-- A reader that is there keeps others from being nobody. -/
theorem send_of_present (present : channel.position? reader = some number) (item : ε) :
    (channel.send item).2 = { channel with items := channel.items.push item } := by
  rw [send, if_neg (readers_ne_nil present)]

/-! ## Moves keep the channel in order -/

theorem tidy_of_create {capacity : Nat} (made : create capacity = .ok channel) : channel.Tidy := by
  rw [eq_of_create made]
  exact ⟨Nat.pos_of_isPowerOfTwo (Nat.isPowerOfTwo_nextPowerOfTwo _), nofun, nofun⟩

theorem Tidy.subscribe (tidy : channel.Tidy) : channel.subscribe.2.Tidy := by
  refine ⟨tidy.room, fun here => ?_, fun here => ?_⟩
  all_goals
    rw [position?_subscribe, Option.or_eq_some_iff] at here
    rcases here with old | ⟨-, new⟩
  · exact Nat.lt_succ_of_lt (tidy.named old)
  · split at new
    · rename_i same
      exact same ▸ Nat.lt_succ_self _
    · cases new
  · exact tidy.within old
  · split at new
    · exact Nat.le_of_eq (Option.some.inj new).symm
    · cases new

theorem Tidy.step (tidy : channel.Tidy) (move : Move ε) : (channel.step move).Tidy := by
  cases move with
  | send item =>
    rw [Broadcast.step]
    split
    · by_cases nobody : channel.readers = []
      · rw [send, if_pos nobody]
        exact tidy
      · rw [send, if_neg nobody]
        refine ⟨tidy.room, tidy.named, fun here => ?_⟩
        rw [Array.size_push]
        exact Nat.le_succ_of_le (tidy.within here)
    · exact tidy
  | subscribe =>
    rw [Broadcast.step]
    split
    · exact tidy.subscribe
    · exact tidy
  | unsubscribe other =>
    have old {reader number} (here : (channel.unsubscribe other).position? reader = some number) :
        channel.position? reader = some number := by
      by_cases same : reader = other
      · rw [same, position?_unsubscribe_self] at here
        cases here
      · rwa [position?_unsubscribe_of_ne channel same] at here
    exact ⟨tidy.room, fun here => tidy.named (old here), fun here => tidy.within (old here)⟩
  | close => exact ⟨tidy.room, tidy.named, tidy.within⟩
  | read reader reading =>
    rw [Broadcast.step]
    cases present : channel.position? reader with
    | none => rwa [reading.ask_of_absent present]
    | some number => exact (reading.reads_remaining ⟨tidy, number, present⟩).2.2.tidy tidy

theorem tidy_run (tidy : channel.Tidy) (moves : List (Move ε)) : (channel.run moves).Tidy := by
  induction moves generalizing channel with
  | nil => exact tidy
  | cons move rest ih => exact ih (tidy.step move)

/-- What a move that is not a reading of a reader's own, and does not drop it,
leaves of the channel as the reader sees it. -/
structure Leaves (reader : ReaderId) (channel after : Broadcast ε) (sent : List ε) : Prop where
  /-- There is as much room as before. -/
  room : after.room = channel.room
  /-- Only what is sent is added. -/
  items : after.items.toList = channel.items.toList ++ sent
  /-- The reader wants the same item next. -/
  position : after.position? reader = channel.position? reader

theorem leaves_step (reads : channel.Reads reader) {move : Move ε}
    (stays : move ≠ .unsubscribe reader) (foreign : ∀ reading, move ≠ .read reader reading) :
    Leaves reader channel (channel.step move) (channel.sentIn move) := by
  obtain ⟨number, present⟩ := reads.present
  cases move with
  | send item =>
    rw [Broadcast.step, sentIn]
    split
    · rw [send_of_present present]
      exact ⟨rfl, Array.toList_push, rfl⟩
    · exact ⟨rfl, (List.append_nil _).symm, rfl⟩
  | subscribe =>
    rw [Broadcast.step]
    split
    · refine ⟨rfl, (List.append_nil _).symm, ?_⟩
      rw [position?_subscribe, present, Option.some_or]
    · exact ⟨rfl, (List.append_nil _).symm, rfl⟩
  | unsubscribe other =>
    have ne : reader ≠ other := fun same => stays (same ▸ rfl)
    exact ⟨rfl, (List.append_nil _).symm, position?_unsubscribe_of_ne channel ne⟩
  | close => exact ⟨rfl, (List.append_nil _).symm, rfl⟩
  | read other reading =>
    have ne : reader ≠ other := fun same => foreign reading (same ▸ rfl)
    change Leaves reader channel (reading.ask channel other).2 []
    cases there : channel.position? other with
    | none =>
      rw [reading.ask_of_absent there]
      exact ⟨rfl, (List.append_nil _).symm, rfl⟩
    | some position =>
      obtain ⟨_, _, moved⟩ := (reading.reads_remaining ⟨reads.tidy, position, there⟩).2.2.moved
      exact ⟨moved.room, by rw [moved.items, List.append_nil], moved.others reader ne⟩

/-- A reader that is not dropped is there after a move. -/
theorem Reads.step (reads : channel.Reads reader) {move : Move ε}
    (stays : move ≠ .unsubscribe reader) : (channel.step move).Reads reader := by
  by_cases foreign : ∀ reading, move ≠ .read reader reading
  · obtain ⟨number, present⟩ := reads.present
    exact ⟨reads.tidy.step move, number, (leaves_step reads stays foreign).position.trans present⟩
  · obtain ⟨reading, rfl⟩ := not_forall_not.mp foreign
    exact (reading.reads_remaining reads).2.2.reads reads

/-- Only closing a channel closes it. -/
theorem isOpen_step (tidy : channel.Tidy) {move : Move ε} (ne : move ≠ .close) :
    (channel.step move).isOpen = channel.isOpen := by
  cases move with
  | send item =>
    rw [Broadcast.step, send]
    split <;> [split; skip] <;> rfl
  | subscribe =>
    rw [Broadcast.step]
    split <;> rfl
  | unsubscribe => rfl
  | close => exact absurd rfl ne
  | read other reading =>
    rw [Broadcast.step]
    cases there : channel.position? other with
    | none => rw [reading.ask_of_absent there]
    | some position => exact (reading.reads_remaining ⟨tidy, position, there⟩).2.2.isOpen

/-! ## The reference -/

/-- Something that happens to a reader. -/
inductive Happening (ε : Type) where
  /-- An item is sent, if the channel is open. -/
  | sent (item : ε)
  /-- The channel is closed. -/
  | closed
  /-- The reader reads. -/
  | read (reading : Reading ε)

/-- What a move is to a reader, if it is anything. -/
def Move.happening? (reader : ReaderId) : Move ε → Option (Happening ε)
  | .send item => some (.sent item)
  | .close => some .closed
  | .read other reading => if other = reader then some (.read reading) else none
  | _ => none

/-- A queue that a reader has for itself. -/
structure Feed (ε : Type) where
  /-- How many of the newest items are kept. -/
  room : Nat
  /-- The items that the reader has not been given. -/
  pending : List ε
  /-- Whether more may be sent. -/
  isOpen : Bool

namespace Feed

/-- What is left of the pending items when the oldest that there is no room for
are lost. -/
def remaining (feed : Feed ε) : List ε := feed.pending.drop (feed.pending.length - feed.room)

/-- The queue after something happens. -/
def step (feed : Feed ε) : Happening ε → Feed ε
  | .sent item => if feed.isOpen then { feed with pending := feed.pending ++ [item] } else feed
  | .closed => { feed with isOpen := false }
  | .read reading =>
    { feed with pending := feed.remaining.drop (reading.uses feed.remaining).length }

/-- What the reader is given when something happens. -/
def givenIn (feed : Feed ε) : Happening ε → List (Given ε)
  | .read reading =>
    [{ answer := reading.reply feed.isOpen feed.remaining, items := reading.uses feed.remaining }]
  | _ => []

/-- What the reader is given when some things happen. -/
def given : Feed ε → List (Happening ε) → List (Given ε) := along step givenIn

theorem remaining_of_length_le {feed : Feed ε} (short : feed.pending.length ≤ feed.room) :
    feed.remaining = feed.pending := by
  rw [remaining, Nat.sub_eq_zero_of_le short, List.drop_zero]

theorem length_remaining_le (feed : Feed ε) : feed.remaining.length ≤ feed.room := by
  rw [remaining, List.length_drop]
  omega

/-- After a reading, what it has not used up remains. -/
theorem remaining_step_read (feed : Feed ε) (reading : Reading ε) :
    (feed.step (.read reading)).remaining =
      feed.remaining.drop (reading.uses feed.remaining).length :=
  remaining_of_length_le (Nat.le_trans (List.drop_sublist _ _).length_le feed.length_remaining_le)

/-- **Of a closed queue exactly what remains is received.** -/
theorem received_of_closed {feed : Feed ε} (closed : feed.isOpen = false)
    (happenings : List (Happening ε)) :
    (feed.given happenings).flatMap (·.items) ++ (happenings.foldl step feed).remaining =
      feed.remaining := by
  induction happenings generalizing feed with
  | nil => rfl
  | cons happening rest ih =>
    rw [given, along, List.foldl_cons, List.flatMap_append, List.append_assoc]
    cases happening with
    | sent item =>
      have same : feed.step (.sent item) = feed := by
        rw [step, closed]
        rfl
      rw [same]
      exact ih closed
    | closed => exact ih rfl
    | read reading =>
      have still : (feed.step (.read reading)).isOpen = false := closed
      have used := reading.uses_isPrefix feed.remaining
      rw [← given, ih still, remaining_step_read, givenIn, List.flatMap_singleton]
      exact List.prefix_iff_eq_append.mp used

/-- Of a closed queue from which nothing remains nothing is ever given. -/
theorem isEnd_of_closed {feed : Feed ε} (closed : feed.isOpen = false)
    (nothing : feed.remaining = []) (happenings : List (Happening ε)) {got : Given ε}
    (member : got ∈ feed.given happenings) : got.answer.IsEnd := by
  induction happenings generalizing feed with
  | nil => cases member
  | cons happening rest ih =>
    rw [Feed.given, along, List.mem_append, ← Feed.given] at member
    cases happening with
    | sent item =>
      have same : feed.step (.sent item) = feed := by
        rw [step, closed]
        rfl
      exact member.elim nofun fun later => ih closed nothing (same ▸ later)
    | closed => exact member.elim nofun (ih rfl nothing)
    | read reading =>
      rcases member with here | later
      · obtain rfl := List.mem_singleton.mp here
        rw [closed, nothing]
        cases reading <;> rfl
      · have still : (feed.step (.read reading)).isOpen = false := closed
        refine ih still ?_ later
        rw [remaining_step_read, nothing, List.drop_nil]

end Feed

/-- The queue that a reader of a channel has as if for itself. -/
def feed (channel : Broadcast ε) (reader : ReaderId) : Feed ε where
  room := channel.room
  pending :=
    match channel.position? reader with
    | some number => channel.items.toList.drop number
    | none => []
  isOpen := channel.isOpen

theorem pending_feed (present : channel.position? reader = some number) :
    (channel.feed reader).pending = channel.items.toList.drop number := by
  rw [feed, present]

/-- The same remains for a reader of a channel as for one of its queue. -/
theorem remaining_feed (channel : Broadcast ε) (reader : ReaderId) :
    (channel.feed reader).remaining = channel.remaining reader := by
  cases present : channel.position? reader with
  | none => simp [Feed.remaining, feed, remaining, present]
  | some number =>
    rw [Feed.remaining, pending_feed present, remaining_of_position present, List.drop_drop,
      List.length_drop, Array.length_toList, oldest]
    change List.drop (number + (channel.items.size - number - channel.room)) _ = _
    by_cases within : number ≤ channel.items.size
    · congr 1
      omega
    · rw [List.drop_eq_nil_of_le, List.drop_eq_nil_of_le]
      all_goals
        rw [Array.length_toList]
        omega

theorem feed_of_leaves {after : Broadcast ε} {sent : List ε} (reads : channel.Reads reader)
    (leaves : Leaves reader channel after sent) :
    after.feed reader =
      { channel.feed reader with
        pending := (channel.feed reader).pending ++ sent, isOpen := after.isOpen } := by
  obtain ⟨number, present⟩ := reads.present
  have within : number ≤ channel.items.toList.length := reads.tidy.within present
  have pending : (after.feed reader).pending = (channel.feed reader).pending ++ sent := by
    rw [pending_feed present, pending_feed (leaves.position.trans present), leaves.items,
      List.drop_append_of_le_length within]
  rw [← pending, feed, leaves.room]
  rfl

/-- A move that is nothing to a reader leaves its queue as it is. -/
theorem feed_step_of_none (reads : channel.Reads reader) {move : Move ε}
    (stays : move ≠ .unsubscribe reader) (nothing : move.happening? reader = none) :
    (channel.step move).feed reader = channel.feed reader := by
  have foreign (reading : Reading ε) : move ≠ .read reader reading := by
    rintro rfl
    rw [Move.happening?, if_pos rfl] at nothing
    cases nothing
  have leaves := leaves_step reads stays foreign
  have unsent : channel.sentIn move = [] := by
    cases move with
    | send item => cases nothing
    | _ => rfl
  have isOpen : (channel.step move).isOpen = channel.isOpen :=
    isOpen_step reads.tidy fun close => by rw [close] at nothing; cases nothing
  rw [feed_of_leaves reads leaves, unsent, isOpen, List.append_nil]
  rfl

/-- **What a move is to a reader, it does to its queue.** -/
theorem feed_step_of_some (reads : channel.Reads reader) {move : Move ε}
    (stays : move ≠ .unsubscribe reader) {happening : Happening ε}
    (happens : move.happening? reader = some happening) :
    (channel.step move).feed reader = (channel.feed reader).step happening := by
  cases move with
  | send item =>
    cases happens
    have leaves := leaves_step reads stays (fun _ => nofun)
    have isOpen : (channel.step (.send item)).isOpen = channel.isOpen := isOpen_step reads.tidy nofun
    rw [feed_of_leaves reads leaves, isOpen, sentIn, Feed.step]
    change _ = if channel.isOpen = true then _ else _
    split
    · rfl
    · rw [List.append_nil]
      rfl
  | subscribe => cases happens
  | unsubscribe => cases happens
  | close =>
    cases happens
    have leaves := leaves_step reads stays (fun _ => nofun)
    rw [feed_of_leaves reads leaves, sentIn, List.append_nil]
    rfl
    all_goals nofun
  | read other reading =>
    rw [Move.happening?] at happens
    split at happens
    · rename_i same
      subst same
      cases happens
      obtain ⟨-, -, takes⟩ := reading.reads_remaining reads
      obtain ⟨number, present, moved⟩ := takes.moved
      have pending : ((reading.ask channel other).2.feed other).pending =
          (channel.remaining other).drop (reading.uses (channel.remaining other)).length := by
        rw [pending_feed moved.position, moved.items, remaining_of_position present,
          List.drop_drop]
      rw [Broadcast.step, Feed.step, remaining_feed, ← pending, feed, moved.room, moved.isOpen]
      rfl
    · cases happens

/-- Moves that do not drop a reader. -/
def Stays (reader : ReaderId) (moves : List (Move ε)) : Prop :=
  ∀ move ∈ moves, move ≠ .unsubscribe reader

theorem Reads.run (reads : channel.Reads reader) {moves : List (Move ε)}
    (stays : Stays reader moves) : (channel.run moves).Reads reader := by
  induction moves generalizing channel with
  | nil => exact reads
  | cons move rest ih =>
    obtain ⟨here, later⟩ := List.forall_mem_cons.mp stays
    exact ih (reads.step here) later

/-- The queue of a reader after some moves. -/
theorem feed_run (reads : channel.Reads reader) {moves : List (Move ε)}
    (stays : Stays reader moves) :
    (channel.run moves).feed reader =
      (moves.filterMap (·.happening? reader)).foldl Feed.step (channel.feed reader) := by
  induction moves generalizing channel with
  | nil => rfl
  | cons move rest ih =>
    obtain ⟨here, later⟩ := List.forall_mem_cons.mp stays
    have rest := ih (reads.step here) later
    rw [run, List.foldl_cons]
    cases what : move.happening? reader with
    | none => rw [List.filterMap_cons_none what, ← feed_step_of_none reads here what]; exact rest
    | some happening =>
      rw [List.filterMap_cons_some what, List.foldl_cons, ← feed_step_of_some reads here what]
      exact rest

/-- What a move gives to a reader, the happening gives to one that has the queue
for itself. -/
theorem givenIn_eq (reads : channel.Reads reader) (move : Move ε) :
    givenIn reader channel move =
      (move.happening? reader).elim [] (channel.feed reader).givenIn := by
  cases move with
  | read other reading =>
    rw [givenIn, Move.happening?]
    by_cases same : other = reader
    · subst same
      obtain ⟨answer, items, -⟩ := reading.reads_remaining reads
      rw [if_pos rfl, if_pos rfl, answer, items, ← remaining_feed]
      rfl
    · rw [if_neg same, if_neg same]
      rfl
  | _ => rfl

/-- **A reader is given what one is that has a queue for itself.** -/
theorem given_eq (reads : channel.Reads reader) {moves : List (Move ε)}
    (stays : Stays reader moves) :
    given reader channel moves =
      (channel.feed reader).given (moves.filterMap (·.happening? reader)) := by
  induction moves generalizing channel with
  | nil => rfl
  | cons move rest ih =>
    obtain ⟨here, later⟩ := List.forall_mem_cons.mp stays
    have rest := ih (reads.step here) later
    rw [given, along, ← given, rest, givenIn_eq reads]
    cases what : move.happening? reader with
    | none =>
      rw [feed_step_of_none reads here what, List.filterMap_cons_none what]
      rfl
    | some happening =>
      rw [feed_step_of_some reads here what, List.filterMap_cons_some what]
      rfl

/-- **Two readers to whom the same things happen are given the same**, if they
begin alike. -/
theorem given_congr {first second : Broadcast ε} {moves moves' : List (Move ε)}
    (reads : first.Reads reader) (stays : Stays reader moves) (reads' : second.Reads other)
    (stays' : Stays other moves') (alike : first.feed reader = second.feed other)
    (same : moves.filterMap (·.happening? reader) = moves'.filterMap (·.happening? other)) :
    given reader first moves = given other second moves' := by
  rw [given_eq reads stays, given_eq reads' stays', alike, same]

/-- A reader of a closed channel receives what remains for it, in the long run. -/
theorem received_of_closed (reads : channel.Reads reader) {moves : List (Move ε)}
    (stays : Stays reader moves) (closed : channel.isOpen = false) :
    received reader channel moves ++ (channel.run moves).remaining reader =
      channel.remaining reader := by
  rw [received, given_eq reads stays, ← remaining_feed, feed_run reads stays, ← remaining_feed]
  exact Feed.received_of_closed closed _

/-- A reader of a closed channel for whom nothing remains is never given anything. -/
theorem isEnd_of_closed (reads : channel.Reads reader) {moves : List (Move ε)}
    (stays : Stays reader moves) (closed : channel.isOpen = false)
    (nothing : channel.remaining reader = []) {got : Given ε}
    (member : got ∈ given reader channel moves) : got.answer.IsEnd := by
  rw [given_eq reads stays] at member
  exact Feed.isEnd_of_closed closed ((remaining_feed ..).trans nothing) _ member

/-! ## Counting -/

/-- An item of some number is lost to a reader at one of its readings: it has
not been given the item, and there are too many newer ones. -/
def Lost (channel : Broadcast ε) (reader : ReaderId) (moves : List (Move ε)) (number : Nat) :
    Prop :=
  ∃ before reading after position, moves = before ++ .read reader reading :: after ∧
    (channel.run before).position? reader = some position ∧ position ≤ number ∧
      number < (channel.run before).oldest

/-- What is lost at the last of some moves is lost at a reading of the reader's own. -/
theorem lost_concat {moves : List (Move ε)} {move : Move ε} :
    channel.Lost reader (moves ++ [move]) number ↔ channel.Lost reader moves number ∨
      ∃ reading position, move = .read reader reading ∧
        (channel.run moves).position? reader = some position ∧ position ≤ number ∧
          number < (channel.run moves).oldest := by
  constructor
  · rintro ⟨before, reading, after, position, split, behind⟩
    rcases Journal.eq_last_or_before split with ⟨rfl, rfl, -⟩ | ⟨more, rfl, -⟩
    · exact .inr ⟨reading, position, rfl, behind⟩
    · exact .inl ⟨before, reading, more, position, rfl, behind⟩
  · rintro (⟨before, reading, after, position, rfl, behind⟩ | ⟨reading, position, rfl, behind⟩)
    · exact ⟨before, reading, after ++ [move], position, by simp, behind⟩
    · exact ⟨moves, reading, [], position, rfl, behind⟩

/-- What a reader has received in the course of some moves, by the numbers of the
items. -/
structure Tally (channel : Broadcast ε) (reader : ReaderId) (start : Nat) (moves : List (Move ε))
    (numbers : List Nat) (next : Nat) : Prop where
  /-- The item that it wants next. -/
  position : (channel.run moves).position? reader = some next
  /-- The numbers of what it has received, in order. -/
  increasing : numbers.Pairwise (· < ·)
  /-- What it has received. -/
  received : (received reader channel moves).map some =
    numbers.map fun number => (channel.run moves).items[number]?
  /-- It has received what it has passed and not lost. -/
  mem_iff : ∀ number, number ∈ numbers ↔
    start ≤ number ∧ number < next ∧ ¬ channel.Lost reader moves number
  /-- It has passed what it has lost. -/
  passed : ∀ number, channel.Lost reader moves number → start ≤ number ∧ number < next
  /-- It does not go back. -/
  forward : start ≤ next

theorem received_concat (channel : Broadcast ε) (reader : ReaderId) (moves : List (Move ε))
    (move : Move ε) : received reader channel (moves ++ [move]) =
      received reader channel moves ++
        (givenIn reader (channel.run moves) move).flatMap (·.items) := by
  rw [Broadcast.received, Broadcast.received, given, along_append, along, along, List.append_nil,
    List.flatMap_append]
  rfl

theorem givenIn_of_foreign {move : Move ε} (foreign : ∀ reading, move ≠ .read reader reading)
    (channel : Broadcast ε) : givenIn reader channel move = [] := by
  cases move with
  | read other reading =>
    refine if_neg fun same => foreign reading ?_
    rw [same]
  | _ => rfl

section Tallies

variable {start next : Nat} {moves : List (Move ε)} {numbers : List Nat}

theorem tally_nil (begins : channel.position? reader = some start) :
    Tally channel reader start [] [] start := by
  refine ⟨begins, .nil, rfl, fun number => ?_, ?_, Nat.le_refl _⟩
  · simp only [List.not_mem_nil, false_iff]
    omega
  · rintro number ⟨before, reading, after, position, split, -⟩
    cases before <;> cases split

/-- A reader receives and loses nothing while it does not read, and what has been
sent stays there. -/
theorem Tally.pass (tally : Tally channel reader start moves numbers next)
    (reads : (channel.run moves).Reads reader) {move : Move ε} (here : move ≠ .unsubscribe reader)
    (foreign : ∀ reading, move ≠ .read reader reading) :
    Tally channel reader start (moves ++ [move]) numbers next := by
  have leaves := leaves_step reads here foreign
  have lost (number : Nat) : channel.Lost reader (moves ++ [move]) number ↔
      channel.Lost reader moves number := by
    rw [lost_concat, or_iff_left]
    rintro ⟨reading, _, rfl, -⟩
    exact foreign reading rfl
  have within := reads.tidy.within tally.position
  refine ⟨?_, tally.increasing, ?_, fun number => ?_, fun number => ?_, tally.forward⟩
  · rw [run_concat, leaves.position, tally.position]
  · rw [received_concat, givenIn_of_foreign foreign, List.flatMap_nil, List.append_nil,
      tally.received]
    refine List.map_congr_left fun number member => ?_
    have old : number < (channel.run moves).items.toList.length :=
      Nat.lt_of_lt_of_le ((tally.mem_iff number).mp member).2.1 within
    rw [run_concat, ← Array.getElem?_toList, ← Array.getElem?_toList, leaves.items,
      List.getElem?_append_left old]
  · rw [lost, tally.mem_iff]
  · rw [lost]
    exact tally.passed number

/-- A part of the items that remain for a reader, by their numbers. -/
theorem map_some_of_isPrefix (position : channel.position? reader = some next) {items : List ε}
    (part : items <+: channel.remaining reader) :
    items.map some = (List.range' (max next channel.oldest) items.length).map fun number =>
      channel.items[number]? := by
  obtain ⟨more, whole⟩ := part
  refine List.ext_getElem (by simp) fun place inside _ => ?_
  have inside : place < items.length := by simpa using inside
  have there : channel.items[max next channel.oldest + place]? = some items[place] := by
    rw [← Array.getElem?_toList, ← List.getElem?_drop, ← remaining_of_position position, ← whole,
      List.getElem?_append_left inside, List.getElem?_eq_getElem inside]
  rw [List.getElem_map, List.getElem_map, List.getElem_range', Nat.one_mul, there]

/-- At a reading a reader loses what is older than the newest items, and receives
the next ones. -/
theorem Tally.read (tally : Tally channel reader start moves numbers next)
    (reads : (channel.run moves).Reads reader) (reading : Reading ε) :
    ∃ count, Tally channel reader start (moves ++ [.read reader reading])
      (numbers ++ List.range' (max next (channel.run moves).oldest) count)
      (max next (channel.run moves).oldest + count) := by
  obtain ⟨-, items, takes⟩ := reading.reads_remaining reads
  have used := reading.uses_isPrefix ((channel.run moves).remaining reader)
  obtain ⟨_, present, moved⟩ := takes.moved
  obtain rfl := Option.some.inj (tally.position.symm.trans present)
  have lost (number : Nat) : channel.Lost reader (moves ++ [.read reader reading]) number ↔
      channel.Lost reader moves number ∨ next ≤ number ∧ number < (channel.run moves).oldest := by
    rw [lost_concat]
    refine or_congr_right ⟨?_, fun behind => ⟨reading, next, rfl, present, behind⟩⟩
    rintro ⟨_, _, -, present', behind⟩
    exact Option.some.inj (present.symm.trans present') ▸ behind
  have forward := tally.forward
  refine ⟨(reading.uses ((channel.run moves).remaining reader)).length, ?_, ?_, ?_,
    fun number => ?_, fun number => ?_, ?_⟩
  · exact (run_concat ..).symm ▸ moved.position
  · refine List.pairwise_append.mpr ⟨tally.increasing, List.pairwise_lt_range', ?_⟩
    intro old member new added
    have old := ((tally.mem_iff old).mp member).2.1
    have new := (List.mem_range'_1.mp added).1
    omega
  · have same : (channel.run (moves ++ [.read reader reading])).items =
        (channel.run moves).items := (run_concat ..).symm ▸ moved.items
    rw [received_concat, givenIn, if_pos rfl, List.flatMap_singleton, List.map_append, items,
      tally.received, map_some_of_isPrefix present used, same, List.map_append]
  · rw [lost, List.mem_append, tally.mem_iff, List.mem_range'_1]
    have passed := tally.passed number
    by_cases before : channel.Lost reader moves number
    · simp only [before, not_true_eq_false, and_false, true_or, false_or, iff_false]
      have passed := passed before
      omega
    · simp only [before, not_false_eq_true, and_true, false_or]
      omega
  · rw [lost]
    rintro (before | behind)
    · have passed := tally.passed number before
      omega
    · omega
  · omega

/-- **The numbers of what a reader receives.** -/
theorem exists_tally (reads : channel.Reads reader)
    (begins : channel.position? reader = some start) (stays : Stays reader moves) :
    ∃ numbers next, Tally channel reader start moves numbers next := by
  induction moves using List.reverseRecOn with
  | nil => exact ⟨[], start, tally_nil begins⟩
  | append_singleton moves move ih =>
    obtain ⟨earlier, last⟩ := List.forall_mem_append.mp stays
    have here := last move (List.mem_singleton_self _)
    obtain ⟨numbers, next, tally⟩ := ih earlier
    by_cases foreign : ∀ reading, move ≠ .read reader reading
    · exact ⟨numbers, next, tally.pass (reads.run earlier) here foreign⟩
    · obtain ⟨reading, rfl⟩ := not_forall_not.mp foreign
      obtain ⟨count, tally⟩ := tally.read (reads.run earlier) reading
      exact ⟨_, _, tally⟩

end Tallies

/-- Only what is sent is added to a channel that has a reader. -/
theorem items_step (reads : channel.Reads reader) {move : Move ε}
    (here : move ≠ .unsubscribe reader) :
    (channel.step move).room = channel.room ∧
      (channel.step move).items.toList = channel.items.toList ++ channel.sentIn move := by
  by_cases foreign : ∀ reading, move ≠ .read reader reading
  · have leaves := leaves_step reads here foreign
    exact ⟨leaves.room, leaves.items⟩
  · obtain ⟨reading, rfl⟩ := not_forall_not.mp foreign
    obtain ⟨_, _, moved⟩ := (reading.reads_remaining reads).2.2.moved
    exact ⟨moved.room, (congrArg Array.toList moved.items).trans (List.append_nil _).symm⟩

theorem items_run (reads : channel.Reads reader) {moves : List (Move ε)}
    (stays : Stays reader moves) :
    (channel.run moves).room = channel.room ∧
      (channel.run moves).items.toList = channel.items.toList ++ sent channel moves := by
  induction moves generalizing channel with
  | nil => exact ⟨rfl, (List.append_nil _).symm⟩
  | cons move rest ih =>
    obtain ⟨here, later⟩ := List.forall_mem_cons.mp stays
    obtain ⟨room, items⟩ := items_step reads here
    obtain ⟨room', items'⟩ := ih (reads.step here) later
    rw [sent, along, ← List.append_assoc, ← items]
    exact ⟨room'.trans room, items'⟩

/-! ## Joining -/

/-- A new reader wants what is sent next. -/
theorem position?_of_joins {joined : Broadcast ε} (tidy : channel.Tidy)
    (joins : channel.subscribe = (reader, joined)) :
    joined.position? reader = some joined.items.size := by
  obtain rfl : channel.subscribe.1 = reader := congrArg Prod.fst joins
  obtain rfl : channel.subscribe.2 = joined := congrArg Prod.snd joins
  have absent : channel.position? channel.nextReader = none :=
    Option.eq_none_iff_forall_ne_some.mpr fun _ present => Nat.lt_irrefl _ (tidy.named present)
  rw [position?_subscribe, show channel.subscribe.1 = channel.nextReader from rfl, absent,
    if_pos rfl]
  rfl

theorem reads_of_joins {joined : Broadcast ε} (tidy : channel.Tidy)
    (joins : channel.subscribe = (reader, joined)) : joined.Reads reader := by
  have position := position?_of_joins tidy joins
  obtain rfl : channel.subscribe.1 = reader := congrArg Prod.fst joins
  obtain rfl : channel.subscribe.2 = joined := congrArg Prod.snd joins
  exact ⟨tidy.subscribe, _, position⟩

/-- A new reader changes nothing for one who is there. -/
theorem Reads.joined {joined : Broadcast ε} (reads : channel.Reads other)
    (joins : channel.subscribe = (reader, joined)) :
    joined.Reads other ∧ joined.position? other = channel.position? other := by
  obtain ⟨number, present⟩ := reads.present
  obtain rfl : channel.subscribe.1 = reader := congrArg Prod.fst joins
  obtain rfl : channel.subscribe.2 = joined := congrArg Prod.snd joins
  have position : channel.subscribe.2.position? other = some number := by
    rw [position?_subscribe, present, Option.some_or]
  exact ⟨⟨reads.tidy.subscribe, number, position⟩, position.trans present.symm⟩

/-- **Readers that come at the same moment begin alike.** -/
theorem feed_of_joins {joined both : Broadcast ε} {stream : ReaderId} (tidy : channel.Tidy)
    (joins : channel.subscribe = (reader, joined)) (joins' : joined.subscribe = (stream, both)) :
    both.feed reader = both.feed stream := by
  have reads := reads_of_joins tidy joins
  have old : both.position? reader = some joined.items.size :=
    (reads.joined joins').2.trans (position?_of_joins tidy joins)
  have new : both.position? stream = some both.items.size := position?_of_joins reads.tidy joins'
  obtain rfl : joined.subscribe.2 = both := congrArg Prod.snd joins'
  rw [feed, feed, old, new]
  rfl

/-! ## Event streams -/

/-- Something done with a channel and an event stream of it. -/
inductive Turn (ε : Type) where
  /-- Others make a move. -/
  | others (move : Move ε)
  /-- The event stream is polled. -/
  | poll

namespace Turn

/-- An event stream and its channel after a turn. -/
def step : EventStream × Broadcast ε → Turn ε → EventStream × Broadcast ε
  | (stream, channel), .others move => (stream, channel.step move)
  | (stream, channel), .poll => (stream.pollNext channel).2.2

/-- What an event stream yields in a turn. -/
def yields : EventStream × Broadcast ε → Turn ε → List (Awaited ε)
  | (stream, channel), .poll => [(stream.pollNext channel).1]
  | _, _ => []

/-- The turn as a move, if a reader waits where an event stream is polled. -/
def asMove (reader : ReaderId) : Turn ε → Move ε
  | .others move => move
  | .poll => .read reader .await

end Turn

end Broadcast

namespace EventStream

open Broadcast

variable {ε : Type} {turns : List (Turn ε)}

/-- What an event stream yields in the course of some turns. -/
def yielded (stream : EventStream) (channel : Broadcast ε) (turns : List (Turn ε)) :
    List (Awaited ε) :=
  along Turn.step Turn.yields (stream, channel) turns

/-- Nobody reads with the reader of an event stream, or drops it, but the event
stream. -/
def Owns (stream : EventStream) (turns : List (Turn ε)) : Prop :=
  ∀ move, .others move ∈ turns → move ≠ .unsubscribe stream.next.reader ∧
    ∀ reading, move ≠ .read stream.next.reader reading

/-- What others do and the polls come to is what it comes to when the reader waits
at each poll; the event stream stays as it is. -/
theorem foldl_step (stream : EventStream) (channel : Broadcast ε) (turns : List (Turn ε)) :
    turns.foldl Turn.step (stream, channel) =
      (stream, channel.run (turns.map (Turn.asMove stream.next.reader))) := by
  induction turns generalizing channel with
  | nil => rfl
  | cons turn rest ih =>
    rw [List.foldl_cons, List.map_cons, Broadcast.run, List.foldl_cons, ← Broadcast.run, ← ih]
    cases turn with
    | others move => rfl
    | poll =>
      rw [Turn.step, pollNext_eq]
      rfl

/-- **An event stream yields what its reader would be answered** if it waited at
each poll. -/
theorem yielded_eq (stream : EventStream) (channel : Broadcast ε) (owns : stream.Owns turns) :
    (stream.yielded channel turns).map Answer.awaited =
      (given stream.next.reader channel (turns.map (Turn.asMove stream.next.reader))).map
        (·.answer) := by
  induction turns generalizing channel with
  | nil => rfl
  | cons turn rest ih =>
    have rest := fun after => ih after fun move member => owns move (.tail _ member)
    rw [yielded, along, List.map_append, List.map_cons, given, along, List.map_append, ← given]
    cases turn with
    | others move =>
      rw [Turn.asMove, givenIn_of_foreign (owns move (.head _)).2]
      exact rest _
    | poll =>
      rw [Turn.step, Turn.yields, pollNext_eq, Turn.asMove, givenIn, if_pos rfl]
      exact congrArg _ (rest _)

theorem Owns.stays {stream : EventStream} (owns : stream.Owns turns) :
    Stays stream.next.reader (turns.map (Turn.asMove stream.next.reader)) := by
  intro move member
  obtain ⟨turn, there, rfl⟩ := List.mem_map.mp member
  cases turn with
  | others move => exact (owns move there).1
  | poll => nofun

end EventStream

namespace Broadcast

variable {ε : Type}

/-! ## What readers see -/

/-- **What a reader sees.**  A reader joins a channel that has been used in any
way, and anything may happen then, but that it is dropped.

* What is sent from then on is kept in order, and the reader receives it in
  order and once each, all that it has passed but for what it lost: at one of
  its readings there were too many newer items.
* What remains for it are the items it has not passed that are among the
  newest, and each way to read gives it a beginning of that, leaving the rest.
  So waiting for an item of a kind gives the first that remains, and uses up
  exactly the items up to it, and draining leaves nothing.
* Of a closed channel it receives what remains, and then nothing ever.
* A reader that joins at the same moment is given the same if the same happens to
  it.  So is an event stream that is made at the same moment: it yields what the
  reader is answered that waits where it is polled.
* What other readers do makes no difference to what it is given. -/
theorem reader_sees {capacity : Nat} {fresh joined : Broadcast ε} {reader : ReaderId}
    {earlier moves : List (Move ε)} (made : create capacity = .ok fresh)
    (joins : (fresh.run earlier).subscribe = (reader, joined)) (stays : Stays reader moves) :
    (fresh.room = (max 1 capacity).nextPowerOfTwo ∧
      (joined.run moves).items.toList = joined.items.toList ++ sent joined moves) ∧
    (∃ (numbers : List Nat) (next : Nat), (joined.run moves).position? reader = some next ∧
      (received reader joined moves).map some =
        numbers.map (fun number => (joined.run moves).items[number]?) ∧
      numbers.Pairwise (· < ·) ∧
      (∀ number, number ∈ numbers ↔
        joined.items.size ≤ number ∧ number < next ∧ ¬ joined.Lost reader moves number) ∧
      (joined.run moves).remaining reader =
        (joined.run moves).items.toList.drop
          (max next ((joined.run moves).items.size - joined.room))) ∧
    (∀ reading : Reading ε,
      (reading.ask (joined.run moves) reader).1 =
        reading.reply (joined.run moves).isOpen ((joined.run moves).remaining reader) ∧
      reading.received (joined.run moves) reader =
        reading.uses ((joined.run moves).remaining reader) ∧
      (reading.ask (joined.run moves) reader).2.remaining reader =
        ((joined.run moves).remaining reader).drop
          (reading.uses ((joined.run moves).remaining reader)).length) ∧
    (∀ (wanted : ε → Bool) skipped item rest,
      (joined.run moves).remaining reader = skipped ++ item :: rest →
      (∀ other ∈ skipped, wanted other = false) → wanted item = true →
      ((joined.run moves).awaitFirst reader wanted).1 = .ready item ∧
      ((joined.run moves).awaitFirst reader wanted).2.2.remaining reader = rest) ∧
    ((joined.run moves).drain reader).2.remaining reader = [] ∧
    ((joined.run moves).isOpen = false → ∀ later : List (Move ε), Stays reader later →
      received reader (joined.run moves) later ++
        ((joined.run moves).run later).remaining reader = (joined.run moves).remaining reader ∧
      ((joined.run moves).remaining reader = [] →
        ∀ got ∈ given reader (joined.run moves) later, got.answer.IsEnd)) ∧
    (∀ (stream : ReaderId) (both : Broadcast ε) (first second : List (Move ε)),
      joined.subscribe = (stream, both) → Stays reader first → Stays stream second →
      first.filterMap (·.happening? reader) = second.filterMap (·.happening? stream) →
      given reader both first = given stream both second) ∧
    (∀ (stream : EventStream) (both : Broadcast ε) (turns : List (Turn ε)) (first : List (Move ε)),
      joined.stream = (stream, both) → stream.Owns turns → Stays reader first →
      first.filterMap (·.happening? reader) =
        (turns.map (Turn.asMove stream.next.reader)).filterMap
          (·.happening? stream.next.reader) →
      (stream.yielded both turns).map .awaited = (given reader both first).map (·.answer)) ∧
    given reader joined moves =
      given reader joined (moves.filter fun move => (move.happening? reader).isSome) := by
  have tidy := tidy_run (tidy_of_create made) earlier
  have joining := reads_of_joins tidy joins
  have reads := joining.run stays
  obtain ⟨room, items⟩ := items_run joining stays
  refine ⟨⟨by rw [eq_of_create made]; rfl, items⟩, ?_, fun reading => ?_, ?_, ?_,
    fun closed later stays' => ⟨received_of_closed reads stays' closed, fun nothing _ member =>
      isEnd_of_closed reads stays' closed nothing member⟩, ?_, ?_, ?_⟩
  · obtain ⟨numbers, next, tally⟩ := exists_tally joining (position?_of_joins tidy joins) stays
    refine ⟨numbers, next, tally.position, tally.received, tally.increasing, tally.mem_iff, ?_⟩
    rw [remaining_of_position tally.position, oldest, room]
  · obtain ⟨answer, received, takes⟩ := reading.reads_remaining reads
    exact ⟨answer, received, takes.remaining⟩
  · exact fun wanted skipped item rest => reads.awaitFirst
  · obtain ⟨-, -, takes⟩ := Reading.drain.reads_remaining reads
    exact takes.remaining.trans (List.drop_length ..)
  · intro stream both first second joins' stays stays' same
    exact given_congr (joining.joined joins').1 stays (reads_of_joins joining.tidy joins') stays'
      (feed_of_joins tidy joins joins') same
  · intro stream both turns first joins' owns stays same
    obtain rfl : EventStream.ofReader joined.subscribe.1 = stream := congrArg Prod.fst joins'
    obtain rfl : joined.subscribe.2 = both := congrArg Prod.snd joins'
    rw [EventStream.yielded_eq _ _ owns]
    congr 1
    exact (given_congr (joining.joined rfl).1 stays (reads_of_joins joining.tidy rfl) owns.stays
      (feed_of_joins tidy joins rfl) same).symm
  · refine given_congr joining stays joining (fun move member => ?_) rfl ?_
    · exact stays move (List.mem_filter.mp member).1
    · rw [List.filterMap_filter]
      refine List.filterMap_congr fun move _ => ?_
      cases move.happening? reader <;> rfl

/-- A channel with room for two items. -/
def pairChannel : Broadcast Nat := { room := 2 }

/-- The channel after an item has been sent to a first reader and a second one has
joined. -/
def sharedChannel : Broadcast Nat := (pairChannel.run [.subscribe, .send 0]).subscribe.2

/-- The second reader reads late, and again after the channel has been closed. -/
def lateReadings : List (Move Nat) :=
  [.send 1, .send 2, .send 3, .read 1 .await, .read 0 .drain, .send 4, .close,
    .read 1 (.awaitFirst (· = 4)), .read 1 .tryReceive]

/-- An event stream is polled early, late, and after the channel has been closed. -/
def lateTurns : List (Turn Nat) :=
  [.poll, .others (.send 1), .others (.send 2), .others (.send 3), .poll, .others .close, .poll,
    .poll]

theorem reader_sees_late :
    create 2 = .ok pairChannel ∧
    (pairChannel.run [.subscribe, .send 0]).subscribe = (1, sharedChannel) ∧
    Stays 1 lateReadings ∧ received 1 sharedChannel lateReadings = [2, 3, 4] ∧
    (∃ numbers : List Nat,
      [some 2, some 3, some 4] =
        numbers.map (fun number => (sharedChannel.run lateReadings).items[number]?) ∧
      numbers.Pairwise (· < ·)) ∧
    ((sharedChannel.run lateReadings).drain 1).2.remaining 1 = [] ∧
    (sharedChannel.stream.1.yielded sharedChannel.stream.2 lateTurns =
        [.pending, .ready 2, .ready 3, .closed] ∧
      (given 1 sharedChannel.stream.2 (lateTurns.map (Turn.asMove 1))).map (·.answer) =
        [.awaited .pending, .awaited (.ready 2), .awaited (.ready 3), .awaited .closed]) ∧
    given 1 sharedChannel lateReadings = given 1 sharedChannel
      [.send 1, .send 2, .send 3, .read 1 .await, .send 4, .close,
        .read 1 (.awaitFirst (· = 4)), .read 1 .tryReceive] := by
  have made : create 2 = .ok pairChannel := by
    have room : roomFor 2 = 2 := by
      decide +kernel
    simp [create, room, wordLimit, slotBytes, pairChannel]
  have joins : (pairChannel.run [.subscribe, .send 0]).subscribe = (1, sharedChannel) := rfl
  have stays : Stays 1 lateReadings := by simp [Stays, lateReadings]
  have received : received 1 sharedChannel lateReadings = [2, 3, 4] := by
    decide +kernel
  have polled : sharedChannel.stream.1.yielded sharedChannel.stream.2 lateTurns =
      [.pending, .ready 2, .ready 3, .closed] := by
    decide +kernel
  obtain ⟨-, ⟨numbers, _, -, items, increasing, -⟩, -, -, drained, -, -, streamed, alone⟩ :=
    reader_sees made joins stays
  rw [received] at items
  have waited := streamed sharedChannel.stream.1 sharedChannel.stream.2 lateTurns
    (lateTurns.map (Turn.asMove 1)) rfl (by simp [EventStream.Owns, lateTurns])
    (by simp [Stays, lateTurns, Turn.asMove]) rfl
  rw [polled] at waited
  exact ⟨made, joins, stays, received, ⟨numbers, items, increasing⟩, drained,
    ⟨polled, waited.symm⟩, alone⟩

end Broadcast

end StreamControl
