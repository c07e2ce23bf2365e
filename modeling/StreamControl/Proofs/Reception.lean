import StreamControl.Broadcast

/-!
# What a reader is given

A reader of a channel has four ways to read: it asks for the next item, waits
for it, takes every item there is, or waits for one of a kind
(`Broadcast.Reading`).  Each of them looks at the channel in a loop and looks
again whenever it is told that items were missed.

What remains for a reader are the items from its position on that are among
the newest ones, as many as there is room for (`Broadcast.remaining`).  All four
ways agree on it: each is given a beginning of what remains
(`Broadcast.Reading.uses`), answers what can be said from that and from whether
the channel is open (`Broadcast.Reading.reply`), and leaves the reader behind
what it was given (`Broadcast.Takes`).  No reading answers that items were
missed: whoever looks again finds the oldest item there is, since there is room
for one at least.

An event stream reads in none of these ways: it has given its reader to a receive
that lives on from poll to poll.  But a poll is a wait by that reader, and
whether or not it ends the receive the stream has the same reader afterwards
(`EventStream.pollNext_eq`).
-/

set_option autoImplicit false

namespace StreamControl

namespace Broadcast

variable {ε : Type} {channel before after : Broadcast ε} {reader other : ReaderId}
  {number : Nat}

/-! ## Positions -/

theorem position?_moveTo (old : channel.position? reader = some number) (next : Nat) :
    (channel.moveTo reader next).position? reader = some next := by
  rw [position?] at old
  rw [position?, moveTo]
  dsimp only
  generalize channel.readers = readers at old ⊢
  induction readers with
  | nil => cases old
  | cons entry rest ih =>
    obtain ⟨other, position⟩ := entry
    rw [List.map_cons]
    by_cases here : other = reader
    · simp [here]
    · have away : (reader == other) = false := beq_eq_false_iff_ne.mpr (Ne.symm here)
      rw [List.lookup_cons, away] at old
      rw [if_neg here, List.lookup_cons, away]
      exact ih old

theorem position?_moveTo_of_ne (ne : other ≠ reader) (next : Nat) :
    (channel.moveTo reader next).position? other = channel.position? other := by
  rw [position?, position?, moveTo]
  dsimp only
  generalize channel.readers = readers
  induction readers with
  | nil => rfl
  | cons entry rest ih =>
    rw [List.map_cons]
    by_cases here : entry.1 = reader
    · have away : (other == entry.1) = false := beq_eq_false_iff_ne.mpr (here ▸ ne)
      rw [if_pos here, List.lookup_cons, List.lookup_cons, away, beq_eq_false_iff_ne.mpr ne]
      exact ih
    · rw [if_neg here, List.lookup_cons, List.lookup_cons, ih]

theorem position?_subscribe (channel : Broadcast ε) (reader : ReaderId) :
    channel.subscribe.2.position? reader = (channel.position? reader).or
      (if reader = channel.nextReader then some channel.items.size else none) := by
  rw [position?, subscribe, List.lookup_append]
  congr 1
  by_cases same : reader = channel.nextReader
  · rw [if_pos same, same]
    exact List.lookup_cons_self
  · rw [if_neg same, List.lookup_cons, beq_eq_false_iff_ne.mpr same]
    rfl

theorem position?_unsubscribe_of_ne (channel : Broadcast ε) (ne : reader ≠ other) :
    (channel.unsubscribe other).position? reader = channel.position? reader := by
  rw [position?, position?, unsubscribe]
  dsimp only
  generalize channel.readers = readers
  induction readers with
  | nil => rfl
  | cons entry rest ih =>
    by_cases here : entry.1 = other
    · have away : (reader == entry.1) = false := beq_eq_false_iff_ne.mpr (here ▸ ne)
      rw [List.filter_cons_of_neg (by simpa using here), List.lookup_cons, away]
      exact ih
    · rw [List.filter_cons_of_pos (by simpa using here), List.lookup_cons, List.lookup_cons, ih]

theorem position?_unsubscribe_self (channel : Broadcast ε) (reader : ReaderId) :
    (channel.unsubscribe reader).position? reader = none := by
  rw [position?, List.lookup_eq_none_iff]
  intro entry member
  have other := (List.mem_filter.mp member).2
  exact bne_iff_ne.mpr (Ne.symm (of_decide_eq_true other))

theorem readers_ne_nil (present : channel.position? reader = some number) :
    channel.readers ≠ [] := by
  intro nobody
  rw [position?, nobody] at present
  cases present

/-! ## What remains for a reader -/

/-- The items that a reader can still be given. -/
def remaining (channel : Broadcast ε) (reader : ReaderId) : List ε :=
  match channel.position? reader with
  | some number => channel.items.toList.drop (max number channel.oldest)
  | none => []

theorem remaining_of_position (present : channel.position? reader = some number) :
    channel.remaining reader = channel.items.toList.drop (max number channel.oldest) := by
  rw [remaining, present]

theorem length_remaining (present : channel.position? reader = some number) :
    (channel.remaining reader).length = channel.items.size - max number channel.oldest := by
  rw [remaining_of_position present, List.length_drop, Array.length_toList]

/-- Nothing but a reader's position has changed, and it is given. -/
structure Moved (reader : ReaderId) (next : Nat) (before after : Broadcast ε) : Prop where
  /-- There is as much room as before. -/
  room : after.room = before.room
  /-- The items are the same. -/
  items : after.items = before.items
  /-- The channel is open if it was. -/
  isOpen : after.isOpen = before.isOpen
  /-- The next reader will have the same name. -/
  nextReader : after.nextReader = before.nextReader
  /-- The reader's position. -/
  position : after.position? reader = some next
  /-- The positions of all other readers are the same. -/
  others : ∀ other, other ≠ reader → after.position? other = before.position? other

theorem Moved.oldest {next : Nat} (moved : Moved reader next before after) :
    after.oldest = before.oldest := by
  rw [Broadcast.oldest, Broadcast.oldest, moved.room, moved.items]

theorem moved_moveTo (present : channel.position? reader = some number) (next : Nat) :
    Moved reader next channel (channel.moveTo reader next) where
  room := rfl
  items := rfl
  isOpen := rfl
  nextReader := rfl
  position := position?_moveTo present next
  others _ ne := position?_moveTo_of_ne ne next

/-- A reader has been given so many of the items that remained for it. -/
structure Takes (reader : ReaderId) (count : Nat) (before after : Broadcast ε) : Prop where
  /-- So many remained. -/
  enough : count ≤ (before.remaining reader).length
  /-- The reader is behind them now. -/
  moved : ∃ number, before.position? reader = some number ∧
    Moved reader (max number before.oldest + count) before after

/-- A channel as it comes of being made and used. -/
structure Tidy (channel : Broadcast ε) : Prop where
  /-- There is room for an item. -/
  room : 0 < channel.room
  /-- The next reader will have a new name. -/
  named : ∀ {reader number}, channel.position? reader = some number → reader < channel.nextReader
  /-- No reader wants an item after the one that will be sent next. -/
  within : ∀ {reader number}, channel.position? reader = some number → number ≤ channel.items.size

/-- A reader of such a channel. -/
structure Reads (channel : Broadcast ε) (reader : ReaderId) : Prop where
  /-- The channel is as it should be. -/
  tidy : channel.Tidy
  /-- The reader is there. -/
  present : ∃ number, channel.position? reader = some number

theorem Takes.tidy {count : Nat} (takes : Takes reader count before after)
    (tidy : before.Tidy) : after.Tidy := by
  obtain ⟨number, present, moved⟩ := takes.moved
  have next : max number before.oldest + count ≤ before.items.size := by
    have enough := takes.enough
    have within := tidy.within present
    rw [length_remaining present] at enough
    simp only [oldest] at enough ⊢
    omega
  refine ⟨moved.room ▸ tidy.room, fun {other} {_} here => ?_, fun {other} {_} here => ?_⟩
  · rw [moved.nextReader]
    by_cases same : other = reader
    · exact same ▸ tidy.named present
    · exact tidy.named (moved.others other same ▸ here)
  · rw [moved.items]
    by_cases same : other = reader
    · subst same
      exact Option.some.inj (moved.position.symm.trans here) ▸ next
    · exact tidy.within (moved.others other same ▸ here)

theorem Takes.reads {count : Nat} (takes : Takes reader count before after)
    (reads : before.Reads reader) : after.Reads reader :=
  ⟨takes.tidy reads.tidy, takes.moved.elim fun _ there => ⟨_, there.2.position⟩⟩

theorem Takes.isOpen {count : Nat} (takes : Takes reader count before after) :
    after.isOpen = before.isOpen := by
  obtain ⟨number, -, moved⟩ := takes.moved
  exact moved.isOpen

theorem Takes.remaining {count : Nat} (takes : Takes reader count before after) :
    after.remaining reader = (before.remaining reader).drop count := by
  obtain ⟨number, present, moved⟩ := takes.moved
  rw [remaining_of_position present, remaining_of_position moved.position, moved.items,
    moved.oldest, List.drop_drop]
  congr 1
  omega

theorem Takes.remaining_of_cons {item : ε} {rest : List ε} (takes : Takes reader 1 before after)
    (remains : before.remaining reader = item :: rest) : after.remaining reader = rest := by
  rw [takes.remaining, remains, List.drop_one, List.tail_cons]

theorem Takes.trans {count more : Nat} {final : Broadcast ε}
    (takes : Takes reader count before after) (on : Takes reader more after final) :
    Takes reader (more + count) before final := by
  obtain ⟨number, present, moved⟩ := takes.moved
  obtain ⟨_, present', moved'⟩ := on.moved
  obtain rfl := Option.some.inj (moved.position.symm.trans present')
  refine ⟨?_, number, present, ?_⟩
  · have enough := takes.enough
    have enough' := on.enough
    rw [takes.remaining, List.length_drop] at enough'
    omega
  · have same : max number before.oldest + (more + count) =
        max (max number before.oldest + count) after.oldest + more := by
      rw [moved.oldest]
      omega
    exact
      { room := moved'.room.trans moved.room
        items := moved'.items.trans moved.items
        isOpen := moved'.isOpen.trans moved.isOpen
        nextReader := moved'.nextReader.trans moved.nextReader
        position := same ▸ moved'.position
        others := fun other ne => (moved'.others other ne).trans (moved.others other ne) }

/-- A reader for whom nothing remains is not behind the oldest item. -/
theorem oldest_le_of_remaining_eq_nil (room : 0 < channel.room)
    (present : channel.position? reader = some number) (none : channel.remaining reader = []) :
    channel.oldest ≤ number := by
  have short := length_remaining present
  rw [none, List.length_nil] at short
  simp only [oldest] at short ⊢
  omega

theorem takes_nothing (reads : channel.Reads reader) (none : channel.remaining reader = []) :
    Takes reader 0 channel channel := by
  obtain ⟨number, present⟩ := reads.present
  refine ⟨Nat.zero_le _, number, present, rfl, rfl, rfl, rfl, ?_, fun _ _ => rfl⟩
  rw [present, Nat.max_eq_left (oldest_le_of_remaining_eq_nil reads.tidy.room present none),
    Nat.add_zero]

/-! ## Looking -/

/-- What a reader finds that is not behind the oldest item. -/
theorem receive_of_oldest_le (present : channel.position? reader = some number)
    (near : channel.oldest ≤ number) :
    channel.receive reader = match channel.remaining reader with
      | item :: _ => (.item item, channel.moveTo reader (number + 1))
      | [] => (if channel.isOpen then .empty else .closed, channel) := by
  rw [receive, present, remaining_of_position present, Nat.max_eq_left near]
  dsimp only
  rw [if_neg (Nat.not_lt.mpr near)]
  by_cases there : number < channel.items.size
  · rw [Array.getElem?_eq_getElem there, List.drop_eq_getElem_cons (by simpa using there)]
    rfl
  · rw [Array.getElem?_eq_none (Nat.le_of_not_lt there),
      List.drop_eq_nil_of_le (by simpa using there)]

/-- **Whoever looks again after a lag** is given the first of what remains, or is
told that there is nothing. -/
theorem receivePastLag_cases (reads : channel.Reads reader) :
    (∃ item rest lagged after, channel.remaining reader = item :: rest ∧
      channel.receivePastLag reader = (.item item, lagged, after) ∧
      Takes reader 1 channel after) ∨
    (channel.remaining reader = [] ∧
      channel.receivePastLag reader =
        (if channel.isOpen then .empty else .closed, false, channel)) := by
  obtain ⟨number, present⟩ := reads.present
  by_cases near : channel.oldest ≤ number
  · have found := receive_of_oldest_le present near
    cases remains : channel.remaining reader with
    | nil =>
      rw [remains] at found
      refine .inr ⟨rfl, ?_⟩
      rw [receivePastLag, found]
      cases channel.isOpen <;> rfl
    | cons item rest =>
      rw [remains] at found
      refine .inl ⟨item, rest, false, channel.moveTo reader (number + 1), rfl, ?_, ?_, number,
        present, ?_⟩
      · rw [receivePastLag, found]
      · rw [remains, List.length_cons]
        exact Nat.le_add_left 1 _
      · rw [Nat.max_eq_left near]
        exact moved_moveTo present _
  · -- Behind the oldest item, which there is, the reader is moved to it.
    have lagged : number < channel.oldest := Nat.lt_of_not_le near
    let moved := channel.moveTo reader channel.oldest
    have present' : moved.position? reader = some channel.oldest := position?_moveTo present _
    have same : moved.remaining reader = channel.remaining reader := by
      rw [remaining_of_position present, remaining_of_position present',
        show moved.oldest = channel.oldest from rfl, Nat.max_self,
        Nat.max_eq_right (Nat.le_of_lt lagged)]
      rfl
    have found := receive_of_oldest_le present' (Nat.le_refl channel.oldest)
    have told : channel.receive reader = (.lagged (channel.oldest - number), moved) := by
      rw [receive, present]
      exact if_pos lagged
    have some : channel.remaining reader ≠ [] := fun none =>
      near (oldest_le_of_remaining_eq_nil reads.tidy.room present none)
    obtain ⟨item, rest, remains⟩ := List.exists_cons_of_ne_nil some
    rw [same, remains] at found
    refine .inl ⟨item, rest, true, moved.moveTo reader (channel.oldest + 1), remains, ?_, ?_,
      number, present, ?_⟩
    · rw [receivePastLag, told]
      dsimp only
      rw [found]
    · rw [remains, List.length_cons]
      exact Nat.le_add_left 1 _
    · rw [Nat.max_eq_right (Nat.le_of_lt lagged)]
      have there := moved_moveTo present channel.oldest
      have on := moved_moveTo present' (channel.oldest + 1)
      exact { on with others := fun other ne => (on.others other ne).trans (there.others other ne) }

/-! ## The loops -/

theorem tryReceive_cases (reads : channel.Reads reader) :
    (∃ item rest after, channel.remaining reader = item :: rest ∧
      channel.tryReceive reader = (some item, after) ∧ Takes reader 1 channel after) ∨
    (channel.remaining reader = [] ∧ channel.tryReceive reader = (none, channel)) := by
  rcases receivePastLag_cases reads with
    ⟨item, rest, lagged, after, remains, looked, takes⟩ | ⟨none, looked⟩
  · refine .inl ⟨item, rest, after, remains, ?_, takes⟩
    rw [tryReceive, looked]
  · refine .inr ⟨none, ?_⟩
    rw [tryReceive, looked]
    cases channel.isOpen <;> rfl

end Broadcast

/-- What waiting comes to that has found an item or nothing. -/
def Awaited.ofFound {ε : Type} (isOpen : Bool) : Option ε → Awaited ε
  | some item => .ready item
  | none => if isOpen then .pending else .closed

namespace Broadcast

variable {ε : Type} {channel before after : Broadcast ε} {reader other : ReaderId}

theorem await_cases (reads : channel.Reads reader) :
    (∃ item rest lagged after, channel.remaining reader = item :: rest ∧
      channel.await reader = (.ready item, lagged, after) ∧ Takes reader 1 channel after) ∨
    (channel.remaining reader = [] ∧
      channel.await reader = (.ofFound channel.isOpen none, false, channel)) := by
  rcases receivePastLag_cases reads with
    ⟨item, rest, lagged, after, remains, looked, takes⟩ | ⟨none, looked⟩
  · refine .inl ⟨item, rest, lagged, after, remains, ?_, takes⟩
    rw [await, looked]
  · refine .inr ⟨none, ?_⟩
    rw [await, looked]
    cases channel.isOpen <;> rfl

/-- What is given to a reader that drains, if it may be given more than remains. -/
theorem drainUpTo_takes {limit : Nat} {channel : Broadcast ε} (reads : channel.Reads reader)
    (more : (channel.remaining reader).length < limit) :
    (channel.drainUpTo limit reader).1 = channel.remaining reader ∧
      Takes reader (channel.remaining reader).length channel
        (channel.drainUpTo limit reader).2 := by
  induction limit generalizing channel with
  | zero => exact absurd more (Nat.not_lt_zero _)
  | succ limit ih =>
    rcases tryReceive_cases reads with ⟨item, rest, after, remains, tried, takes⟩ | ⟨none, tried⟩
    · have left := takes.remaining_of_cons remains
      rw [remains] at more
      obtain ⟨given, on⟩ := ih (takes.reads reads) (left ▸ Nat.lt_of_succ_lt_succ more)
      rw [left] at given on
      rw [drainUpTo, tried, remains]
      exact ⟨congrArg (item :: ·) given, takes.trans on⟩
    · rw [drainUpTo, tried, none]
      exact ⟨rfl, takes_nothing reads none⟩

/-- The items that are received while a reader waits for one that `wanted` holds
of, among the next `limit`. -/
def receivedAmong (wanted : ε → Bool) : Nat → Broadcast ε → ReaderId → List ε
  | 0, _, _ => []
  | limit + 1, channel, reader =>
    match channel.await reader with
    | (.ready item, _, after) =>
      item :: if wanted item then [] else receivedAmong wanted limit after reader
    | _ => []

/-- The items up to the first that `wanted` holds of, or all if there is none. -/
def upToFirst (wanted : ε → Bool) (items : List ε) : List ε :=
  items.take (items.findIdx wanted + 1)

theorem upToFirst_cons (wanted : ε → Bool) (item : ε) (rest : List ε) :
    upToFirst wanted (item :: rest) =
      item :: if wanted item then [] else upToFirst wanted rest := by
  rw [upToFirst, List.findIdx_cons]
  cases wanted item <;> rfl

theorem upToFirst_append {wanted : ε → Bool} {skipped : List ε} {item : ε}
    (unwanted : ∀ other ∈ skipped, wanted other = false) (fits : wanted item = true)
    (rest : List ε) : upToFirst wanted (skipped ++ item :: rest) = skipped ++ [item] := by
  induction skipped with
  | nil => rw [List.nil_append, upToFirst_cons, if_pos fits, List.nil_append]
  | cons other skipped ih =>
    obtain ⟨first, others⟩ := List.forall_mem_cons.mp unwanted
    rw [List.cons_append, upToFirst_cons, first, ih others]
    rfl

/-- What is given to a reader that waits for an item of a kind, if it may be
given more than remains. -/
theorem awaitAmong_takes (wanted : ε → Bool) {limit : Nat} {channel : Broadcast ε}
    (reads : channel.Reads reader) (more : (channel.remaining reader).length < limit) :
    (channel.awaitAmong wanted limit reader).1 =
        .ofFound channel.isOpen ((channel.remaining reader).find? wanted) ∧
      channel.receivedAmong wanted limit reader = upToFirst wanted (channel.remaining reader) ∧
      Takes reader (upToFirst wanted (channel.remaining reader)).length channel
        (channel.awaitAmong wanted limit reader).2.2 := by
  induction limit generalizing channel with
  | zero => exact absurd more (Nat.not_lt_zero _)
  | succ limit ih =>
    rcases await_cases reads with
      ⟨item, rest, lagged, after, remains, awaited, takes⟩ | ⟨none, awaited⟩
    · have left := takes.remaining_of_cons remains
      rw [remains] at more
      obtain ⟨given, received, on⟩ := ih (takes.reads reads) (left ▸ Nat.lt_of_succ_lt_succ more)
      rw [left] at given received on
      rw [awaitAmong, receivedAmong, awaited, remains, upToFirst_cons, List.find?_cons]
      dsimp only
      cases wanted item with
      | true => exact ⟨rfl, rfl, takes⟩
      | false => exact ⟨takes.isOpen ▸ given, congrArg (item :: ·) received, takes.trans on⟩
    · rw [awaitAmong, receivedAmong, awaited, none]
      have nothing := takes_nothing reads none
      cases channel.isOpen <;> exact ⟨rfl, rfl, nothing⟩

/-- A reader has at least as many items yet to be given as remain for it. -/
theorem length_remaining_lt_backlog (reads : channel.Reads reader) :
    (channel.remaining reader).length < channel.backlog reader + 1 := by
  obtain ⟨number, present⟩ := reads.present
  rw [length_remaining present, backlog, present]
  dsimp only
  omega

/-! ## The four ways to read -/

/-- A way to read. -/
inductive Reading (ε : Type) where
  /-- The reader asks for the next item. -/
  | tryReceive
  /-- The reader waits for the next item. -/
  | await
  /-- The reader takes every item there is. -/
  | drain
  /-- The reader waits for an item of a kind. -/
  | awaitFirst (wanted : ε → Bool)

/-- What a reading is answered with. -/
inductive Answer (ε : Type) where
  /-- The next item, if there is one. -/
  | tried (found : Option ε)
  /-- What waiting comes to. -/
  | awaited (found : Awaited ε)
  /-- Items. -/
  | drained (items : List ε)
  deriving DecidableEq

namespace Reading

/-- Reads; gives the answer. -/
def ask (channel : Broadcast ε) (reader : ReaderId) : Reading ε → Answer ε × Broadcast ε
  | tryReceive => (.tried (channel.tryReceive reader).1, (channel.tryReceive reader).2)
  | await => (.awaited (channel.await reader).1, (channel.await reader).2.2)
  | drain => (.drained (channel.drain reader).1, (channel.drain reader).2)
  | awaitFirst wanted =>
    (.awaited (channel.awaitFirst reader wanted).1, (channel.awaitFirst reader wanted).2.2)

/-- The items that are received in the course of a reading. -/
def received (channel : Broadcast ε) (reader : ReaderId) : Reading ε → List ε
  | tryReceive => (channel.tryReceive reader).1.toList
  | await =>
    match (channel.await reader).1 with
    | .ready item => [item]
    | _ => []
  | drain => (channel.drain reader).1
  | awaitFirst wanted => channel.receivedAmong wanted (channel.backlog reader + 1) reader

/-- How much of what remains a reading uses up. -/
def uses : Reading ε → List ε → List ε
  | tryReceive, remaining => remaining.take 1
  | await, remaining => remaining.take 1
  | drain, remaining => remaining
  | awaitFirst wanted, remaining => upToFirst wanted remaining

/-- What a reading is to be answered with when so much remains. -/
def reply (isOpen : Bool) : Reading ε → List ε → Answer ε
  | tryReceive, remaining => .tried remaining.head?
  | await, remaining => .awaited (.ofFound isOpen remaining.head?)
  | drain, remaining => .drained remaining
  | awaitFirst wanted, remaining => .awaited (.ofFound isOpen (remaining.find? wanted))

/-- **All ways to read agree on what remains.** -/
theorem reads_remaining (reading : Reading ε) (reads : channel.Reads reader) :
    (reading.ask channel reader).1 = reading.reply channel.isOpen (channel.remaining reader) ∧
      reading.received channel reader = reading.uses (channel.remaining reader) ∧
      Takes reader (reading.uses (channel.remaining reader)).length channel
        (reading.ask channel reader).2 := by
  cases reading with
  | tryReceive =>
    rw [ask, received, reply, uses]
    rcases tryReceive_cases reads with ⟨item, rest, after, remains, tried, takes⟩ | ⟨none, tried⟩
    · rw [tried, remains]
      exact ⟨rfl, rfl, takes⟩
    · rw [tried, none]
      exact ⟨rfl, rfl, takes_nothing reads none⟩
  | await =>
    rw [ask, received, reply, uses]
    rcases await_cases reads with
      ⟨item, rest, lagged, after, remains, awaited, takes⟩ | ⟨none, awaited⟩
    · rw [awaited, remains]
      exact ⟨rfl, rfl, takes⟩
    · rw [awaited, none]
      have nothing := takes_nothing reads none
      cases channel.isOpen <;> exact ⟨rfl, rfl, nothing⟩
  | drain =>
    obtain ⟨given, takes⟩ := drainUpTo_takes reads (length_remaining_lt_backlog reads)
    exact ⟨congrArg Answer.drained given, given, takes⟩
  | awaitFirst wanted =>
    obtain ⟨given, received, takes⟩ :=
      awaitAmong_takes wanted reads (length_remaining_lt_backlog reads)
    exact ⟨congrArg Answer.awaited given, received, takes⟩

/-- Nobody who is not there changes anything by reading. -/
theorem ask_of_absent (reading : Reading ε) (absent : channel.position? reader = none) :
    (reading.ask channel reader).2 = channel := by
  have received : channel.receive reader = (.closed, channel) := by rw [receive, absent]
  have looked : channel.receivePastLag reader = (.closed, false, channel) := by
    rw [receivePastLag, received]
  have tried : channel.tryReceive reader = (none, channel) := by rw [Broadcast.tryReceive, looked]
  have awaited : channel.await reader = (.closed, false, channel) := by
    rw [Broadcast.await, looked]
  cases reading with
  | tryReceive => rw [ask, tried]
  | await => rw [ask, awaited]
  | drain => rw [ask, Broadcast.drain, drainUpTo, tried]
  | awaitFirst wanted => rw [ask, Broadcast.awaitFirst, awaitAmong, awaited]

/-- What a reading uses up is a beginning of what remains. -/
theorem uses_isPrefix (reading : Reading ε) (remaining : List ε) :
    reading.uses remaining <+: remaining := by
  cases reading with
  | drain => exact List.prefix_rfl
  | _ => exact List.take_prefix _ _

end Reading

/-- Waiting for an item of a kind uses up the items before it, and no more. -/
theorem Reads.awaitFirst (reads : channel.Reads reader) {wanted : ε → Bool} {skipped rest : List ε}
    {item : ε} (remains : channel.remaining reader = skipped ++ item :: rest)
    (unwanted : ∀ other ∈ skipped, wanted other = false) (fits : wanted item = true) :
    (channel.awaitFirst reader wanted).1 = .ready item ∧
      (channel.awaitFirst reader wanted).2.2.remaining reader = rest := by
  obtain ⟨found, -, takes⟩ := awaitAmong_takes wanted reads (length_remaining_lt_backlog reads)
  have first : (channel.remaining reader).find? wanted = some item := by
    rw [remains, List.find?_append, List.find?_cons_of_pos fits,
      List.find?_eq_none.mpr fun other member => by simp [unwanted other member]]
    rfl
  rw [first] at found
  refine ⟨found, takes.remaining.trans ?_⟩
  rw [remains, upToFirst_append unwanted fits, List.append_cons skipped item rest]
  exact List.drop_left

end Broadcast

/-! ## Event streams -/

/-- **A poll is a wait by the reader of the receive that is under way**, and the
stream has that reader again or still. -/
theorem EventStream.pollNext_eq {ε : Type} (stream : EventStream) (channel : Broadcast ε) :
    stream.pollNext channel =
      ((channel.await stream.next.reader).1, (channel.await stream.next.reader).2.1, stream,
        (channel.await stream.next.reader).2.2) := by
  rw [pollNext, Receiving.poll]
  match channel.await stream.next.reader with
  | (.ready _, _, _) => rfl
  | (.closed, _, _) => rfl
  | (.pending, _, _) => rfl

end StreamControl
