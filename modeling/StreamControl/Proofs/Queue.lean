import StreamControl.Proofs.Ledger

/-!
# The queue

A query waits because its filter is not started.  `Query.MayWait` says when a
query may be in the queue: its parameter is there and its filter is not marked
as started.  There are two exceptions: stray streams, whose parameters may be
gone, and streams that are due, whose filters may have been marked since.

`Session.Tended` says that only such queries wait, and which callbacks have been
handed a value for a query that had waited.  User code keeps a queue tended, as
any query that it adds may wait (`Session.Tended.keeps_run`).  A drain hands
values only to callbacks of streams that are due, and after it nothing is stray
or due any more (`Session.Tended.meets_drain`).
-/

set_option autoImplicit false

namespace StreamControl

/-- The mark of a filter that was found. -/
theorem ParameterTree.mark?_of_locate {tree : ParameterTree} {stream : StreamId}
    {filter name : String} {entry : FilterEntry} {parameter : Parameter}
    (located : tree.locate stream filter name = .ok (entry, parameter)) :
    tree.mark? stream filter = some entry.started := by
  obtain ⟨filters, hstream, hfilter, _⟩ := ParameterTree.locate_eq_ok_iff.mp located
  rw [mark?, hstream, Option.bind_some, hfilter, Option.map_some]

/-! ## Which queries may wait -/

/-- A query may wait, apart from streams that are stray and streams that are
due. -/
structure Query.MayWait (stray due : StreamId → Prop) (tree : ParameterTree) (query : Query) :
    Prop where
  /-- The parameter is there. -/
  there : tree.Has query.stream query.filter query.parameter ∨ stray query.stream
  /-- The filter is not marked as started. -/
  unmarked : tree.mark? query.stream query.filter = some true → due query.stream

/-- No stream. -/
def noStream : StreamId → Prop := fun _ => False

namespace Query.MayWait

variable {stray due : StreamId → Prop} {tree after : ParameterTree} {query : Query}

theorem kept (mayWait : query.MayWait stray due tree) (kept : tree.Kept after) :
    query.MayWait stray due after where
  there := mayWait.there.imp (kept.has _ _ _) id
  unmarked marked := mayWait.unmarked (kept.mark _ _ ▸ marked)

theorem mono {stray' due' : StreamId → Prop} (mayWait : query.MayWait stray due tree)
    (strays : ∀ stream, stray stream → stray' stream) (dues : ∀ stream, due stream → due' stream) :
    query.MayWait stray' due' tree :=
  ⟨mayWait.there.imp_right (strays _), fun marked => dues _ (mayWait.unmarked marked)⟩

theorem of_idle (stray due : StreamId → Prop) {entry : FilterEntry} {parameter : Parameter}
    (located : tree.locate query.stream query.filter query.parameter = .ok (entry, parameter))
    (idle : ¬ entry.started = true) : query.MayWait stray due tree where
  there := .inl ⟨_, located⟩
  unmarked marked := by
    rw [ParameterTree.mark?_of_locate located, Option.some.injEq] at marked
    exact absurd marked idle

/-! ### Changes that only a host makes -/

theorem attach (mayWait : query.MayWait stray due tree) (stream : StreamId) :
    query.MayWait stray due (tree.addStream stream) where
  there := mayWait.there.imp_left (ParameterTree.has_addStream stream)
  unmarked marked := mayWait.unmarked (ParameterTree.mark?_addStream _ _ _ _ ▸ marked)

theorem enroll (mayWait : query.MayWait stray due tree) {stream : StreamId} {filter : String}
    (added : tree.addFilter stream filter = .ok after) : query.MayWait stray due after where
  there := mayWait.there.imp_left (ParameterTree.has_addFilter added)
  unmarked marked := by
    rw [(ParameterTree.mark?_addFilter added).2.2] at marked
    split at marked
    · cases marked
    · exact mayWait.unmarked marked

/-- A filter is marked as started only in a stream that is due. -/
theorem mark (mayWait : query.MayWait stray due tree) {stream : StreamId} {filter : String}
    {started : Bool} (marks : tree.setStarted stream filter started = .ok after)
    (isDue : started = true → due stream) : query.MayWait stray due after where
  there := mayWait.there.imp_left ((ParameterTree.sameFilters_setStarted marks).has _ _ _)
  unmarked marked := by
    rw [ParameterTree.mark?_setStarted marks] at marked
    split at marked
    · rename_i here
      exact here.1 ▸ isDue (Option.some.inj marked)
    · exact mayWait.unmarked marked

/-- The queries of a stream that is forgotten are stray. -/
theorem forget (mayWait : query.MayWait stray due tree) (stream : StreamId) :
    query.MayWait (fun other => stray other ∨ other = stream) due (tree.removeStream stream) where
  there := by
    by_cases here : query.stream = stream
    · exact .inr (.inr here)
    · exact mayWait.there.imp ((ParameterTree.keptBut_removeStream _ _).has _ _ _ here) .inl
  unmarked marked := by
    rw [ParameterTree.mark?_removeStream] at marked
    split at marked
    · cases marked
    · exact mayWait.unmarked marked

end Query.MayWait

/-- An entry shows a callback that is handed a value for a query that had waited.
A query that is answered at once is answered right after it was accepted. -/
def Entry.Late (earlier : List Entry) (entry : Entry) (delivery : Delivery) : Prop :=
  ∃ ticket callback, entry.dispatched? = some (ticket, callback, delivery) ∧
    ∀ query, earlier.getLast? ≠ some (.accepted ticket query)

theorem Entry.not_late {earlier : List Entry} {entry : Entry} {delivery : Delivery}
    (silent : entry.dispatched? = none) : ¬ entry.Late earlier delivery := by
  rintro ⟨ticket, callback, shown, _⟩
  rw [silent] at shown
  cases shown

/-- The answer that directly follows the acceptance of a query is not late. -/
theorem Entry.not_late_of_accepted {earlier : List Entry} {entry : Entry} {ticket : Nat}
    {query : Query} {callback : Callback} {delivery other : Delivery}
    (shows : entry.dispatched? = some (ticket, callback, delivery)) :
    ¬ entry.Late (earlier ++ [.accepted ticket query]) other := by
  rintro ⟨ticket', callback', shown, apart⟩
  rw [shows, Option.some.injEq, Prod.mk.injEq] at shown
  obtain ⟨rfl, _⟩ := shown
  exact apart query List.getLast?_concat

/-- Among some entries that follow others, callbacks are handed a value for a query
that had waited only if it is one of an allowed filter. -/
def OnlyLate (allowed : StreamId → String → Prop) (prior entries : List Entry) : Prop :=
  ∀ earlier entry later, entries = earlier ++ entry :: later →
    ∀ delivery, entry.Late (prior ++ earlier) delivery → allowed delivery.stream delivery.filter

/-- Since the entries `prior`, only queries of allowed filters that had waited have
been answered. -/
def Journal.Answers (prior : List Entry) (allowed : StreamId → String → Prop) (journal : Journal) :
    Prop :=
  prior <+: journal.toList ∧ journal.Throughout fun earlier entry => prior.length ≤ earlier.length →
    ∀ delivery, entry.Late earlier delivery → allowed delivery.stream delivery.filter

/-- No filter. -/
def noFilter : StreamId → String → Prop := fun _ _ => False

namespace Journal.Answers

variable {prior : List Entry} {allowed : StreamId → String → Prop} {journal : Journal}

theorem refl (allowed : StreamId → String → Prop) (journal : Journal) :
    Journal.Answers journal.toList allowed journal := by
  refine ⟨List.prefix_rfl, fun earlier entry later split long => ?_⟩
  have short : earlier.length < journal.toList.length := by
    rw [split, List.length_append, List.length_cons]
    omega
  exact absurd long (Nat.not_le_of_lt short)

theorem push_of (answers : journal.Answers prior allowed) {entry : Entry}
    (last : ∀ delivery, entry.Late journal.toList delivery →
      allowed delivery.stream delivery.filter) :
    Journal.Answers prior allowed (journal.push entry) := by
  refine ⟨?_, answers.2.push fun _ => last⟩
  rw [Array.toList_push]
  exact answers.1.trans (List.prefix_append _ _)

theorem push (answers : journal.Answers prior allowed) {entry : Entry}
    (silent : entry.dispatched? = none) : Journal.Answers prior allowed (journal.push entry) :=
  answers.push_of fun _ late => absurd late (Entry.not_late silent)

/-- What has been written since. -/
theorem written (answers : journal.Answers prior allowed) : ∃ entries,
    journal.toList = prior ++ entries ∧ OnlyLate allowed prior entries := by
  obtain ⟨⟨entries, written⟩, all⟩ := answers
  refine ⟨entries, written.symm, fun earlier entry later split delivery late => ?_⟩
  refine all (prior ++ earlier) entry later ?_ ?_ delivery late
  · rw [← written, split, List.append_assoc]
  · rw [List.length_append]
    exact Nat.le_add_right _ _

end Journal.Answers

namespace Session

open StreamControl.Action

variable {σ : Type}

/-! ## A queue that is tended -/

/-- Only queries wait that may, and of those that had waited only some have been
answered since the entries `prior`; the tree has the shape of an earlier one. -/
structure Tended (prior : List Entry) (allowed : StreamId → String → Prop)
    (stray due : StreamId → Prop) (origin : ParameterTree) (session : Session σ) : Prop where
  /-- What has been answered. -/
  answers : session.journal.Answers prior allowed
  /-- What waits. -/
  waiting : ∀ item ∈ session.waiting, item.2.MayWait stray due session.tree
  /-- The shape of the tree. -/
  kept : origin.Kept session.tree

namespace Tended

variable {prior : List Entry} {allowed : StreamId → String → Prop} {stray due : StreamId → Prop}
  {origin : ParameterTree} {session : Session σ}

theorem push (tended : Tended prior allowed stray due origin session) {entry : Entry}
    (silent : entry.dispatched? = none) :
    Tended prior allowed stray due origin { session with journal := session.journal.push entry } :=
  { tended with answers := tended.answers.push silent }

/-- The shape may be compared with that of a tree in between. -/
theorem rebase (tended : Tended prior allowed stray due origin session) :
    Tended prior allowed stray due session.tree session := { tended with kept := .refl _ }

theorem robust (prior : List Entry) (allowed : StreamId → String → Prop)
    (stray due : StreamId → Prop) (origin : ParameterTree) :
    Robust (Tended prior allowed stray due origin : Session σ → Prop) where
  record plain tended := tended.push (Ledger.silent_of_isPlain plain).2.1
  memory _ tended := { tended with }
  tally _ tended := { tended with }
  channel _ tended := { tended with }
  edit edit tended :=
    { answers := tended.answers.push rfl
      waiting := fun item member => (tended.waiting item member).kept edit.kept
      kept := tended.kept.trans edit.kept }

/-- A query whose filter is not started joins the queue, or is dropped if there is
no host. -/
theorem meets_defer {callees : Callees σ} {ticket : Nat} {query : Query}
    (tended : Tended prior allowed stray due origin session) {entry : FilterEntry}
    {parameter : Parameter}
    (located : session.tree.locate query.stream query.filter query.parameter =
      .ok (entry, parameter))
    (idle : ¬ entry.started = true) :
    (defer callees ticket query).Meets session (fun _ => Tended prior allowed stray due origin)
      (fun _ _ => False) (fun _ _ => False) := by
  refine meets_defer_idle located idle (fun _ => ?_) fun _ => tended.push rfl
  refine { answers := tended.answers.push rfl, waiting := fun item member => ?_, kept := tended.kept }
  rcases List.mem_append.mp member with old | new
  · exact tended.waiting item old
  · rw [List.mem_singleton.mp new]
    exact .of_idle stray due located idle

section Query

variable {callees : Callees σ}
  (callbacks : ∀ reference delivery,
    Keeps (Tended prior allowed stray due origin) False True (callees.callback reference delivery))
include callbacks

/-- A callback is handed a value for a query, at once or because its filter is
allowed. -/
theorem meets_dispatch {ticket : Nat} {callback : Callback} {delivery : Delivery}
    (tended : Tended prior allowed stray due origin session)
    (fresh : ∀ entry : Entry, entry.dispatched? = some (ticket, callback, delivery) →
      ∀ other, entry.Late session.journal.toList other → allowed other.stream other.filter) :
    (dispatch callees (.query ticket) callback delivery).Meets session
      (fun _ => Tended prior allowed stray due origin) (fun _ _ => False) (fun _ _ => False) :=
  (robust prior allowed stray due origin).meets_dispatch (callbacks _ _)
    { tended with answers := tended.answers.push_of (fresh _ rfl) }
    { tended with answers := tended.answers.push_of (fresh _ rfl) }
    fun _ _ tended => tended.push rfl

theorem keeps_query (query : Query) :
    Keeps (Tended prior allowed stray due origin) False True (Session.query callees query) := by
  have accepted {session : Session σ} (tended : Tended prior allowed stray due origin session) :
      Tended prior allowed stray due origin (session.accepting query) :=
    { tended with answers := (tended.answers.push rfl).push rfl }
  refine (robust prior allowed stray due origin).toPliant.keeps_query_of
    (fun tended located started => ?_) fun tended located idle =>
      (accepted tended).meets_defer located idle
  refine meets_dispatch callbacks (accepted tended) fun entry shows other late => ?_
  rw [accepting, Array.toList_push] at late
  exact absurd late (Entry.not_late_of_accepted shows)

end Query

/-- User code keeps a queue tended. -/
theorem keeps_callback (code : UserCode σ) (reference : CodeRef) (delivery : Delivery) :
    Keeps (Tended prior allowed stray due origin) False True
      (code.callees.callback reference delivery) :=
  (code.callees_keep (robust prior allowed stray due origin) (fun _ => keeps_query) _
    _).callback _ _

theorem keeps_run {α : Type} (code : UserCode σ) (program : Program σ α) :
    Keeps (Tended prior allowed stray due origin) False True (code.run program) :=
  code.run_keeps (robust prior allowed stray due origin) (fun _ => keeps_query) program

/-! ## Draining -/

section Drain

variable {callees : Callees σ}
  (callbacks : ∀ origin reference delivery, Keeps (Tended prior allowed noStream noStream origin)
    False True (callees.callback reference delivery))
  (due_allowed : ∀ stream filter, origin.mark? stream filter = some true → due stream →
    allowed stream filter)
include callbacks due_allowed

/-- A pass over some queries answers those of allowed filters, and gives back those
that may go on waiting without exception. -/
theorem meets_sweep {queries : List (Nat × Query)}
    (held : ∀ item ∈ queries, item.2.MayWait stray due origin)
    (tended : Tended prior allowed noStream noStream origin session) :
    (sweep callees queries).Meets session
      (fun result after => Tended prior allowed noStream noStream origin after ∧
        ∀ item ∈ result.1, item.2.MayWait noStream noStream after.tree)
      (fun _ _ => False) (fun _ _ => False) := by
  refine (meets_sweep_of (R := fun rest still _ session =>
    (Tended prior allowed noStream noStream origin session ∧
      ∀ item ∈ still, item.2.MayWait noStream noStream session.tree) ∧
        ∀ item ∈ rest, item.2.MayWait stray due origin) ?message ?answered ?vanished ?due ?early
          ⟨⟨tended, fun _ member => (List.not_mem_nil member).elim⟩, held⟩).imp
            fun _ _ both => both.1
  case message => exact fun _ _ ⟨⟨tended, fine⟩, held⟩ => ⟨⟨tended.push rfl, fine⟩, held⟩
  case answered | vanished =>
    exact fun _ ⟨both, held⟩ => ⟨both, (List.forall_mem_cons.mp held).2⟩
  case due =>
    rintro ticket query rest still _ session entry parameter _ located started ⟨⟨tended, fine⟩, held⟩
    obtain ⟨mayWait, others⟩ := List.forall_mem_cons.mp held
    have marked : origin.mark? query.stream query.filter = some true := by
      rw [← tended.kept.mark, ParameterTree.mark?_of_locate located, started]
    have permitted : allowed query.stream query.filter :=
      due_allowed _ _ marked (mayWait.unmarked marked)
    -- What has been given back is compared with the tree of this moment.
    have claimed : Tended prior allowed noStream noStream session.tree
        { session with claimed := ticket :: session.claimed } := { tended.rebase with }
    refine (meets_dispatch (callbacks session.tree) claimed ?_).imp fun outcome after answered => ?_
    · rintro entry shows other ⟨_, _, shown, _⟩
      rw [shows, Option.some.injEq, Prod.mk.injEq, Prod.mk.injEq] at shown
      rw [← shown.2.2]
      exact permitted
    · exact ⟨⟨{ answered with kept := tended.kept.trans answered.kept },
        fun item member => (fine item member).kept answered.kept⟩, others⟩
  case early =>
    rintro ticket query rest still _ session entry parameter _ located idle ⟨⟨tended, fine⟩, held⟩
    refine ⟨⟨tended, ?_⟩, (List.forall_mem_cons.mp held).2⟩
    rw [List.forall_mem_append, List.forall_mem_singleton]
    exact ⟨fine, .of_idle noStream noStream located idle⟩

end Drain

/-- **A drain** answers queries of allowed filters only.  Afterwards only queries
wait that may, without exception. -/
theorem meets_drain (code : UserCode σ) (tended : Tended prior allowed stray due origin session)
    (due_allowed : ∀ stream filter, session.tree.mark? stream filter = some true → due stream →
      allowed stream filter) :
    (drain code.callees).Meets session (fun _ => Tended prior allowed noStream noStream origin)
      (fun _ _ => False) (fun _ _ => False) := by
  have callbacks : ∀ origin reference delivery, Keeps (Tended prior allowed noStream noStream origin)
      False True (code.callees.callback reference delivery) := fun _ => keeps_callback code
  have emptied : Tended prior allowed noStream noStream session.tree { session with waiting := [] } :=
    { tended with
      waiting := fun _ member => (List.not_mem_nil member).elim
      kept := .refl _ }
  rw [meets_drain_iff]
  refine (meets_sweep callbacks due_allowed tended.waiting emptied).always
    fun first between both => ?_
  obtain ⟨swept, still⟩ := both
  have joined : Tended prior allowed noStream noStream between.tree { between with waiting := [] } :=
    { swept with
      waiting := fun _ member => (List.not_mem_nil member).elim
      kept := .refl _ }
  refine (meets_sweep callbacks (fun _ _ _ impossible => impossible.elim) swept.waiting
    joined).always fun second after both => ?_
  obtain ⟨tended', more⟩ := both
  refine { tended' with
    waiting := fun item member => ?_
    kept := tended.kept.trans (swept.kept.trans tended'.kept) }
  rcases List.mem_append.mp member with early | late
  · rcases List.mem_append.mp early with early | late
    · exact (still item early).kept tended'.kept
    · exact more item late
  · exact tended'.waiting item late

end Tended

end Session

end StreamControl
