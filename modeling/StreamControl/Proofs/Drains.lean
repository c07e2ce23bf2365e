import Mathlib.Data.List.Nodup
import StreamControl.Proofs.Exhaustion
import StreamControl.Proofs.Popping
import StreamControl.Proofs.QueryFates
import StreamControl.Proofs.Queue

/-!
# A drain is one pass over the queue

Whatever the callbacks do meanwhile, a drain answers the queries of the queue whose
filters are started, once each and in their order; it lets go of those that somebody has
answered or whose parameter is not there; and it leaves the others in the queue, in their
order, with those behind them that callbacks have made in the meantime (`Host.drains`).
All of this can be told from the session as it was before: callbacks start no filter, take
no parameter away, and what they ask for has a ticket of its own.

So while the queue is looked through, what has been written and what waits follow from
what has been answered so far (`Session.Draining`).  User code keeps that up whatever it
does, and each turn of a pass adds one query to what has been answered, or none.
-/

set_option autoImplicit false

namespace StreamControl

/-! ## Queries that are made and answered -/

/-- The query that is answered when a callback is handed a value. -/
def Delivery.asked (delivery : Delivery) (callback : Callback) : Query :=
  { stream := delivery.stream, filter := delivery.filter, parameter := delivery.parameter, callback,
    context := delivery.context }

/-- The query that an entry shows to be answered, with its ticket. -/
def Entry.answered? (entry : Entry) : Option (Nat × Query) :=
  entry.dispatched?.map fun (ticket, callback, delivery) => (ticket, delivery.asked callback)

namespace Journal

/-- The queries that are accepted in some entries, with their tickets. -/
def made (entries : List Entry) : List (Nat × Query) := entries.filterMap Entry.accepted?

/-- The queries that are answered in some entries, with their tickets. -/
def answered (entries : List Entry) : List (Nat × Query) := entries.filterMap Entry.answered?

theorem made_append (entries more : List Entry) :
    made (entries ++ more) = made entries ++ made more := List.filterMap_append

theorem answered_append (entries more : List Entry) :
    answered (entries ++ more) = answered entries ++ answered more := List.filterMap_append

theorem made_cons (entry : Entry) (rest : List Entry) :
    made (entry :: rest) = entry.accepted?.toList ++ made rest := by
  cases accepts : entry.accepted? <;> simp [made, accepts]

theorem answered_cons (entry : Entry) (rest : List Entry) :
    answered (entry :: rest) = entry.answered?.toList ++ answered rest := by
  cases answers : entry.answered? <;> simp [answered, answers]

theorem made_concat_of_none {entries : List Entry} {entry : Entry}
    (accepts : entry.accepted? = none) : made (entries ++ [entry]) = made entries := by
  rw [made_append, made_cons, accepts]
  exact List.append_nil _

theorem answered_concat {entries : List Entry} {entry : Entry} :
    answered (entries ++ [entry]) = answered entries ++ entry.answered?.toList := by
  rw [answered_append, answered_cons]
  exact congrArg _ (List.append_nil _)

end Journal

namespace Query

/-- Whether the filter of a query is marked as started; nothing if its parameter is not
there. -/
def ready? (query : Query) (tree : ParameterTree) : Option Bool :=
  match tree.locate query.stream query.filter query.parameter with
  | .ok (entry, _) => some entry.started
  | .error _ => none

variable {query : Query} {tree : ParameterTree}

theorem ready?_of_ok {entry : FilterEntry} {parameter : Parameter}
    (located : tree.locate query.stream query.filter query.parameter = .ok (entry, parameter)) :
    query.ready? tree = some entry.started := by
  rw [ready?, located]

theorem ready?_of_error {fault : QueryFault}
    (located : tree.locate query.stream query.filter query.parameter = .error fault) :
    query.ready? tree = none := by
  rw [ready?, located]

theorem exists_of_ready? {started : Bool} (ready : query.ready? tree = some started) :
    ∃ entry parameter, tree.locate query.stream query.filter query.parameter =
      .ok (entry, parameter) ∧ entry.started = started := by
  cases located : tree.locate query.stream query.filter query.parameter with
  | error fault =>
    rw [ready?_of_error located] at ready
    cases ready
  | ok found =>
    rw [ready?_of_ok located] at ready
    exact ⟨found.1, found.2, rfl, Option.some.inj ready⟩

theorem ready?_of_has (has : tree.Has query.stream query.filter query.parameter) :
    query.ready? tree = tree.mark? query.stream query.filter := by
  obtain ⟨⟨entry, parameter⟩, located⟩ := has
  rw [ready?_of_ok located, ParameterTree.mark?_of_locate located]

theorem ready?_of_not_has (gone : ¬tree.Has query.stream query.filter query.parameter) :
    query.ready? tree = none := by
  cases located : tree.locate query.stream query.filter query.parameter with
  | error fault => exact ready?_of_error located
  | ok found => exact absurd ⟨found, located⟩ gone

/-- A query stays as ready as it was, unless its parameter was missing in a known stream. -/
theorem ready?_kept {after : ParameterTree} (kept : tree.Kept after)
    (settled : tree.Knows query.stream → tree.Has query.stream query.filter query.parameter) :
    query.ready? after = query.ready? tree := by
  by_cases has : tree.Has query.stream query.filter query.parameter
  · rw [ready?_of_has (kept.has _ _ _ has), ready?_of_has has, kept.mark]
  · have gone : ¬after.Has query.stream query.filter query.parameter := fun found =>
      has (settled ((kept.knows _).mp found.knows))
    rw [ready?_of_not_has gone, ready?_of_not_has has]

end Query

namespace Session

open StreamControl.Action

variable {σ : Type}

/-! ## What a drain finds -/

section Judging

variable (session : Session σ) (item : Nat × Query)

/-- Whether a query that waits is to be answered: nobody has, and its filter is started. -/
def isDue : Bool := item.1 ∉ session.claimed ∧ item.2.ready? session.tree = some true

/-- Whether a query that waits goes on waiting: nobody has answered it, and its parameter
is there, but its filter is not started. -/
def isIdle : Bool := item.1 ∉ session.claimed ∧ item.2.ready? session.tree = some false

/-- Whether a query that is made now is answered at once. -/
def isPrompt : Bool := session.tree.mark? item.2.stream item.2.filter = some true

/-- Whether a query that is made now joins the queue. -/
def admits : Bool := session.isOpen && !session.isPrompt item

end Judging

/-- A session in which somebody has answered some queries that waited. -/
def claiming (taken : List Nat) (session : Session σ) : Session σ :=
  { session with claimed := taken ++ session.claimed }

/-- A session whose queue has no query twice and none that could be given its ticket again,
and in which the parameters of those that wait are there as long as their streams are. -/
structure Ticketed (session : Session σ) : Prop where
  /-- No query waits twice. -/
  distinct : (session.waiting.map (·.1)).Nodup
  /-- What waits has a ticket that has been given out. -/
  issued : ∀ item ∈ session.waiting, item.1 < session.nextTicket
  /-- So has what is claimed. -/
  claimed : ∀ ticket ∈ session.claimed, ticket < session.nextTicket
  /-- The parameter of what waits is there as long as its stream is. -/
  has : ∀ item ∈ session.waiting, session.tree.Knows item.2.stream →
    session.tree.Has item.2.stream item.2.filter item.2.parameter

theorem Ledger.ticketed {lost : List Nat} {isShutDown : Bool} {number : UInt32}
    {session : Session σ} (ledger : Ledger lost isShutDown number [] session) {taken : List Nat}
    (issued : ∀ ticket ∈ taken, ticket < session.nextTicket) :
    Ticketed (session.claiming taken) where
  distinct := ledger.distinct
  issued item waits := by
    have accepted := List.mem_map_of_mem (f := (·.1)) (ledger.pending item waits).1
    rwa [ledger.tickets, List.mem_range] at accepted
  claimed := List.forall_mem_append.mpr ⟨issued, ledger.claimed⟩
  has item waits := ledger.has item (ledger.pending item waits).1

/-! ## While the queue is looked through -/

/-- What the journal has come to say since an earlier session, and what waits now, while
the queue of that session is looked through and some of its queries have been answered. -/
structure Draining (origin : Session σ) (answered : List (Nat × Query)) (since : List Entry)
    (session : Session σ) : Prop where
  /-- What has been written since. -/
  journal : session.journal.toList = origin.journal.toList ++ since
  /-- The host is there, or not, as before. -/
  isOpen : session.isOpen = origin.isOpen
  /-- The tree has its shape. -/
  tree : origin.tree.Kept session.tree
  /-- The queries that have been answered have been claimed. -/
  claimed : session.claimed = (answered.map (·.1)).reverse ++ origin.claimed
  /-- Queries that are made have tickets of their own. -/
  tickets : (Journal.made since).map (·.1) =
    List.range' origin.nextTicket (Journal.made since).length
  /-- The next ticket is new. -/
  next : session.nextTicket = origin.nextTicket + (Journal.made since).length
  /-- The parameters of the queries that are made are there. -/
  has : ∀ item ∈ Journal.made since,
    session.tree.Has item.2.stream item.2.filter item.2.parameter
  /-- Of earlier queries these have been answered, in this order. -/
  early : (Journal.answered since).filter (·.1 < origin.nextTicket) = answered
  /-- Of the queries that are made, those are answered whose filters are started. -/
  prompt : (Journal.answered since).filter (origin.nextTicket ≤ ·.1) =
    (Journal.made since).filter origin.isPrompt
  /-- The others wait. -/
  waiting : session.waiting = (Journal.made since).filter origin.admits

namespace Draining

variable {origin session : Session σ} {answered : List (Nat × Query)} {since : List Entry}

/-- At first nothing has been answered, and the queue is empty. -/
theorem start (origin : Session σ) : Draining origin [] [] { origin with waiting := [] } where
  journal := (List.append_nil _).symm
  isOpen := rfl
  tree := .refl _
  claimed := rfl
  tickets := rfl
  next := rfl
  has _ member := (List.not_mem_nil member).elim
  early := rfl
  prompt := rfl
  waiting := rfl

/-- An entry shows that some queries of the queue are answered, or none. -/
theorem write (draining : Draining origin answered since session) {entry : Entry}
    (accepts : entry.accepted? = none) {items : List (Nat × Query)}
    (answers : entry.answered?.toList = items)
    (issued : ∀ item ∈ items, item.1 < origin.nextTicket) :
    Draining origin (answered ++ items) (since ++ [entry])
      { session with
        claimed := (items.map (·.1)).reverse ++ session.claimed
        journal := session.journal.push entry } := by
  have made : Journal.made (since ++ [entry]) = Journal.made since :=
    Journal.made_concat_of_none accepts
  have further : Journal.answered (since ++ [entry]) = Journal.answered since ++ items := by
    rw [Journal.answered_concat, answers]
  have early := List.filter_eq_self.mpr fun item member => decide_eq_true (issued item member)
  have late : items.filter (origin.nextTicket ≤ ·.1) = [] :=
    List.filter_eq_nil_iff.mpr fun item member => by simpa using issued item member
  constructor
  case journal => rw [Array.toList_push, draining.journal, List.append_assoc]
  case isOpen => exact draining.isOpen
  case tree => exact draining.tree
  case claimed =>
    rw [draining.claimed, List.map_append, List.reverse_append, List.append_assoc]
  case tickets => rw [made]; exact draining.tickets
  case next => rw [made]; exact draining.next
  case has => rw [made]; exact draining.has
  case early => rw [further, List.filter_append, draining.early, early]
  case prompt => rw [further, made, List.filter_append, draining.prompt, late, List.append_nil]
  case waiting => rw [made]; exact draining.waiting

theorem push (draining : Draining origin answered since session) {entry : Entry}
    (accepts : entry.accepted? = none) (dispatches : entry.dispatched? = none) :
    Draining origin answered (since ++ [entry])
      { session with journal := session.journal.push entry } := by
  have silent : entry.answered?.toList = [] := by
    rw [Entry.answered?, dispatches]
    rfl
  have written := draining.write accepts silent fun _ member => (List.not_mem_nil member).elim
  rwa [List.append_nil] at written

/-- A query of the queue is answered. -/
theorem answer (draining : Draining origin answered since session) {item : Nat × Query}
    (issued : item.1 < origin.nextTicket) {entry : Entry} (accepts : entry.accepted? = none)
    (answers : entry.answered? = some item) :
    Draining origin (answered ++ [item]) (since ++ [entry])
      { session with
        claimed := item.1 :: session.claimed
        journal := session.journal.push entry } :=
  draining.write accepts (congrArg Option.toList answers) (List.forall_mem_singleton.mpr issued)

theorem grow (draining : Draining origin answered since session) {tree : ParameterTree}
    (kept : session.tree.Kept tree) :
    Draining origin answered (since ++ [.grown tree])
      { session with tree, journal := session.journal.push (.grown tree) } :=
  have grown : Draining origin answered since { session with tree } :=
    { draining with
      tree := draining.tree.trans kept
      has := fun item made => kept.has _ _ _ (draining.has item made) }
  grown.push rfl rfl

/-- A query is made.  It is answered at once or joins the queue, or neither if there is no
host. -/
theorem ask (draining : Draining origin answered since session) {query : Query}
    (has : session.tree.Has query.stream query.filter query.parameter) {said : Entry}
    (accepts : said.accepted? = none)
    (answers : said.answered?.toList = [(session.nextTicket, query)].filter origin.isPrompt)
    {waiting : List (Nat × Query)}
    (waits : waiting = session.waiting ++ [(session.nextTicket, query)].filter origin.admits) :
    Draining origin answered (since ++ [.counted .queriesAccepted query.filter query.parameter,
        .accepted session.nextTicket query, said])
      { session.accepting query with
        waiting, journal := (session.accepting query).journal.push said } := by
  have all : Journal.made (since ++ [.counted .queriesAccepted query.filter query.parameter,
      .accepted session.nextTicket query, said]) =
        Journal.made since ++ [(session.nextTicket, query)] := by
    rw [Journal.made_append, Journal.made_cons, Journal.made_cons, Journal.made_cons, accepts]
    rfl
  have further : Journal.answered (since ++ [.counted .queriesAccepted query.filter query.parameter,
      .accepted session.nextTicket query, said]) =
        Journal.answered since ++ [(session.nextTicket, query)].filter origin.isPrompt := by
    rw [Journal.answered_append, Journal.answered_cons, Journal.answered_cons,
      Journal.answered_cons, answers]
    exact congrArg _ (List.append_nil _)
  have late : origin.nextTicket ≤ session.nextTicket := draining.next ▸ Nat.le_add_right _ _
  have new : ∀ item ∈ [(session.nextTicket, query)].filter origin.isPrompt,
      origin.nextTicket ≤ item.1 := fun item member => by
    rw [List.mem_singleton.mp (List.mem_filter.mp member).1]
    exact late
  constructor
  case journal =>
    rw [Array.toList_push, toList_accepting, draining.journal, List.append_assoc, List.append_assoc]
    rfl
  case isOpen => exact draining.isOpen
  case tree => exact draining.tree
  case claimed => exact draining.claimed
  case tickets =>
    rw [all, List.map_append, draining.tickets, List.length_append, List.length_singleton,
      List.range'_1_concat, ← draining.next]
    rfl
  case next =>
    rw [all, List.length_append, List.length_singleton, ← Nat.add_assoc, ← draining.next]
    rfl
  case has =>
    rw [all, List.forall_mem_append, List.forall_mem_singleton]
    exact ⟨draining.has, has⟩
  case early =>
    rw [further, List.filter_append, draining.early,
      List.filter_eq_nil_iff.mpr fun item member => by simpa using new item member, List.append_nil]
  case prompt =>
    have kept := List.filter_eq_self.mpr fun item member => decide_eq_true (new item member)
    rw [further, List.filter_append, draining.prompt, all, List.filter_append, kept]
  case waiting => rw [waits, draining.waiting, all, List.filter_append]

/-! ### User code -/

/-- The queue of an earlier session is looked through, and these queries have been
answered. -/
def Underway (origin : Session σ) (answered : List (Nat × Query)) (session : Session σ) : Prop :=
  ∃ since, Draining origin answered since session

theorem robust (origin : Session σ) (answered : List (Nat × Query)) :
    Robust (Underway origin answered) where
  record plain := fun ⟨_, draining⟩ =>
    have silent := Ledger.silent_of_isPlain plain
    ⟨_, draining.push silent.1 silent.2.1⟩
  memory _ := fun ⟨_, draining⟩ => ⟨_, { draining with }⟩
  tally _ := fun ⟨_, draining⟩ => ⟨_, { draining with }⟩
  channel _ := fun ⟨_, draining⟩ => ⟨_, { draining with }⟩
  edit change := fun ⟨_, draining⟩ => ⟨_, draining.grow change.kept⟩

/-- A query that is made while the queue is looked through is answered at once if its
filter is started, and joins the queue if not. -/
theorem keeps_query {callees : Callees σ}
    (callbacks : ∀ reference delivery,
      Keeps (Underway origin answered) False True (callees.callback reference delivery))
    (query : Query) :
    Keeps (Underway origin answered) False True (Session.query callees query) := by
  refine (robust origin answered).toPliant.keeps_query_of
    (fun {session entry parameter} underway located started => ?_)
    fun {session entry parameter} underway located idle => ?_
  · obtain ⟨since, draining⟩ := underway
    -- User code starts no filter, so this one was started when the drain began.
    have prompt : origin.isPrompt (session.nextTicket, query) = true := by
      rw [isPrompt, ← draining.tree.mark, ParameterTree.mark?_of_locate located, started]
      rfl
    have made {said : Entry} (accepts : said.accepted? = none)
        (answers : said.answered? = some (session.nextTicket, query)) :
        Underway origin answered { session.accepting query with
          journal := (session.accepting query).journal.push said } := by
      refine ⟨_, draining.ask ⟨_, located⟩ accepts ?_ ?_⟩
      · rw [answers, List.filter_cons_of_pos prompt]
        rfl
      · rw [List.filter_cons_of_neg (by simp [admits, prompt]), List.filter_nil, List.append_nil]
        rfl
    exact (robust origin answered).meets_dispatch (callbacks _ _) (made rfl rfl) (made rfl rfl)
      fun _ _ ⟨_, draining⟩ => ⟨_, draining.push rfl rfl⟩
  · obtain ⟨since, draining⟩ := underway
    have late : ¬origin.isPrompt (session.nextTicket, query) = true := by
      rw [isPrompt, ← draining.tree.mark, ParameterTree.mark?_of_locate located]
      simpa using idle
    have unanswered (text : String) : (Entry.message .debug text).answered?.toList =
        [(session.nextTicket, query)].filter origin.isPrompt := by
      rw [List.filter_cons_of_neg late]
      rfl
    have there : (session.accepting query).tree.locate query.stream query.filter query.parameter =
        .ok (entry, parameter) := located
    refine meets_defer_idle there idle (fun opened => ?_) fun closed => ?_
    · have admitted : origin.admits (session.nextTicket, query) = true := by
        rw [admits, ← draining.isOpen, Bool.and_eq_true, Bool.not_eq_true']
        exact ⟨opened, Bool.not_eq_true _ ▸ late⟩
      refine ⟨_, draining.ask ⟨_, located⟩ rfl (unanswered _) ?_⟩
      rw [List.filter_cons_of_pos admitted]
      rfl
    · have barred : ¬origin.admits (session.nextTicket, query) = true := by
        rw [admits, ← draining.isOpen, Bool.and_eq_true]
        exact fun both => nomatch closed.symm.trans both.1
      refine ⟨_, draining.ask ⟨_, located⟩ rfl (unanswered _) ?_⟩
      rw [List.filter_cons_of_neg barred, List.filter_nil, List.append_nil]
      rfl

/-- User code changes nothing of what follows from what has been answered. -/
theorem keeps_callback (code : UserCode σ) (origin : Session σ) (answered : List (Nat × Query))
    (reference : CodeRef) (delivery : Delivery) :
    Keeps (Underway origin answered) False True (code.callees.callback reference delivery) :=
  (code.callees_keep (robust origin answered) (fun _ => keeps_query) _ _).callback _ _

/-- No two queries are made under one ticket. -/
theorem distinct (draining : Draining origin answered since session) :
    ((Journal.made since).map (·.1)).Nodup := draining.tickets ▸ List.nodup_range'

/-- Queries are made under new tickets. -/
theorem late (draining : Draining origin answered since session) :
    ∀ item ∈ Journal.made since, origin.nextTicket ≤ item.1 := fun item made => by
  have ticket := List.mem_map_of_mem (f := (·.1)) made
  rw [draining.tickets, List.mem_range'_1] at ticket
  exact ticket.1

/-! ### Turns -/

section Turns

variable {queries seen rest later : List (Nat × Query)} {item : Nat × Query}

/-- Nobody claims a query of the queue before its turn. -/
theorem mem_claimed (draining : Draining origin (seen.filter origin.isDue) since session)
    (ticketed : origin.Ticketed) (queue : origin.waiting = seen ++ item :: rest) :
    item.1 ∈ session.claimed ↔ item.1 ∈ origin.claimed := by
  have distinct := ticketed.distinct
  rw [queue, List.map_append, List.map_cons, List.nodup_append] at distinct
  have apart : item.1 ∉ ((seen.filter origin.isDue).map (·.1)).reverse := by
    rw [List.mem_reverse, List.mem_map]
    rintro ⟨other, member, same⟩
    have among := List.mem_map_of_mem (f := (·.1)) (List.mem_filter.mp member).1
    exact distinct.2.2 _ among _ List.mem_cons_self same
  rw [draining.claimed, List.mem_append, or_iff_right apart]

/-- A query of the queue is as ready at its turn as it was. -/
theorem ready? (draining : Draining origin answered since session) (ticketed : origin.Ticketed)
    (queue : origin.waiting = seen ++ item :: rest) :
    item.2.ready? session.tree = item.2.ready? origin.tree := by
  have waits : item ∈ origin.waiting := queue ▸ List.mem_append_right _ List.mem_cons_self
  exact Query.ready?_kept draining.tree (ticketed.has item waits)

/-- A query of the queue is judged at its turn as before. -/
theorem judged (draining : Draining origin (seen.filter origin.isDue) since session)
    (ticketed : origin.Ticketed) (queue : origin.waiting = seen ++ item :: rest) :
    session.isDue item = origin.isDue item ∧ session.isIdle item = origin.isIdle item := by
  have free : item.1 ∉ session.claimed ↔ item.1 ∉ origin.claimed :=
    not_congr (draining.mem_claimed ticketed queue)
  simp only [isDue, isIdle, draining.ready? ticketed queue, free, and_self]

end Turns

end Draining

/-! ## Passes -/

section Passes

variable {callees : Callees σ} {origin session : Session σ} {queries later : List (Nat × Query)}

/-- Some queries of the queue are looked through: what goes on waiting, and how many have
been answered, is told by those that have had their turn. -/
def Pass (origin : Session σ) (queries rest still : List (Nat × Query)) (count : Nat)
    (session : Session σ) : Prop :=
  ∃ seen, queries = seen ++ rest ∧ still = seen.filter origin.isIdle ∧
    count = (seen.filter origin.isDue).length ∧
      Draining.Underway origin (seen.filter origin.isDue) session

/-- A query has had its turn. -/
theorem Pass.turn {seen rest still : List (Nat × Query)} {count : Nat} {item : Nat × Query}
    (split : queries = seen ++ item :: rest)
    (idles : still = seen.filter origin.isIdle ++ [item].filter origin.isIdle)
    (dues : count = (seen.filter origin.isDue).length + ([item].filter origin.isDue).length)
    (underway : Draining.Underway origin
      (seen.filter origin.isDue ++ [item].filter origin.isDue) session) :
    Pass origin queries rest still count session := by
  refine ⟨seen ++ [item], ?_, ?_, ?_, ?_⟩
  · rw [split, List.append_assoc]
    rfl
  · rw [idles, List.filter_append]
  · rw [dues, List.filter_append, List.length_append]
  · rw [List.filter_append]
    exact underway

/-- A query that is neither to be answered nor to wait has had its turn. -/
theorem Pass.skip {seen rest : List (Nat × Query)} {item : Nat × Query}
    (split : queries = seen ++ item :: rest)
    (underway : Draining.Underway origin (seen.filter origin.isDue) session)
    (notDue : origin.isDue item = false) (notIdle : origin.isIdle item = false) :
    Pass origin queries rest (seen.filter origin.isIdle) (seen.filter origin.isDue).length
      session := by
  refine .turn split ?_ ?_ ?_
  · rw [List.filter_singleton, notIdle, cond_false, List.append_nil]
  · rw [List.filter_singleton, notDue, cond_false, List.length_nil, Nat.add_zero]
  · rw [List.filter_singleton, notDue, cond_false, List.append_nil]
    exact underway

/-- **A pass over the first queries of the queue** answers those that are due and gives back
those that are not yet. -/
theorem meets_sweep (ticketed : origin.Ticketed)
    (callbacks : ∀ answered reference delivery, Keeps (Draining.Underway origin answered) False True
      (callees.callback reference delivery))
    (queue : origin.waiting = queries ++ later) :
    (sweep callees queries).Meets { origin with waiting := [] }
      (fun result after =>
        result = (queries.filter origin.isIdle, (queries.filter origin.isDue).length) ∧
          Draining.Underway origin (queries.filter origin.isDue) after)
      (fun _ _ => False) (fun _ _ => False) := by
  have place {seen rest : List (Nat × Query)} {item : Nat × Query}
      (split : queries = seen ++ item :: rest) :
      origin.waiting = seen ++ item :: (rest ++ later) := by
    rw [queue, split, List.append_assoc]
    rfl
  refine (meets_sweep_of (R := Pass origin queries) ?message ?answered ?vanished ?due ?early
    ⟨[], rfl, rfl, rfl, _, .start origin⟩).imp ?passed
  case message =>
    rintro rest still count session level text ⟨seen, split, idles, dues, since, draining⟩
    exact ⟨seen, split, idles, dues, _, draining.push rfl rfl⟩
  case answered =>
    rintro ticket query rest _ _ session taken ⟨seen, split, rfl, rfl, since, draining⟩
    obtain ⟨dues, idles⟩ := draining.judged ticketed (place split)
    exact .skip split ⟨since, draining⟩ (dues.symm.trans (by simp [isDue, taken]))
      (idles.symm.trans (by simp [isIdle, taken]))
  case vanished =>
    rintro ticket query rest _ _ session fault missing ⟨seen, split, rfl, rfl, since, draining⟩
    obtain ⟨dues, idles⟩ := draining.judged ticketed (place split)
    have gone := Query.ready?_of_error missing
    exact .skip split ⟨since, draining⟩ (dues.symm.trans (by simp [isDue, gone]))
      (idles.symm.trans (by simp [isIdle, gone]))
  case due =>
    rintro ticket query rest _ _ session entry parameter free located started
      ⟨seen, split, rfl, rfl, since, draining⟩
    obtain ⟨dues, idles⟩ := draining.judged ticketed (place split)
    have ready := Query.ready?_of_ok located
    have due : origin.isDue (ticket, query) = true :=
      dues.symm.trans (by simp [isDue, free, ready, started])
    have notIdle : origin.isIdle (ticket, query) = false :=
      idles.symm.trans (by simp [isIdle, ready, started])
    have issued : ticket < origin.nextTicket := by
      refine ticketed.issued (ticket, query) ?_
      rw [place split]
      exact List.mem_append_right _ List.mem_cons_self
    -- The query counts as answered before its callback runs, so the callback keeps that too.
    refine ((Draining.robust origin (seen.filter origin.isDue ++ [(ticket, query)])).meets_dispatch
      (callbacks _ _ _) ⟨_, draining.answer issued rfl rfl⟩ ⟨_, draining.answer issued rfl rfl⟩
        fun _ _ ⟨_, draining⟩ => ⟨_, draining.push rfl rfl⟩).imp fun outcome after underway => ?_
    refine .turn split ?_ ?_ ?_
    · rw [List.filter_singleton, notIdle, cond_false, List.append_nil]
    · rw [List.filter_singleton, due]
      rfl
    · rw [List.filter_singleton, due]
      exact underway
  case early =>
    rintro ticket query rest _ _ session entry parameter free located late
      ⟨seen, split, rfl, rfl, since, draining⟩
    obtain ⟨dues, idles⟩ := draining.judged ticketed (place split)
    have ready := Query.ready?_of_ok located
    have notDue : origin.isDue (ticket, query) = false :=
      dues.symm.trans (by simp [isDue, ready, late])
    have idle : origin.isIdle (ticket, query) = true :=
      idles.symm.trans (by simp [isIdle, free, ready, late])
    refine .turn split ?_ ?_ ?_
    · rw [List.filter_singleton, idle]
      rfl
    · rw [List.filter_singleton, notDue, cond_false, List.length_nil, Nat.add_zero]
    · rw [List.filter_singleton, notDue, cond_false, List.append_nil]
      exact ⟨since, draining⟩
  case passed =>
    rintro result after ⟨seen, split, idles, dues, underway⟩
    rw [List.append_nil] at split
    subst split
    exact ⟨Prod.ext idles dues, underway⟩

/-- A pass over queries that all go on waiting leaves everything as it is. -/
theorem sweep_of_idle (idle : ∀ item ∈ queries, session.isIdle item = true) :
    sweep callees queries session = (.returned (queries, 0), session) := by
  induction queries with
  | nil => rfl
  | cons item rest ih =>
    obtain ⟨ticket, query⟩ := item
    obtain ⟨now, others⟩ := List.forall_mem_cons.mp idle
    obtain ⟨free, ready⟩ := of_decide_eq_true now
    obtain ⟨entry, parameter, located, late⟩ := Query.exists_of_ready? ready
    rw [sweep, get_bind_run, if_neg free, get_bind_run, located]
    dsimp only
    rw [if_neg (Bool.eq_false_iff.mp late), bind_of_returned (ih others)]
    rfl

/-- What has joined the queue goes on waiting: it has tickets of its own, and its filters are
not started. -/
theorem Draining.idle {answered : List (Nat × Query)} {since : List Entry}
    (draining : Draining origin answered since session) (ticketed : origin.Ticketed)
    (issued : ∀ item ∈ answered, item.1 < origin.nextTicket) :
    ∀ item ∈ session.waiting, session.isIdle item = true := by
  intro item waits
  rw [draining.waiting, List.mem_filter] at waits
  obtain ⟨made, admitted⟩ := waits
  have late := draining.late item made
  have free : item.1 ∉ session.claimed := by
    rw [draining.claimed, List.mem_append, List.mem_reverse, List.mem_map]
    rintro (⟨other, old, same⟩ | old)
    · exact Nat.not_lt_of_le late (same ▸ issued other old)
    · exact Nat.not_lt_of_le late (ticketed.claimed _ old)
  have ready : item.2.ready? session.tree = some false := by
    obtain ⟨⟨entry, parameter⟩, located⟩ := draining.has item made
    have marked := ParameterTree.mark?_of_locate located
    rw [draining.tree.mark] at marked
    rw [Query.ready?_of_ok located]
    cases started : entry.started with
    | false => rfl
    | true => simp [admits, isPrompt, marked, started] at admitted
  exact decide_eq_true ⟨free, ready⟩

/-! ### Passes that do not end -/

/-- A session in which the callback of a query that has waited is about to be called. -/
def answering (ticket : Nat) (query : Query) (value : Value) (session : Session σ) : Session σ :=
  { session with
    claimed := ticket :: session.claimed
    journal := session.journal.push
      (.entered (.callback (.query ticket) query.callback (query.delivery value))) }

/-- A pass over a query that is exhausted has called its callback. -/
theorem exhausts_sweep_singleton {ticket : Nat} {query : Query}
    (exhausts : (sweep callees [(ticket, query)]).Exhausts session) :
    session.isDue (ticket, query) = true ∧ query.callback.isWellFormed = true ∧ ∃ value,
      (callees.callback query.callback.code (query.delivery value)).Exhausts
        (session.answering ticket query value) := by
  rw [sweep, exhausts_get_bind] at exhausts
  split at exhausts
  · exact (not_exhausts_pure _ _ exhausts).elim
  rename_i free
  rw [exhausts_get_bind] at exhausts
  cases located : session.tree.locate query.stream query.filter query.parameter with
  | error fault =>
    rw [located] at exhausts
    exact (not_exhausts_bind (not_exhausts_record _) (fun _ => not_exhausts_pure _) _ exhausts).elim
  | ok found =>
    obtain ⟨entry, parameter⟩ := found
    rw [located] at exhausts
    dsimp only at exhausts
    split at exhausts
    · rename_i started
      have claimed : (claim ticket : Action (Session σ) Bool) session =
          (.returned true, { session with claimed := ticket :: session.claimed }) := by
        rw [claim, get_bind_run, if_neg free]
        rfl
      rw [Exhausts, bind_of_returned claimed, if_pos rfl] at exhausts
      have called := exhausts_dispatch.mp ((exhausts_bind_iff fun outcome => ?settled).mp exhausts)
      · have ready := Query.ready?_of_ok located
        rw [started] at ready
        exact ⟨decide_eq_true ⟨free, ready⟩, called.1, parameter.value, called.2⟩
      case settled =>
        split
        · exact not_exhausts_bind (not_exhausts_record _) fun _ =>
            not_exhausts_bind (not_exhausts_pure _) fun _ => not_exhausts_pure _
        · exact not_exhausts_bind (not_exhausts_pure _) fun _ => not_exhausts_pure _
    · exact (not_exhausts_bind (not_exhausts_pure _) (fun _ => not_exhausts_pure _) _ exhausts).elim

/-- A pass that is exhausted has called the callback of one of the queries, after a pass over
those before it. -/
theorem exhausts_sweep (exhausts : (sweep callees queries).Exhausts session) :
    ∃ before ticket query after, queries = before ++ (ticket, query) :: after ∧
      ∃ result between, sweep callees before session = (.returned result, between) ∧
        between.isDue (ticket, query) = true ∧ query.callback.isWellFormed = true ∧ ∃ value,
          (callees.callback query.callback.code (query.delivery value)).Exhausts
            (between.answering ticket query value) := by
  induction queries generalizing session with
  | nil => exact (not_exhausts_pure _ _ exhausts).elim
  | cons item rest ih =>
    rw [sweep_cons] at exhausts
    rcases exhausts_bind.mp exhausts with now | ⟨first, middle, turn, further⟩
    · exact ⟨[], item.1, item.2, rest, rfl, _, _, rfl, exhausts_sweep_singleton now⟩
    · have further := (exhausts_bind_iff fun _ => not_exhausts_pure _).mp further
      obtain ⟨before, ticket, query, after, rfl, others, between, swept, due⟩ := ih further
      refine ⟨item :: before, ticket, query, after, rfl, joint first others, between, ?_, due⟩
      rw [sweep_cons, bind_of_returned turn, bind_of_returned swept]
      rfl

end Passes

/-! ## Drains -/

/-- Whether the callback of a query of the queue that is due is called at its turn, after a
pass over the queries before it, and does not end. -/
def Stalls (callees : Callees σ) (session : Session σ) : Prop :=
  ∃ before ticket query later, session.waiting = before ++ (ticket, query) :: later ∧
    session.isDue (ticket, query) = true ∧ query.callback.isWellFormed = true ∧
      ∃ result between, sweep callees before { session with waiting := [] } =
        (.returned result, between) ∧ ∃ value,
          (callees.callback query.callback.code (query.delivery value)).Exhausts
            (between.answering ticket query value)

/-- What a drain has done when it returns, given what has been written in its course. -/
structure Drained (session : Session σ) (since : List Entry) (after : Session σ) : Prop where
  /-- The journal has grown by these entries. -/
  journal : after.journal.toList = session.journal.toList ++ since
  /-- Queries made in the course of it have tickets of their own. -/
  made : ∀ item ∈ Journal.made since, session.nextTicket ≤ item.1
  /-- Nothing is answered twice. -/
  once : ((Journal.answered since).map (·.1)).Nodup
  /-- Of the queries made before, those are answered that were due, in their order. -/
  early : (Journal.answered since).filter (·.1 < session.nextTicket) =
    session.waiting.filter session.isDue
  /-- Of the others, those are answered that were answered when they were made. -/
  prompt : (Journal.answered since).filter (session.nextTicket ≤ ·.1) =
    (Journal.made since).filter session.isPrompt
  /-- The queue is what went on waiting, in its order, and behind it what joined the queue,
  in the order in which it was made. -/
  waiting : after.waiting =
    session.waiting.filter session.isIdle ++ (Journal.made since).filter session.admits
  /-- Nothing that waits has been answered. -/
  spared : ∀ item ∈ after.waiting, item.1 ∉ (Journal.answered since).map (·.1)
  /-- The parameters of all that waits are there. -/
  has : ∀ item ∈ after.waiting, after.tree.Has item.2.stream item.2.filter item.2.parameter

/-- Nothing has been answered twice when all of the queue has had its turn. -/
theorem Draining.once {session between : Session σ} {since : List Entry}
    (draining : Draining session (session.waiting.filter session.isDue) since between)
    (ticketed : session.Ticketed) : ((Journal.answered since).map (·.1)).Nodup := by
  -- What was made before and what has been made since are told apart by their tickets.
  have parts := (List.filter_append_perm (fun item => decide (item.1 < session.nextTicket))
    (Journal.answered since)).map (·.1)
  simp only [← decide_not, Nat.not_lt] at parts
  rw [draining.early, draining.prompt, List.map_append] at parts
  rw [← parts.nodup_iff, List.nodup_append]
  refine ⟨ticketed.distinct.sublist (List.filter_sublist.map _),
    draining.distinct.sublist (List.filter_sublist.map _), ?_⟩
  intro early isEarly late isLate same
  obtain ⟨item, due, rfl⟩ := List.mem_map.mp isEarly
  obtain ⟨other, prompt, rfl⟩ := List.mem_map.mp isLate
  have issued := ticketed.issued item (List.mem_filter.mp due).1
  have new := draining.late other (List.mem_filter.mp prompt).1
  exact Nat.not_lt_of_le new (same ▸ issued)

/-- What has been answered when all of the queue has had its turn. -/
theorem Draining.drained {session between : Session σ} {since : List Entry}
    (draining : Draining session (session.waiting.filter session.isDue) since between)
    (ticketed : session.Ticketed) : Drained session since { between with
      waiting := session.waiting.filter session.isIdle ++ between.waiting } := by
  constructor
  case journal => exact draining.journal
  case made => exact draining.late
  case once => exact draining.once ticketed
  case early => exact draining.early
  case prompt => exact draining.prompt
  case waiting => rw [← draining.waiting]
  case spared =>
    intro item waits answered
    obtain ⟨other, answered, same⟩ := List.mem_map.mp answered
    rcases List.mem_append.mp waits with old | new
    · obtain ⟨queued, idle⟩ := List.mem_filter.mp old
      have due : other ∈ session.waiting.filter session.isDue := by
        rw [← draining.early, List.mem_filter]
        exact ⟨answered, decide_eq_true (same ▸ ticketed.issued item queued)⟩
      obtain ⟨queued', due⟩ := List.mem_filter.mp due
      cases List.inj_on_of_nodup_map ticketed.distinct queued' queued same
      exact nomatch (of_decide_eq_true due).2.symm.trans (of_decide_eq_true idle).2
    · rw [draining.waiting, List.mem_filter] at new
      obtain ⟨made, admitted⟩ := new
      have prompt : other ∈ (Journal.made since).filter session.isPrompt := by
        rw [← draining.prompt, List.mem_filter]
        exact ⟨answered, decide_eq_true (same ▸ draining.late item made)⟩
      obtain ⟨made', prompt⟩ := List.mem_filter.mp prompt
      cases List.inj_on_of_nodup_map draining.distinct made' made same
      simp [admits, prompt] at admitted
  case has =>
    intro item waits
    rcases List.mem_append.mp waits with old | new
    · obtain ⟨entry, parameter, located, _⟩ :=
        Query.exists_of_ready? (of_decide_eq_true (List.mem_filter.mp old).2).2
      exact draining.tree.has _ _ _ ⟨(entry, parameter), located⟩
    · rw [draining.waiting, List.mem_filter] at new
      exact draining.has item new.1

end Session

namespace Host

open StreamControl.Action Session

variable {σ : Type} {code : UserCode σ} {host : Host σ}

/-! ## The moments of a host -/

/-- A host as it may be at any moment, in the middle of an operation as well: a new host to
which some things have been done that operations consist of. -/
inductive Moment (code : UserCode σ) : Host σ → Prop where
  /-- A new host. -/
  | new {config : Config} {memory : σ} {host : Host σ}
      (created : Host.create config memory = .ok host) : Moment code host
  /-- A host to which one more thing has been done. -/
  | next {deed : Deed} {before after : Host σ} (moment : Moment code before)
      (does : Does code deed before after) : Moment code after

/-- After every operation there is such a moment. -/
theorem History.Reachable.moment {history : History σ}
    (reachable : History.Reachable code history) : Moment code history.host := by
  obtain ⟨config, memory, host, created, leads⟩ := reachable
  exact leads.endures (fun _ _ _ does moment => moment.next does) (Moment.new created)

theorem Moment.ledger (moment : Moment code host) :
    Ledger [] host.isShutDown host.nextStream [] host.session := by
  induction moment with
  | new created =>
    obtain ⟨channel, rfl⟩ := History.eq_of_create created
    exact ledger_new channel _ _
  | next _ does ledger => exact enduring_ledger code [] _ does ledger

/-- **A drain is one pass over the queue**, at any moment of a host, whoever has answered some
of the queries that wait, and whatever callbacks do meanwhile.  It answers the queries that
are due, once each and in their order; it lets go of those that have been answered and of
those whose parameter is not there; it answers none that joins the queue in its course; and
it leaves in the queue the ones that go on waiting, in their order, and behind them those
that have joined, in the order in which they were made.  It gives the number of queries that
it has answered, whether or not their callbacks could be called or panicked; and it ends
unless the callback of a query that is due does not. -/
theorem drains (moment : Moment code host) {taken : List Nat}
    (issued : ∀ ticket ∈ taken, ticket < host.session.nextTicket) {session : Session σ}
    (claims : session = host.session.claiming taken) :
    ((drain code.callees).Exhausts session ∧ session.Stalls code.callees) ∨
      ∃ since after, drain code.callees session =
          (.returned (session.waiting.filter session.isDue).length, after) ∧
        Drained session since after ∧
          ∃ enough, ∀ fuel, enough ≤ fuel →
            popping code.callees fuel session = drain code.callees session := by
  have ticketed : session.Ticketed := claims ▸ moment.ledger.ticketed issued
  have callbacks := Draining.keeps_callback code session
  rcases (meets_sweep ticketed callbacks (List.append_nil _).symm).exhausts_or with
    exhausts | ⟨result, between, swept, rfl, since, draining⟩
  · have whole : (drain code.callees).Exhausts session := by
      rw [Exhausts, drain_run]
      exact exhausts_bind.mpr (.inl exhausts)
    refine .inl ⟨whole, ?_⟩
    obtain ⟨before, ticket, query, later, queue, result, between, swept, due, stalls⟩ :=
      exhausts_sweep exhausts
    -- The query was due all along: the pass over those before it has not changed that.
    obtain ⟨-, since, draining⟩ := (meets_sweep ticketed callbacks queue).of_returned swept
    have judged := (draining.judged ticketed queue).1
    exact ⟨before, ticket, query, later, queue, judged ▸ due, stalls.1, result, between, swept,
      stalls.2⟩
  · have issued : ∀ item ∈ session.waiting.filter session.isDue, item.1 < session.nextTicket :=
      fun item member => ticketed.issued item (List.mem_filter.mp member).1
    have idle : sweep code.callees between.waiting { between with waiting := [] } =
        (.returned (between.waiting, 0), { between with waiting := [] }) :=
      sweep_of_idle (draining.idle ticketed issued)
    refine .inr ⟨since, _, drain_of_sweep swept idle, draining.drained ticketed,
      session.waiting.length + (between.waiting.length + 1), fun fuel enough => ?_⟩
    obtain ⟨more, rfl⟩ := Nat.exists_eq_add_of_le enough
    rw [Nat.add_assoc, Nat.add_assoc]
    exact popping_eq_drain (fun head => (code.callees_commute head _ _).callback) swept
      idle more

/-- The same user code, but for callbacks that ask for the parameter of a second stream. -/
def furtherCode : UserCode Unit :=
  { gainCode with callback := fun _ _ => .ask (.query (gainQuery ⟨2⟩)) fun _ => .done 0 }

/-- A history in which the parameter of a first stream is asked for, then that of a second,
and then that of the first once more. -/
def furtherHistory : History Unit :=
  .after furtherCode { episodes := [], host := freshHost }
    [.addStream (FilterGraph.empty.append "source" (some 0)),
      .addStream (FilterGraph.empty.append "source" (some 0)),
      .outside (.ask (.query (gainQuery ⟨1⟩)) fun _ => .done ()),
      .outside (.ask (.query (gainQuery ⟨2⟩)) fun _ => .done ()),
      .outside (.ask (.query (gainQuery ⟨1⟩)) fun _ => .done ())]

theorem furtherHistory_reachable : furtherHistory.Reachable furtherCode := by
  refine ⟨_, _, _, create_freshHost, History.leads_after _
    ⟨⟨⟨?_, ?attach⟩, ?_⟩, ⟨⟨?_, ?attach'⟩, ?_⟩, ⟨⟨?_, nofun⟩, ?_⟩, ⟨⟨?_, nofun⟩, ?_⟩,
      ⟨⟨?_, nofun⟩, ?_⟩, trivial⟩⟩
  case attach | attach' =>
    intro graph same
    cases same
    exact .add .new rfl
  all_goals decide +kernel

/-- The host of that history when the filter of the first stream has just been marked as
started. -/
def furtherHost : Host Unit :=
  match furtherHistory.host.session.tree.setStarted ⟨1⟩ "source" true with
  | .ok tree => furtherHistory.host.planting tree
  | .error _ => furtherHistory.host

theorem furtherHost_moment : Moment furtherCode furtherHost := by
  rw [furtherHost]
  split
  · rename_i tree marked
    exact furtherHistory_reachable.moment.next (.mark _ marked)
  · exact furtherHistory_reachable.moment

/-- The last of the three queries has been answered by somebody else.  The first is answered,
the second goes on waiting, and what the callback asks for joins it. -/
theorem drains_further :
    Moment furtherCode furtherHost ∧ (∀ ticket ∈ [2], ticket < furtherHost.session.nextTicket) ∧
      ∃ since after, drain furtherCode.callees (furtherHost.session.claiming [2]) =
          (.returned 1, after) ∧
        Drained (furtherHost.session.claiming [2]) since after ∧
          after.waiting = [(1, gainQuery ⟨2⟩), (3, gainQuery ⟨2⟩)] := by
  have issued : ∀ ticket ∈ [2], ticket < furtherHost.session.nextTicket := by
    decide +kernel
  have ends : (drain furtherCode.callees (furtherHost.session.claiming [2])).1 ≠ .exhausted := by
    decide +kernel
  have count : ((furtherHost.session.claiming [2]).waiting.filter
      (furtherHost.session.claiming [2]).isDue).length = 1 := by
    decide +kernel
  have waiting : (drain furtherCode.callees (furtherHost.session.claiming [2])).2.waiting =
      [(1, gainQuery ⟨2⟩), (3, gainQuery ⟨2⟩)] := by
    decide +kernel
  obtain ⟨exhausts, -⟩ | ⟨since, after, drained, done, -⟩ := drains furtherHost_moment issued rfl
  · exact absurd exhausts ends
  · rw [count] at drained
    rw [drained] at waiting
    exact ⟨furtherHost_moment, issued, since, after, drained, done, waiting⟩

end Host

end StreamControl
