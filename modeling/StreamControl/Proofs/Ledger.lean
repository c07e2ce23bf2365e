import StreamControl.Proofs.UserCodeFrame

/-!
# The ledger of queries

A query is accepted under a ticket, and from then on the journal can be asked
what became of it: the tickets that were accepted (`Journal.accepted`), the
tickets for which a callback was handed a value (`Journal.dispatched`), and
the tree as it was at any point (`Journal.treeAfter`).

`Session.Ledger` is the invariant that accounts for every ticket.  In the
middle of a drain some queries are in nobody's queue, so it also takes the
queries that are held for the moment; each step either moves a query between
the journal, the queue and those held, or lets go of one that can never be
answered.  User code keeps a ledger whatever is held
(`Session.Ledger.keeps_run`), and a drain ends with nothing held
(`Session.Ledger.keeps_drain`).

A ledger may also name tickets that are lost: accepted, neither waiting nor
held, and not dispatched.  Since only queries that are held are dispatched,
they stay lost.
-/

set_option autoImplicit false

namespace StreamControl

/-! ## What the journal says of queries -/

namespace Entry

/-- The query that was accepted, with its ticket. -/
def accepted? : Entry → Option (Nat × Query)
  | accepted ticket query => some (ticket, query)
  | _ => none

/-- The ticket for which a value is handed to a callback, with the callback
and what it is handed; a callback that takes the wrong number of inputs is
left out, which counts as well. -/
def dispatched? : Entry → Option (Nat × Callback × Delivery)
  | entered (.callback (.query ticket) callback delivery) => some (ticket, callback, delivery)
  | skipped (.query ticket) callback delivery => some (ticket, callback, delivery)
  | _ => none

/-- The tree after an entry, given the one before. -/
def treeFrom (tree : ParameterTree) : Entry → ParameterTree
  | grown tree => tree
  | _ => tree

variable {entry : Entry}

theorem treeFrom_of_isRemark (remark : entry.isRemark = true) (tree : ParameterTree) :
    entry.treeFrom tree = tree := by
  cases entry <;> first | rfl | cases remark

theorem treeFrom_of_isOfQuery (ofQuery : entry.isOfQuery = true) (tree : ParameterTree) :
    entry.treeFrom tree = tree := by
  cases entry <;> first | rfl | cases ofQuery

end Entry

namespace Journal

/-- The accepted queries with their tickets, in order. -/
def accepted (journal : Journal) : List (Nat × Query) := journal.toList.filterMap Entry.accepted?

/-- The tickets for which a callback was handed a value, in order. -/
def dispatched (journal : Journal) : List Nat :=
  journal.toList.filterMap fun entry => entry.dispatched?.map (·.1)

/-- The tree after some entries. -/
def treeAfter (entries : List Entry) : ParameterTree := entries.foldl Entry.treeFrom {}

/-- Whether every entry is as it should be after the entries before it. -/
def Throughout (right : List Entry → Entry → Prop) (journal : Journal) : Prop :=
  ∀ earlier entry later, journal.toList = earlier ++ entry :: later → right earlier entry

variable {journal : Journal} {entries : List Entry} {entry : Entry}

theorem accepted_push :
    accepted (journal.push entry) = journal.accepted ++ entry.accepted?.toList := by
  rw [accepted, accepted, Array.toList_push, List.filterMap_append]
  cases shown : entry.accepted? <;> simp [shown]

theorem dispatched_push :
    dispatched (journal.push entry) =
      journal.dispatched ++ (entry.dispatched?.map (·.1)).toList := by
  rw [dispatched, dispatched, Array.toList_push, List.filterMap_append]
  cases shown : entry.dispatched? <;> simp [shown]

theorem accepted_push_of_none (accepts : entry.accepted? = none) :
    accepted (journal.push entry) = journal.accepted := by
  rw [accepted_push, accepts, Option.toList_none, List.append_nil]

theorem dispatched_push_of_none (dispatches : entry.dispatched? = none) :
    dispatched (journal.push entry) = journal.dispatched := by
  rw [dispatched_push, dispatches, Option.map_none, Option.toList_none, List.append_nil]

theorem treeAfter_concat : treeAfter (entries ++ [entry]) = entry.treeFrom (treeAfter entries) := by
  rw [treeAfter, treeAfter, List.foldl_append]
  rfl

theorem treeAfter_push :
    treeAfter (journal.push entry).toList = entry.treeFrom (treeAfter journal.toList) := by
  rw [Array.toList_push, treeAfter_concat]

/-- Of two entries in a list one comes before the other, unless they are the same. -/
theorem eq_or_before_or_after {α : Type} {left right earlier later : List α} {one other : α}
    (same : left ++ one :: right = earlier ++ other :: later) :
    (left = earlier ∧ one = other ∧ right = later) ∨
    (∃ more, earlier = left ++ one :: more ∧ right = more ++ other :: later) ∨
    ∃ more, left = earlier ++ other :: more ∧ later = more ++ one :: right := by
  rcases List.append_eq_append_iff.mp same with ⟨more, rfl, tail⟩ | ⟨more, rfl, tail⟩ <;>
    cases more with
    | nil =>
      obtain ⟨rfl, rfl⟩ := List.cons.inj tail
      exact .inl ⟨by simp, rfl, rfl⟩
    | cons first more =>
      obtain ⟨rfl, rfl⟩ := List.cons.inj tail
      exact .inr (by simp)

/-- An entry of a list with one more at the end is that one, or was there before. -/
theorem eq_last_or_before {α : Type} {entries earlier later : List α} {last other : α}
    (same : entries ++ [last] = earlier ++ other :: later) :
    (entries = earlier ∧ last = other ∧ later = []) ∨
    ∃ more, entries = earlier ++ other :: more ∧ later = more ++ [last] := by
  rcases eq_or_before_or_after same with ⟨rfl, rfl, none⟩ | ⟨more, -, none⟩ | before
  · exact .inl ⟨rfl, rfl, none.symm⟩
  · exact absurd none.symm (List.append_ne_nil_of_right_ne_nil more (List.cons_ne_nil _ _))
  · exact .inr before

theorem Throughout.push {right : List Entry → Entry → Prop} (all : journal.Throughout right)
    (last : right journal.toList entry) : Journal.Throughout right (journal.push entry) := by
  intro earlier other later split
  rw [Array.toList_push] at split
  rcases eq_last_or_before split with ⟨rfl, rfl, -⟩ | ⟨more, before, -⟩
  · exact last
  · exact all earlier other more before

end Journal

/-- Whether a callback is handed what a query asked for: it is the query's own
callback, and what it is handed is the query's, with the value that the
parameter has in the tree, where its filter is marked as started. -/
def Query.Fits (query : Query) (tree : ParameterTree) (callback : Callback)
    (delivery : Delivery) : Prop :=
  callback = query.callback ∧ ∃ entry parameter,
    tree.locate query.stream query.filter query.parameter = .ok (entry, parameter) ∧
      entry.started = true ∧ delivery = query.delivery parameter.value

/-- Whether an entry hands a callback what an accepted query asked for, if it
hands anything to a query's callback at all. -/
def Entry.IsFaithful (earlier : List Entry) (entry : Entry) : Prop :=
  ∀ ticket callback delivery, entry.dispatched? = some (ticket, callback, delivery) →
    ∃ query, (ticket, query) ∈ earlier.filterMap Entry.accepted? ∧
      query.Fits (Journal.treeAfter earlier) callback delivery

namespace Session

open StreamControl.Action

variable {σ : Type}

/-! ## Accepting a query -/

/-- A session that has just accepted a query. -/
def accepting (query : Query) (session : Session σ) : Session σ :=
  { session with
    nextTicket := session.nextTicket + 1
    journal := (session.journal.push
      (.counted .queriesAccepted query.filter query.parameter)).push
        (.accepted session.nextTicket query) }

theorem toList_accepting (query : Query) (session : Session σ) :
    (session.accepting query).journal.toList = session.journal.toList ++
      [.counted .queriesAccepted query.filter query.parameter,
        .accepted session.nextTicket query] := by
  rw [accepting, Array.toList_push, Array.toList_push, List.append_assoc]
  rfl

/-- What is done about a query that has just been accepted under a ticket. -/
def attend (callees : Callees σ) (query : Query) (ticket : Nat) (entry : FilterEntry)
    (parameter : Parameter) : Action (Session σ) Unit :=
  if entry.started then do
    let _ ← dispatch callees (.query ticket) query.callback (query.delivery parameter.value)
    log .trace "parameter query resolved"
  else defer callees ticket query

/-- A query whose parameter is found is accepted before anything is done about it. -/
theorem query_of_located {callees : Callees σ} {query : Query} {session : Session σ}
    {entry : FilterEntry} {parameter : Parameter}
    (located : session.tree.locate query.stream query.filter query.parameter =
      .ok (entry, parameter)) :
    Session.query callees query session =
      (attend callees query session.nextTicket entry parameter >>= fun _ => pure (.ok ()))
        (session.accepting query) := by
  rw [Session.query, bind_of_returned (rfl : (get : Action (Session σ) _) session = _), located,
    attend]
  by_cases started : entry.started = true
  · simp only [if_pos started, bind_assoc]
    rfl
  · simp only [if_neg started]
    rfl

theorem meets_query_iff {callees : Callees σ} {query : Query} {session : Session σ}
    {entry : FilterEntry} {parameter : Parameter}
    (located : session.tree.locate query.stream query.filter query.parameter =
      .ok (entry, parameter))
    {returns : Except QueryFault Unit → Session σ → Prop} {refuses : Fault → Session σ → Prop}
    {panics : String → Session σ → Prop} :
    (Session.query callees query).Meets session returns refuses panics ↔
      (attend callees query session.nextTicket entry parameter).Meets (session.accepting query)
        (fun _ => returns (.ok ())) refuses panics := by
  rw [Meets, query_of_located located, ← Meets, meets_bind]
  exact Iff.rfl

/-- Attending to a query keeps what its being answered keeps. -/
theorem Supple.keeps_attend {P : Session σ → Prop} (supple : Supple P) {refusal panic : Prop}
    {callees : Callees σ}
    (answers : ∀ ticket callback delivery,
      Keeps P refusal panic (dispatch callees (.query ticket) callback delivery))
    (query : Query) (ticket : Nat) (entry : FilterEntry) (parameter : Parameter) :
    Keeps P refusal panic (attend callees query ticket entry parameter) := by
  rw [attend]
  split
  · exact (answers _ _ _).bind fun _ => supple.keeps_log _ _
  · exact supple.keeps_defer answers ticket query

/-- A query keeps a property that is kept when an accepted query is answered or let wait. -/
theorem Pliant.keeps_query_of {P : Session σ → Prop} (pliant : Pliant P) {callees : Callees σ}
    {query : Query}
    (answers : ∀ {session : Session σ} {entry : FilterEntry} {parameter : Parameter}, P session →
      session.tree.locate query.stream query.filter query.parameter = .ok (entry, parameter) →
        entry.started = true →
          (dispatch callees (.query session.nextTicket) query.callback
            (query.delivery parameter.value)).Meets (session.accepting query) (fun _ => P)
              (fun _ _ => False) (fun _ _ => False))
    (defers : ∀ {session : Session σ} {entry : FilterEntry} {parameter : Parameter}, P session →
      session.tree.locate query.stream query.filter query.parameter = .ok (entry, parameter) →
        ¬ entry.started = true →
          (defer callees session.nextTicket query).Meets (session.accepting query) (fun _ => P)
            (fun _ _ => False) (fun _ _ => False)) :
    Keeps P False True (Session.query callees query) := by
  intro session holds
  cases located : session.tree.locate query.stream query.filter query.parameter with
  | error fault =>
    rw [Session.query, meets_bind, meets_get, located]
    exact ((pliant.keeps_count (by decide) _ _).bind fun _ => (pliant.keeps_log _ _).bind fun _ =>
      (pliant.keeps_emit rfl).bind fun _ => keeps_pure _) session holds
  | ok found =>
    obtain ⟨entry, parameter⟩ := found
    rw [meets_query_iff located, attend]
    split
    · rename_i started
      rw [meets_bind]
      exact (answers holds located started).always fun _ => pliant.keeps_log _ _
    · rename_i idle
      exact (defers holds located idle).always fun _ _ holds => holds

/-- A query whose filter is not started joins the queue, or is dropped if there is no host. -/
theorem meets_defer_idle {callees : Callees σ} {session : Session σ} {ticket : Nat} {query : Query}
    {entry : FilterEntry} {parameter : Parameter}
    (located : session.tree.locate query.stream query.filter query.parameter =
      .ok (entry, parameter)) (idle : ¬ entry.started = true) {P : Session σ → Prop}
    (waits : session.isOpen = true → P { session with
      waiting := session.waiting ++ [(ticket, query)]
      journal := session.journal.push (.message .debug "filter not started; query deferred") })
    (dropped : session.isOpen = false → P { session with
      journal := session.journal.push (.message .debug "host closed; deferred query dropped") }) :
    (defer callees ticket query).Meets session (fun _ => P) (fun _ _ => False)
      (fun _ _ => False) := by
  rw [defer, meets_bind, meets_get]
  split
  · rename_i opened
    rw [meets_bind, meets_modify, meets_bind, Session.log, Session.record, meets_modify, recheck,
      meets_bind, meets_get]
    -- The tree is what it was, so looking again finds the filter idle again.
    simp only [located, idle, Bool.false_eq_true, if_false, meets_pure]
    exact waits opened
  · rename_i closed
    exact dropped (Bool.not_eq_true _ ▸ closed)

/-! ## Every ticket is accounted for -/

/-- Every ticket is accounted for, while some queries are held.  The number is
that of the next stream. -/
structure Ledger (lost : List Nat) (isShutDown : Bool) (number : UInt32)
    (held : List (Nat × Query)) (session : Session σ) : Prop where
  /-- Tickets are given out in order. -/
  tickets : session.journal.accepted.map (·.1) = List.range session.nextTicket
  /-- Nothing is dispatched twice. -/
  once : session.journal.dispatched.Nodup
  /-- Only what was accepted is dispatched. -/
  known : ∀ ticket ∈ session.journal.dispatched, ticket < session.nextTicket
  /-- Only what was accepted is claimed. -/
  claimed : ∀ ticket ∈ session.claimed, ticket < session.nextTicket
  /-- No query is pending twice. -/
  distinct : ((held ++ session.waiting).map (·.1)).Nodup
  /-- What is pending was accepted, and nobody has answered or claimed it. -/
  pending : ∀ item ∈ held ++ session.waiting, item ∈ session.journal.accepted ∧
    item.1 ∉ session.journal.dispatched ∧ item.1 ∉ session.claimed
  /-- What was accepted was dispatched or is pending, unless it can never be. -/
  fate : ∀ item ∈ session.journal.accepted, item.1 ∈ session.journal.dispatched ∨
    item ∈ held ++ session.waiting ∨ ¬ session.tree.Knows item.2.stream ∨
      session.isOpen = false ∨ isShutDown = true
  /-- The parameter of an accepted query is there as long as its stream is. -/
  has : ∀ item ∈ session.journal.accepted, session.tree.Knows item.2.stream →
    session.tree.Has item.2.stream item.2.filter item.2.parameter
  /-- Streams that are known have been numbered. -/
  numbered : ∀ stream, session.tree.Knows stream → stream.number < number
  /-- So have those that queries were accepted for. -/
  asked : ∀ item ∈ session.journal.accepted, item.2.stream.number < number
  /-- The journal shows the tree. -/
  tree : session.tree = Journal.treeAfter session.journal.toList
  /-- Callbacks are handed what was asked for. -/
  faithful : session.journal.Throughout Entry.IsFaithful
  /-- What is lost is not to be found. -/
  lost : ∀ ticket ∈ lost, ticket < session.nextTicket ∧ ticket ∉ session.journal.dispatched ∧
    ticket ∉ (held ++ session.waiting).map (·.1)

namespace Ledger

variable {lost : List Nat} {isShutDown : Bool} {number : UInt32} {held : List (Nat × Query)}
  {session : Session σ}

/-! ## Steps -/

/-- The next ticket is new. -/
theorem fresh (ledger : Ledger lost isShutDown number held session) :
    session.nextTicket ∉ (held ++ session.waiting).map (·.1) := by
  intro member
  obtain ⟨item, pending, same⟩ := List.mem_map.mp member
  have accepted := List.mem_map_of_mem (f := (·.1)) (ledger.pending item pending).1
  rw [ledger.tickets, List.mem_range, same] at accepted
  exact Nat.lt_irrefl _ accepted

/-- What is pending may be taken out of the queue and put back, in any
order. -/
theorem regroup (ledger : Ledger lost isShutDown number held session)
    {held' waiting' : List (Nat × Query)}
    (same : (held' ++ waiting').Perm (held ++ session.waiting)) :
    Ledger lost isShutDown number held' { session with waiting := waiting' } :=
  { ledger with
    distinct := (same.map (·.1)).nodup_iff.mpr ledger.distinct
    pending := fun item member => ledger.pending item (same.mem_iff.mp member)
    fate := fun item member => by
      rcases ledger.fate item member with dispatched | pending | rest
      · exact .inl dispatched
      · exact .inr (.inl (same.mem_iff.mpr pending))
      · exact .inr (.inr rest)
    lost := fun ticket member => by
      obtain ⟨known, quiet, absent⟩ := ledger.lost ticket member
      exact ⟨known, quiet, fun found => absent ((same.map (·.1)).mem_iff.mp found)⟩ }

/-- The order of what is held does not matter. -/
theorem reorder (ledger : Ledger lost isShutDown number held session)
    {held' : List (Nat × Query)} (same : held'.Perm held) :
    Ledger lost isShutDown number held' session := ledger.regroup (same.append_right _)

/-- Writing an entry that is about no query.  It may change the tree, as long as
no parameter of a known stream is gone and only numbered streams become
known. -/
theorem write (ledger : Ledger lost isShutDown number held session) {entry : Entry}
    (accepts : entry.accepted? = none) (dispatches : entry.dispatched? = none) {next : UInt32}
    (later : ∀ below : UInt32, below < number → below < next)
    (knows : ∀ stream : StreamId, stream.number < number →
      (entry.treeFrom session.tree).Knows stream → session.tree.Knows stream)
    (has : ∀ stream filter name, (entry.treeFrom session.tree).Knows stream →
      session.tree.Has stream filter name → (entry.treeFrom session.tree).Has stream filter name)
    (numbered : ∀ stream, (entry.treeFrom session.tree).Knows stream → stream.number < next) :
    Ledger lost isShutDown next held
      { session with
        tree := entry.treeFrom session.tree
        journal := session.journal.push entry } := by
  have accepted : Journal.accepted (session.journal.push entry) = session.journal.accepted :=
    Journal.accepted_push_of_none accepts
  have dispatched : Journal.dispatched (session.journal.push entry) =
      session.journal.dispatched := Journal.dispatched_push_of_none dispatches
  constructor
  case tickets => rw [accepted]; exact ledger.tickets
  case once => rw [dispatched]; exact ledger.once
  case known => rw [dispatched]; exact ledger.known
  case claimed => exact ledger.claimed
  case distinct => exact ledger.distinct
  case pending => rw [accepted, dispatched]; exact ledger.pending
  case fate =>
    rw [accepted, dispatched]
    intro item member
    rcases ledger.fate item member with done | pending | gone | rest
    · exact .inl done
    · exact .inr (.inl pending)
    · exact .inr (.inr (.inl fun known => gone (knows _ (ledger.asked item member) known)))
    · exact .inr (.inr (.inr rest))
  case has =>
    rw [accepted]
    intro item member known
    exact has _ _ _ known (ledger.has item member (knows _ (ledger.asked item member) known))
  case numbered => exact numbered
  case asked =>
    rw [accepted]
    exact fun item member => later _ (ledger.asked item member)
  case tree => rw [Journal.treeAfter_push, ← ledger.tree]
  case faithful =>
    refine ledger.faithful.push fun ticket callback delivery shown => ?_
    rw [dispatches] at shown
    cases shown
  case lost => rw [dispatched]; exact ledger.lost

/-- An entry that is about neither a query nor the tree does not matter. -/
theorem push (ledger : Ledger lost isShutDown number held session) {entry : Entry}
    (accepts : entry.accepted? = none) (dispatches : entry.dispatched? = none)
    (grows : ∀ tree, entry.treeFrom tree = tree) :
    Ledger lost isShutDown number held { session with journal := session.journal.push entry } := by
  have same := grows session.tree
  have written := ledger.write accepts dispatches (fun _ small => small)
    (fun _ _ known => same ▸ known) (fun _ _ _ _ has => same.symm ▸ has)
    (fun stream known => ledger.numbered stream (same ▸ known))
  rwa [same] at written

theorem plant (ledger : Ledger lost isShutDown number held session) {tree : ParameterTree}
    {next : UInt32} (later : ∀ below : UInt32, below < number → below < next)
    (knows : ∀ stream : StreamId, stream.number < number → tree.Knows stream →
      session.tree.Knows stream)
    (has : ∀ stream filter name, tree.Knows stream → session.tree.Has stream filter name →
      tree.Has stream filter name)
    (numbered : ∀ stream, tree.Knows stream → stream.number < next) :
    Ledger lost isShutDown next held
      { session with tree, journal := session.journal.push (.grown tree) } := by
  have written : Ledger lost isShutDown next held
      { session with
        tree := Entry.treeFrom session.tree (.grown tree)
        journal := session.journal.push (.grown tree) } :=
    ledger.write rfl rfl later knows has numbered
  exact written

theorem accept (ledger : Ledger lost isShutDown number held session) {query : Query}
    (has : session.tree.Has query.stream query.filter query.parameter) :
    Ledger lost isShutDown number ((session.nextTicket, query) :: held)
      { session with
        nextTicket := session.nextTicket + 1
        journal := session.journal.push (.accepted session.nextTicket query) } := by
  have accepted : Journal.accepted (session.journal.push (.accepted session.nextTicket query)) =
      session.journal.accepted ++ [(session.nextTicket, query)] := Journal.accepted_push
  have dispatched : Journal.dispatched (session.journal.push (.accepted session.nextTicket query)) =
      session.journal.dispatched := Journal.dispatched_push_of_none rfl
  constructor
  case tickets => rw [accepted, List.map_append, ledger.tickets, List.range_succ]; rfl
  case once => rw [dispatched]; exact ledger.once
  case known =>
    rw [dispatched]
    exact fun ticket member => Nat.lt_succ_of_lt (ledger.known ticket member)
  case claimed => exact fun ticket member => Nat.lt_succ_of_lt (ledger.claimed ticket member)
  case distinct => exact List.nodup_cons.mpr ⟨ledger.fresh, ledger.distinct⟩
  case pending =>
    rw [accepted, dispatched]
    intro item member
    rcases List.mem_cons.mp member with rfl | old
    · exact ⟨List.mem_append_right _ (List.mem_singleton.mpr rfl),
        fun done => Nat.lt_irrefl _ (ledger.known _ done),
        fun done => Nat.lt_irrefl _ (ledger.claimed _ done)⟩
    · obtain ⟨taken, quiet, free⟩ := ledger.pending item old
      exact ⟨List.mem_append_left _ taken, quiet, free⟩
  case fate =>
    rw [accepted, dispatched, List.forall_mem_append, List.forall_mem_singleton]
    refine ⟨fun item early => ?_, .inr (.inl List.mem_cons_self)⟩
    rcases ledger.fate item early with done | pending | rest
    · exact .inl done
    · exact .inr (.inl (List.mem_cons_of_mem _ pending))
    · exact .inr (.inr rest)
  case has =>
    rw [accepted, List.forall_mem_append, List.forall_mem_singleton]
    exact ⟨ledger.has, fun _ => has⟩
  case numbered => exact ledger.numbered
  case asked =>
    rw [accepted, List.forall_mem_append, List.forall_mem_singleton]
    exact ⟨ledger.asked, ledger.numbered _ has.knows⟩
  case tree =>
    rw [Journal.treeAfter_push]
    exact ledger.tree
  case faithful => exact ledger.faithful.push fun ticket callback delivery shown => nomatch shown
  case lost =>
    rw [dispatched]
    intro ticket member
    obtain ⟨known, quiet, absent⟩ := ledger.lost ticket member
    refine ⟨Nat.lt_succ_of_lt known, quiet, fun found => ?_⟩
    rcases List.mem_cons.mp found with same | old
    · exact Nat.ne_of_lt known same
    · exact absent old

theorem dispatch {ticket : Nat} {query : Query}
    (ledger : Ledger lost isShutDown number ((ticket, query) :: held) session) {entry : Entry}
    {callback : Callback} {delivery : Delivery}
    (shows : entry.dispatched? = some (ticket, callback, delivery))
    (accepts : entry.accepted? = none) (grows : ∀ tree, entry.treeFrom tree = tree)
    (fits : query.Fits session.tree callback delivery) {claimed : List Nat}
    (claims : ∀ other ∈ claimed, other = ticket ∨ other ∈ session.claimed) :
    Ledger lost isShutDown number held
      { session with claimed, journal := session.journal.push entry } := by
  have accepted : Journal.accepted (session.journal.push entry) = session.journal.accepted :=
    Journal.accepted_push_of_none accepts
  have dispatched : Journal.dispatched (session.journal.push entry) =
      session.journal.dispatched ++ [ticket] := by
    rw [Journal.dispatched_push, shows]
    rfl
  obtain ⟨taken, quiet, free⟩ := ledger.pending (ticket, query) List.mem_cons_self
  have early : ticket < session.nextTicket := by
    have listed := List.mem_map_of_mem (f := (·.1)) taken
    rwa [ledger.tickets, List.mem_range] at listed
  have alone := List.nodup_cons.mp ledger.distinct
  have other : ∀ item ∈ held ++ session.waiting, item.1 ≠ ticket := fun item member same =>
    alone.1 (List.mem_map.mpr ⟨item, member, same⟩)
  constructor
  case tickets => rw [accepted]; exact ledger.tickets
  case once =>
    rw [dispatched, List.nodup_append]
    refine ⟨ledger.once, List.nodup_cons.mpr ⟨List.not_mem_nil, List.nodup_nil⟩, ?_⟩
    intro one member two last equal
    exact quiet (List.mem_singleton.mp last ▸ equal ▸ member)
  case known =>
    rw [dispatched]
    intro one member
    rcases List.mem_append.mp member with old | last
    · exact ledger.known one old
    · exact List.mem_singleton.mp last ▸ early
  case claimed =>
    intro one member
    rcases claims one member with rfl | old
    · exact early
    · exact ledger.claimed one old
  case distinct => exact alone.2
  case pending =>
    rw [accepted, dispatched]
    intro item member
    obtain ⟨taken, quiet, free⟩ := ledger.pending item (List.mem_cons_of_mem _ member)
    refine ⟨taken, fun done => ?_, fun done => ?_⟩
    · rcases List.mem_append.mp done with old | last
      · exact quiet old
      · exact other item member (List.mem_singleton.mp last)
    · rcases claims _ done with same | old
      · exact other item member same
      · exact free old
  case fate =>
    rw [accepted, dispatched]
    intro item member
    rcases ledger.fate item member with done | pending | rest
    · exact .inl (List.mem_append_left _ done)
    · rcases List.mem_cons.mp pending with rfl | still
      · exact .inl (List.mem_append_right _ (List.mem_singleton.mpr rfl))
      · exact .inr (.inl still)
    · exact .inr (.inr rest)
  case has => rw [accepted]; exact ledger.has
  case numbered => exact ledger.numbered
  case asked => rw [accepted]; exact ledger.asked
  case tree => rw [Journal.treeAfter_push, grows]; exact ledger.tree
  case faithful =>
    refine ledger.faithful.push fun one callback' delivery' shown => ?_
    rw [shows, Option.some.injEq, Prod.mk.injEq, Prod.mk.injEq] at shown
    obtain ⟨rfl, rfl, rfl⟩ := shown
    exact ⟨query, taken, ledger.tree ▸ fits⟩
  case lost =>
    rw [dispatched]
    intro one member
    obtain ⟨known, silent, absent⟩ := ledger.lost one member
    refine ⟨known, fun done => ?_, fun found => absent (List.mem_cons_of_mem _ found)⟩
    rcases List.mem_append.mp done with old | last
    · exact silent old
    · exact absent (List.mem_cons.mpr (.inl (List.mem_singleton.mp last)))

/-- A query that can never be answered is let go. -/
theorem release {item : Nat × Query}
    (ledger : Ledger lost isShutDown number (item :: held) session)
    (never : ¬ session.tree.Knows item.2.stream ∨ session.isOpen = false ∨ isShutDown = true) :
    Ledger lost isShutDown number held session :=
  { ledger with
    distinct := (List.nodup_cons.mp ledger.distinct).2
    pending := fun other member => ledger.pending other (List.mem_cons_of_mem _ member)
    fate := fun other member => by
      rcases ledger.fate other member with done | pending | rest
      · exact .inl done
      · rcases List.mem_cons.mp pending with rfl | still
        · exact .inr (.inr never)
        · exact .inr (.inl still)
      · exact .inr (.inr rest)
    lost := fun ticket member => by
      obtain ⟨known, quiet, absent⟩ := ledger.lost ticket member
      exact ⟨known, quiet, fun found => absent (List.mem_cons_of_mem _ found)⟩ }

/-! ## User code -/

theorem silent_of_isPlain {entry : Entry} (plain : entry.isPlain = true) :
    entry.accepted? = none ∧ entry.dispatched? = none ∧ ∀ tree, entry.treeFrom tree = tree := by
  cases entry with
  | entered call =>
    refine ⟨rfl, ?_, fun _ => rfl⟩
    cases call with
    | callback cause callback delivery => cases cause <;> first | rfl | cases plain
    | _ => rfl
  | skipped cause callback delivery =>
    refine ⟨rfl, ?_, fun _ => rfl⟩
    cases cause <;> first | rfl | cases plain
  | accepted | grown => cases plain
  | _ => exact ⟨rfl, rfl, fun _ => rfl⟩

theorem edit (ledger : Ledger lost isShutDown number held session) {tree : ParameterTree}
    (edit : session.tree.Edit tree) :
    Ledger lost isShutDown number held
      { session with tree, journal := session.journal.push (.grown tree) } :=
  ledger.plant (fun _ below => below) (fun stream _ => (edit.kept.knows stream).mp)
    (fun stream filter name _ => edit.kept.has stream filter name)
    fun stream known => ledger.numbered stream ((edit.kept.knows stream).mp known)

theorem robust (lost : List Nat) (isShutDown : Bool) (number : UInt32)
    (held : List (Nat × Query)) :
    Robust (Ledger lost isShutDown number held : Session σ → Prop) where
  record plain ledger :=
    have silent := silent_of_isPlain plain
    ledger.push silent.1 silent.2.1 silent.2.2
  memory _ ledger := { ledger with }
  tally _ ledger := { ledger with }
  channel _ ledger := { ledger with }
  edit change ledger := ledger.edit change

section Answering

variable {callees : Callees σ}

/-- Answering a query that is held: its callback is handed the value, and the
query is held no longer.  Whoever answers it may have claimed it just now. -/
theorem meets_dispatch {ticket : Nat} {query : Query}
    (callbacks : ∀ reference delivery,
      Keeps (Ledger lost isShutDown number held) False True (callees.callback reference delivery))
    (ledger : Ledger lost isShutDown number ((ticket, query) :: held) session)
    {entry : FilterEntry} {parameter : Parameter}
    (located : session.tree.locate query.stream query.filter query.parameter =
      .ok (entry, parameter))
    (started : entry.started = true) {claimed : List Nat}
    (claims : ∀ other ∈ claimed, other = ticket ∨ other ∈ session.claimed) :
    (Session.dispatch callees (.query ticket) query.callback (query.delivery parameter.value)).Meets
      { session with claimed } (fun _ => Ledger lost isShutDown number held) (fun _ _ => False)
      (fun _ _ => False) := by
  have fits : query.Fits session.tree query.callback (query.delivery parameter.value) :=
    ⟨rfl, entry, parameter, located, started, rfl⟩
  exact (robust lost isShutDown number held).meets_dispatch (callbacks _ _)
    (ledger.dispatch rfl rfl (fun _ => rfl) fits claims)
    (ledger.dispatch rfl rfl (fun _ => rfl) fits claims)
    fun _ _ ledger => ledger.push rfl rfl fun _ => rfl

/-- A query whose filter is not started waits, or is dropped if there is no
host. -/
theorem meets_defer {ticket : Nat} {query : Query}
    (ledger : Ledger lost isShutDown number ((ticket, query) :: held) session)
    {entry : FilterEntry} {parameter : Parameter}
    (located : session.tree.locate query.stream query.filter query.parameter =
      .ok (entry, parameter))
    (idle : ¬ entry.started = true) :
    (defer callees ticket query).Meets session (fun _ => Ledger lost isShutDown number held)
      (fun _ _ => False) (fun _ _ => False) := by
  refine meets_defer_idle located idle (fun _ => ?_) fun closed =>
    (ledger.release (.inr (.inl closed))).push rfl rfl fun _ => rfl
  have waits : Ledger lost isShutDown number held
      { session with waiting := session.waiting ++ [(ticket, query)] } := by
    refine ledger.regroup ?_
    rw [← List.append_assoc]
    exact List.perm_append_singleton _ _
  exact waits.push rfl rfl fun _ => rfl

theorem keeps_query
    (callbacks : ∀ reference delivery,
      Keeps (Ledger lost isShutDown number held) False True (callees.callback reference delivery))
    (query : Query) :
    Keeps (Ledger lost isShutDown number held) False True (Session.query callees query) := by
  have accepted {session : Session σ} (ledger : Ledger lost isShutDown number held session)
      {entry : FilterEntry} {parameter : Parameter}
      (located : session.tree.locate query.stream query.filter query.parameter =
        .ok (entry, parameter)) :
      Ledger lost isShutDown number ((session.nextTicket, query) :: held)
        (session.accepting query) :=
    (ledger.push rfl rfl fun _ => rfl).accept ⟨(entry, parameter), located⟩
  refine (robust lost isShutDown number held).toPliant.keeps_query_of
    (fun ledger located started => ?_) fun ledger located idle => ?_
  · exact meets_dispatch callbacks (accepted ledger located) located started fun _ => .inr
  · exact meets_defer (accepted ledger located) located idle

/-- User code keeps a ledger, whatever is held meanwhile. -/
theorem keeps_callback (code : UserCode σ) (held : List (Nat × Query)) (reference : CodeRef)
    (delivery : Delivery) :
    Keeps (Ledger lost isShutDown number held) False True
      (code.callees.callback reference delivery) :=
  (code.callees_keep (robust lost isShutDown number held) (fun _ => keeps_query) _ _).callback _ _

theorem keeps_run {α : Type} (code : UserCode σ) (held : List (Nat × Query))
    (program : Program σ α) :
    Keeps (Ledger lost isShutDown number held) False True (code.run program) :=
  code.run_keeps (robust lost isShutDown number held) (fun _ => keeps_query) program

/-! ## Draining -/

/-- A pass over some queries that are held answers them, lets go of them, or
gives them back. -/
theorem meets_sweep
    (callbacks : ∀ held reference delivery,
      Keeps (Ledger lost isShutDown number held) False True (callees.callback reference delivery))
    {queries extra : List (Nat × Query)} {session : Session σ}
    (ledger : Ledger lost isShutDown number (queries ++ extra) session) :
    (sweep callees queries).Meets session
      (fun result => Ledger lost isShutDown number (result.1 ++ extra)) (fun _ _ => False)
      (fun _ _ => False) := by
  refine meets_sweep_of (R := fun rest still _ =>
    Ledger lost isShutDown number (rest ++ (still ++ extra))) ?message ?answered ?vanished ?due
      ?early ledger
  case message => exact fun _ _ ledger => ledger.push rfl rfl fun _ => rfl
  case answered =>
    intro ticket query rest still _ session claimed ledger
    exact absurd claimed (ledger.pending (ticket, query) List.mem_cons_self).2.2
  case vanished =>
    intro ticket query rest still _ session fault located ledger
    -- The parameter of a known stream would be there.
    have gone : ¬ session.tree.Knows query.stream := fun known => by
      obtain ⟨found, here⟩ :=
        ledger.has _ (ledger.pending (ticket, query) List.mem_cons_self).1 known
      rw [located] at here
      cases here
    exact ledger.release (.inl gone)
  case due =>
    intro ticket query rest still _ session entry parameter _ located started ledger
    exact meets_dispatch (callbacks _) ledger located started fun other member =>
      List.mem_cons.mp member
  case early =>
    intro ticket query rest still _ session entry parameter _ _ _ ledger
    have middle : (rest ++ still ++ (ticket, query) :: extra).Perm
        ((ticket, query) :: (rest ++ still ++ extra)) := List.perm_middle
    refine ledger.reorder ?_
    simpa only [List.append_assoc, List.cons_append, List.nil_append] using middle

/-- A drain takes what waits, and gives back what goes on waiting. -/
theorem keeps_drain (code : UserCode σ) :
    Keeps (Ledger lost isShutDown number []) False False (drain code.callees) := by
  have callbacks : ∀ held reference delivery, Keeps (Ledger lost isShutDown number held) False True
      (code.callees.callback reference delivery) := keeps_callback code
  intro session ledger
  rw [meets_drain_iff]
  have taken : Ledger lost isShutDown number (session.waiting ++ [])
      { session with waiting := [] } := ledger.regroup (by simp)
  refine (meets_sweep callbacks taken).always fun first between ledger => ?_
  have joined : Ledger lost isShutDown number (between.waiting ++ first.1)
      { between with waiting := [] } := ledger.regroup (by simpa using List.perm_append_comm)
  refine (meets_sweep callbacks joined).always fun second after ledger => ?_
  refine ledger.regroup ?_
  rw [List.nil_append]
  exact List.perm_append_comm.append_right _

end Answering

end Ledger

end Session

end StreamControl
