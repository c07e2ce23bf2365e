import StreamControl.Proofs.Enduring
import StreamControl.Proofs.Ledger

/-!
# What becomes of a query

Every accepted query has exactly one fate (`Host.query_fates`): its callback
has been handed the value once, or it waits, or it is lost, and then its stream
has been forgotten or its host has been shut down or dropped.  Whatever hooks,
callbacks and filter functions do, and whether or not a filter panics, the
ledger of the queries is kept by everything a host does.
-/

set_option autoImplicit false

namespace StreamControl

/-- In a list without repeated keys, a key finds one item. -/
theorem filter_key_eq {κ υ : Type} [DecidableEq κ] {items : List (κ × υ)}
    (distinct : (items.map (·.1)).Nodup) {item : κ × υ} (member : item ∈ items) :
    items.filter (·.1 = item.1) = [item] := by
  induction items with
  | nil => cases member
  | cons first rest ih =>
    rw [List.map_cons, List.nodup_cons] at distinct
    rcases List.mem_cons.mp member with rfl | later
    · rw [List.filter_cons, if_pos (decide_eq_true rfl), List.filter_eq_nil_iff.mpr]
      intro other present same
      exact distinct.1 (List.mem_map.mpr ⟨other, present, of_decide_eq_true same⟩)
    · have away : first.1 ≠ item.1 := fun same =>
        distinct.1 (List.mem_map.mpr ⟨item, later, same.symm⟩)
      rw [List.filter_cons_of_neg (by simpa using away)]
      exact ih distinct.2 later

namespace Session

open StreamControl.Action

variable {σ : Type}

/-! ## Calls that are answered -/

/-- A call that answers a query with acceptance has written it down first. -/
theorem meets_query (code : UserCode σ) (depth : Nat) (busy : List Address) (query : Query)
    (session : Session σ) :
    (Session.query (code.calleesTo depth busy) query).Meets session
      (fun answer after => answer = .ok () → ∃ entries,
        after.journal.toList = (session.accepting query).journal.toList ++ entries)
      (fun _ _ => False) (fun _ _ => False) := by
  cases located : session.tree.locate query.stream query.filter query.parameter with
  | error fault =>
    rw [Session.query, meets_bind, meets_get, located]
    intro accepted
    cases accepted
  | ok found =>
    obtain ⟨entry, parameter⟩ := found
    have lax := kept_lax (session.accepting query)
    have answers ticket callback delivery : Keeps _ False False _ :=
      lax.keeps_answer (lax.callees_keep code depth busy).callback ticket callback delivery
    rw [meets_query_iff located]
    exact ((lax.keeps_attend answers _ _ _ _).always (Kept.refl _)).imp fun _ _ kept _ =>
      ⟨kept.written.choose, kept.written.choose_spec.1⟩

end Session

namespace Session.Ledger

variable {σ : Type} {lost : List Nat} {isShutDown : Bool} {number : UInt32}
  {held : List (Nat × Query)} {session : Session σ}

/-! ## What a host does to the ledger -/

theorem silent_of_isOfHost {entry : Entry} (ofHost : entry.isOfHost = true) :
    entry.accepted? = none ∧ entry.dispatched? = none ∧ ∀ tree, entry.treeFrom tree = tree := by
  cases entry with
  | entered call =>
    cases call with
    | callback => cases ofHost
    | _ => exact ⟨rfl, rfl, fun _ => rfl⟩
  | accepted | skipped | grown => cases ofHost
  | _ => exact ⟨rfl, rfl, fun _ => rfl⟩

theorem attach (ledger : Ledger lost isShutDown number held session) (room : number + 1 ≠ 0) :
    Ledger lost isShutDown (number + 1) held
      { session with
        tree := session.tree.addStream ⟨number⟩
        journal := session.journal.push (.grown (session.tree.addStream ⟨number⟩)) } := by
  have next : number < number + 1 := UInt32.lt_add_one fun last => room (last ▸ rfl)
  have kept := ParameterTree.keptBut_addStream session.tree ⟨number⟩
  refine ledger.plant (fun below small => UInt32.lt_trans small next) ?_ ?_ ?_
  · intro stream small known
    rcases (ParameterTree.knows_addStream _ _ _).mp known with rfl | old
    · exact absurd small (UInt32.lt_irrefl _)
    · exact old
  · intro stream filter name _ has
    refine kept.has stream filter name (fun same => ?_) has
    have small := ledger.numbered stream has.knows
    rw [same] at small
    exact UInt32.lt_irrefl _ small
  · intro stream known
    rcases (ParameterTree.knows_addStream _ _ _).mp known with rfl | old
    · exact next
    · exact UInt32.lt_trans (ledger.numbered stream old) next

/-- A change of the tree that makes no stream known and takes no parameter
away from those that are. -/
theorem change (ledger : Ledger lost isShutDown number held session) {tree : ParameterTree}
    (knows : ∀ stream, tree.Knows stream → session.tree.Knows stream)
    (has : ∀ stream filter name, tree.Knows stream → session.tree.Has stream filter name →
      tree.Has stream filter name) :
    Ledger lost isShutDown number held
      { session with tree, journal := session.journal.push (.grown tree) } :=
  ledger.plant (fun _ small => small) (fun stream _ => knows stream) has
    fun stream known => ledger.numbered stream (knows stream known)

theorem enroll (ledger : Ledger lost isShutDown number held session) {tree : ParameterTree}
    {stream : StreamId} {filter : String}
    (added : session.tree.addFilter stream filter = .ok tree) :
    Ledger lost isShutDown number held
      { session with tree, journal := session.journal.push (.grown tree) } := by
  exact ledger.change (fun other => (ParameterTree.knows_addFilter_iff added other).mp)
    fun _ _ _ _ has => ParameterTree.has_addFilter added has

theorem forget (ledger : Ledger lost isShutDown number held session) (stream : StreamId) :
    Ledger lost isShutDown number held
      { session with
        tree := session.tree.removeStream stream
        journal := session.journal.push (.grown (session.tree.removeStream stream)) } := by
  refine ledger.change (fun other known => ?_) fun other filter name known has => ?_
  · exact ((ParameterTree.knows_removeStream _ _ _).mp known).2
  · exact (ParameterTree.keptBut_removeStream _ _).has other filter name
      ((ParameterTree.knows_removeStream _ _ _).mp known).1 has

/-- Everything that waits is dropped when the host is shut down or dropped. -/
theorem abandon (ledger : Ledger lost isShutDown number [] session) {isShutDown' isOpen' : Bool}
    (ended : isOpen' = false ∨ isShutDown' = true) :
    Ledger lost isShutDown' number [] { session with isOpen := isOpen', waiting := [] } :=
  { ledger with
    distinct := List.nodup_nil
    pending := fun _ member => (List.not_mem_nil member).elim
    fate := fun item member => by
      rcases ledger.fate item member with done | _ | gone | _
      · exact .inl done
      · exact .inr (.inr (.inr ended))
      · exact .inr (.inr (.inl gone))
      · exact .inr (.inr (.inr ended))
    lost := fun ticket member => by
      obtain ⟨known, quiet, _⟩ := ledger.lost ticket member
      exact ⟨known, quiet, List.not_mem_nil⟩ }

theorem shutDown (ledger : Ledger lost isShutDown number held session) :
    Ledger lost true number held session :=
  { ledger with
    fate := fun item member => by
      rcases ledger.fate item member with done | pending | gone | _
      · exact .inl done
      · exact .inr (.inl pending)
      · exact .inr (.inr (.inl gone))
      · exact .inr (.inr (.inr (.inr rfl))) }

/-- A ticket belongs to one query. -/
theorem eq_of_ticket (ledger : Ledger lost isShutDown number held session) {item other : Nat × Query}
    (accepted : item ∈ session.journal.accepted) (accepted' : other ∈ session.journal.accepted)
    (same : other.1 = item.1) : other = item := by
  have distinct : (session.journal.accepted.map (·.1)).Nodup := ledger.tickets ▸ List.nodup_range
  have alone := filter_key_eq distinct accepted
  have found : other ∈ session.journal.accepted.filter (·.1 = item.1) :=
    List.mem_filter.mpr ⟨accepted', decide_eq_true same⟩
  rw [alone] at found
  exact List.mem_singleton.mp found

/-- A query that is neither dispatched nor pending is lost for good. -/
theorem lose (ledger : Ledger lost isShutDown number held session) {item : Nat × Query}
    (accepted : item ∈ session.journal.accepted)
    (quiet : item.1 ∉ session.journal.dispatched)
    (absent : item.1 ∉ (held ++ session.waiting).map (·.1)) :
    Ledger (item.1 :: lost) isShutDown number held session :=
  { ledger with
    lost := fun ticket member => by
      rcases List.mem_cons.mp member with rfl | old
      · have early := List.mem_map_of_mem (f := (·.1)) accepted
        rw [ledger.tickets, List.mem_range] at early
        exact ⟨early, quiet, absent⟩
      · exact ledger.lost ticket old }

end Session.Ledger

namespace Host

open StreamControl.Action Session

variable {σ : Type}

/-- The ledger with nothing held endures. -/
theorem enduring_ledger (code : UserCode σ) (lost : List Nat) :
    Enduring code fun host => Ledger lost host.isShutDown host.nextStream [] host.session := by
  intro deed before after does ledger
  cases does with
  | stir before after session _ nextStream _ isShutDown =>
    rw [session, nextStream, isShutDown]
    exact ledger
  | write _ ofHost =>
    have silent := Ledger.silent_of_isOfHost ofHost
    exact ledger.push silent.1 silent.2.1 silent.2.2
  | send => exact { ledger with }
  | fail =>
    exact failing_of (P := Ledger lost before.isShutDown before.nextStream [])
      (fun _ _ ledger => { ledger with }) (fun _ _ _ _ ledger => ledger.push rfl rfl fun _ => rfl)
      (fun _ _ _ ledger => ledger.push rfl rfl fun _ => rfl)
      (fun _ ledger => ledger.push rfl rfl fun _ => rfl) ledger
  | run _ program _ ends | outside _ program ends =>
    exact (Ledger.keeps_run code [] program).of_ne_exhausted ledger ends
  | drain _ ends => exact (Ledger.keeps_drain code).of_ne_exhausted ledger ends
  | attach _ room => exact ledger.attach room
  | enroll _ added => exact ledger.enroll added
  | mark _ marked =>
    have same := ParameterTree.sameFilters_setStarted marked
    exact ledger.change (fun stream => (same.knows stream).mp)
      fun stream filter name _ => same.has stream filter name
  | settle _ stream =>
    have kept := ParameterTree.kept_dropUnkept before.session.tree stream
    exact ledger.change (fun other => (kept.knows other).mp)
      fun other filter name _ => kept.has other filter name
  | forget _ stream => exact ledger.forget stream
  | skip => exact ledger
  | announce | join | leave => exact ledger.push rfl rfl fun _ => rfl
  | shutDown => exact ledger.shutDown
  | discard _ down => exact ledger.abandon (.inr down)
  | close => exact ledger.abandon (.inl rfl)

theorem ledger_new (channel : Broadcast Event) (config : Config) (memory : σ) :
    Ledger [] false 1 [] (onChannel channel config memory).session where
  tickets := rfl
  once := List.nodup_nil
  known _ member := (List.not_mem_nil member).elim
  claimed _ member := (List.not_mem_nil member).elim
  distinct := List.nodup_nil
  pending _ member := (List.not_mem_nil member).elim
  fate _ member := (List.not_mem_nil member).elim
  has _ member := (List.not_mem_nil member).elim
  numbered _ known := nomatch known
  asked _ member := (List.not_mem_nil member).elim
  tree := rfl
  faithful earlier _ _ split := by
    cases earlier <;> cases split
  lost _ member := (List.not_mem_nil member).elim

/-- Every host that comes of a history has a ledger. -/
theorem History.ledger {code : UserCode σ} {history : History σ}
    (reachable : History.Reachable code history) :
    Ledger [] history.host.isShutDown history.host.nextStream [] history.host.session := by
  obtain ⟨config, memory, host, created, leads⟩ := reachable
  obtain ⟨channel, rfl⟩ := eq_of_create created
  exact leads.endures (enduring_ledger code []) (ledger_new channel config memory)

/-! ## Fates -/

/-- A query's callback has been handed the value once. -/
def Answered (host : Host σ) (ticket : Nat) : Prop :=
  host.session.journal.dispatched.count ticket = 1

/-- A query has not been answered, and is in the queue once. -/
def Waits (host : Host σ) (ticket : Nat) (query : Query) : Prop :=
  ticket ∉ host.session.journal.dispatched ∧
    host.session.waiting.filter (·.1 = ticket) = [(ticket, query)]

/-- A query is not in the queue and is never answered, and its stream has been
forgotten or its host has been shut down or dropped. -/
def History.Loses (code : UserCode σ) (history : History σ) (ticket : Nat) (query : Query) : Prop :=
  ticket ∉ history.host.session.waiting.map (·.1) ∧
    (∀ later, History.Leads code history later →
      ticket ∉ later.host.session.journal.dispatched) ∧
    (¬ history.host.session.tree.Knows query.stream ∨ history.host.isShutDown = true ∨
      history.host.session.isOpen = false)

/-- Exactly one of three things holds. -/
def ExactlyOne (first second third : Prop) : Prop :=
  (first ∧ ¬ second ∧ ¬ third) ∨ (¬ first ∧ second ∧ ¬ third) ∨ (¬ first ∧ ¬ second ∧ third)

/-- **Every accepted query has exactly one fate.**  A call that answers a query
with acceptance writes it down under a ticket of its own.  After any history
each accepted query has been answered once, or waits, or is lost; and whenever
a callback is handed a value for a query, it is the query's own callback, and
the value that the parameter has at that moment, in a filter that is marked as
started. -/
theorem query_fates (code : UserCode σ) {history : History σ}
    (reachable : History.Reachable code history) :
    (∀ depth busy query (session after : Session σ),
      Session.query (code.calleesTo depth busy) query session = (.returned (.ok ()), after) →
        ∃ entries, after.journal.toList = session.journal.toList ++
          [.counted .queriesAccepted query.filter query.parameter,
            .accepted session.nextTicket query] ++ entries) ∧
    (history.host.session.journal.accepted.map (·.1)).Nodup ∧
    history.host.session.tree = Journal.treeAfter history.host.session.journal.toList ∧
    ∀ ticket query, (ticket, query) ∈ history.host.session.journal.accepted →
      ExactlyOne (history.host.Answered ticket) (history.host.Waits ticket query)
        (history.Loses code ticket query) ∧
      ∀ earlier entry later callback delivery,
        history.host.session.journal.toList = earlier ++ entry :: later →
          entry.dispatched? = some (ticket, callback, delivery) →
            query.Fits (Journal.treeAfter earlier) callback delivery := by
  have ledger := History.ledger reachable
  refine ⟨fun depth busy query session after answered => ?_, ledger.tickets ▸ List.nodup_range,
    ledger.tree, fun ticket query accepted => ⟨?_, ?_⟩⟩
  · obtain ⟨entries, written⟩ := (meets_query code depth busy query session).of_returned answered
      rfl
    exact ⟨entries, toList_accepting query session ▸ written⟩
  · have count : history.host.session.journal.dispatched.count ticket = _ := ledger.once.count
    by_cases done : ticket ∈ history.host.session.journal.dispatched
    · rw [if_pos done] at count
      exact .inl ⟨count, fun waits => waits.1 done, fun loses => loses.2.1 history .refl done⟩
    · rw [if_neg done] at count
      have unanswered : ¬ history.host.Answered ticket := fun answered => by
        rw [Answered, count] at answered
        cases answered
      by_cases pending : (ticket, query) ∈ history.host.session.waiting
      · refine .inr (.inl ⟨unanswered, ⟨done, ?_⟩, fun loses => ?_⟩)
        · exact filter_key_eq ledger.distinct pending
        · exact loses.1 (List.mem_map_of_mem pending)
      · have absent : ticket ∉ history.host.session.waiting.map (·.1) := fun found => by
          obtain ⟨item, waits, same⟩ := List.mem_map.mp found
          exact pending (ledger.eq_of_ticket accepted (ledger.pending item waits).1 same ▸ waits)
        refine .inr (.inr ⟨unanswered, fun waits => ?_, absent, fun later leads => ?_, ?_⟩)
        · exact pending ((List.mem_filter.mp (waits.2 ▸ List.mem_singleton.mpr rfl)).1)
        · have lost := leads.endures (enduring_ledger code [ticket]) (ledger.lose accepted done absent)
          exact (lost.lost ticket (List.mem_singleton.mpr rfl)).2.1
        · rcases ledger.fate (ticket, query) accepted with done' | pending' | gone | closed | down
          · exact absurd done' done
          · exact absurd pending' pending
          · exact .inl gone
          · exact .inr (.inr closed)
          · exact .inr (.inl down)
  · intro earlier entry later callback delivery split shown
    obtain ⟨other, asked, fits⟩ := ledger.faithful earlier entry later split ticket callback
      delivery shown
    have asked' : (ticket, other) ∈ history.host.session.journal.accepted := by
      rw [Journal.accepted, split, List.filterMap_append]
      exact List.mem_append_left _ asked
    cases ledger.eq_of_ticket accepted asked' rfl
    exact fits

/-- User code whose filters make a parameter when they are constructed, and
which does nothing otherwise. -/
def gainCode : UserCode Unit :=
  { idleCode with
    filter := fun _ function context =>
      match function with
      | .construct => .ask (.create context "gain" .bool (.bool true) none) fun _ => .done (.ok ())
      | _ => .done (.ok ()) }

/-- A query for that parameter. -/
def gainQuery (stream : StreamId) : Query :=
  { stream, filter := "source", parameter := "gain", callback := { code := 0 } }

/-- A history in which a stream is attached and its parameter is asked for,
three times over; the first stream is then started and the second detached. -/
def askingHistory : History Unit :=
  .after gainCode { episodes := [], host := freshHost }
    [.addStream (FilterGraph.empty.append "source" (some 0)),
      .outside (.ask (.query (gainQuery ⟨1⟩)) fun _ => .done ()),
      .addStream (FilterGraph.empty.append "source" (some 0)),
      .outside (.ask (.query (gainQuery ⟨2⟩)) fun _ => .done ()),
      .addStream (FilterGraph.empty.append "source" (some 0)),
      .outside (.ask (.query (gainQuery ⟨3⟩)) fun _ => .done ()),
      .start ⟨1⟩,
      .removeStream ⟨2⟩]

theorem askingHistory_reachable : askingHistory.Reachable gainCode := by
  refine ⟨_, _, _, create_freshHost, History.leads_after _
    ⟨⟨⟨?_, ?attach⟩, ?_⟩, ⟨⟨?_, nofun⟩, ?_⟩, ⟨⟨?_, ?attach'⟩, ?_⟩, ⟨⟨?_, nofun⟩, ?_⟩,
      ⟨⟨?_, ?attach''⟩, ?_⟩, ⟨⟨?_, nofun⟩, ?_⟩, ⟨⟨?_, nofun⟩, ?_⟩, ⟨⟨?_, nofun⟩, ?_⟩, trivial⟩⟩
  case attach | attach' | attach'' =>
    intro graph same
    cases same
    exact .add .new rfl
  all_goals decide +kernel

/-- One query has been answered, one is lost, and one waits. -/
theorem query_fates_asking :
    askingHistory.host.session.journal.accepted =
        [(0, gainQuery ⟨1⟩), (1, gainQuery ⟨2⟩), (2, gainQuery ⟨3⟩)] ∧
      askingHistory.host.Answered 0 ∧ askingHistory.Loses gainCode 1 (gainQuery ⟨2⟩) ∧
        askingHistory.host.Waits 2 (gainQuery ⟨3⟩) := by
  have accepted : askingHistory.host.session.journal.accepted =
      [(0, gainQuery ⟨1⟩), (1, gainQuery ⟨2⟩), (2, gainQuery ⟨3⟩)] := by
    decide +kernel
  have dispatched : askingHistory.host.session.journal.dispatched = [0] := by
    decide +kernel
  have waiting : askingHistory.host.session.waiting = [(2, gainQuery ⟨3⟩)] := by
    decide +kernel
  have fates := (query_fates gainCode askingHistory_reachable).2.2.2
  rw [accepted] at fates
  have unanswered : ∀ ticket, ticket ≠ 0 → ¬ askingHistory.host.Answered ticket := by
    intro ticket other answered
    rw [Answered, dispatched, List.count_singleton, if_neg (by simpa using other.symm)] at answered
    cases answered
  refine ⟨accepted, ?_, ?_, ?_⟩
  · rcases (fates 0 (gainQuery ⟨1⟩) (by simp)).1 with answered | waits | loses
    · exact answered.1
    · exact absurd (dispatched ▸ List.mem_singleton.mpr rfl) waits.2.1.1
    · exact absurd (dispatched ▸ List.mem_singleton.mpr rfl) (loses.2.2.2.1 askingHistory .refl)
  · rcases (fates 1 (gainQuery ⟨2⟩) (by simp)).1 with answered | waits | loses
    · exact absurd answered.1 (unanswered 1 (by decide))
    · have queued := waits.2.1.2
      rw [waiting] at queued
      cases queued
    · exact loses.2.2
  · rcases (fates 2 (gainQuery ⟨3⟩) (by simp)).1 with answered | waits | loses
    · exact absurd answered.1 (unanswered 2 (by decide))
    · exact waits.2.1
    · exact absurd (waiting ▸ List.mem_singleton.mpr rfl) loses.2.2.1

end Host

end StreamControl
