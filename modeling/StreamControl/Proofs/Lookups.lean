import StreamControl.Proofs.Exhaustion
import StreamControl.Proofs.QueryFates
import StreamControl.Proofs.Requests

/-!
# Queries and reads

A query looks for its parameter on a way of its own, with causes of its own for what it
misses; a read of the value, of the declared type or of the number of subscriptions goes the way
of every other operation.  Both miss the first thing that is not there: the stream, then the
filter, then the parameter (`ParameterTree.Misses`).  So a query is accepted where a read is
answered, and rejected for the cause for which a read is refused (`Host.reads_agree`).

A query that is rejected is counted and announced, and leaves nothing else behind
(`Session.Rejection`): it has no ticket, and a callback is called for a query only under the
ticket of one that was accepted.
-/

set_option autoImplicit false

namespace StreamControl

/-! ## What is missing -/

namespace ParameterTree

variable {tree : ParameterTree} {stream : StreamId} {filter name : String}

/-- What is missing first on the way down to a parameter. -/
inductive Misses (tree : ParameterTree) (stream : StreamId) (filter name : String) :
    QueryFault → Prop where
  /-- There is no such stream. -/
  | stream (unknown : tree.streams.find? stream = none) :
    Misses tree stream filter name (.unknownStream stream)
  /-- There is, but it has no such filter. -/
  | filter {filters : OrderedMap String FilterEntry} (known : tree.streams.find? stream = some filters)
    (unknown : filters.find? filter = none) : Misses tree stream filter name (.unknownFilter filter)
  /-- It has, but the filter has no such parameter. -/
  | parameter {filters : OrderedMap String FilterEntry} {entry : FilterEntry}
    (known : tree.streams.find? stream = some filters) (there : filters.find? filter = some entry)
    (unknown : entry.parameters.find? name = none) :
    Misses tree stream filter name (.unknownParameter filter name)

/-- A query misses what is missing first. -/
theorem locate_eq_error_iff {fault : QueryFault} :
    tree.locate stream filter name = .error fault ↔ tree.Misses stream filter name fault := by
  constructor
  · intro missed
    rw [locate] at missed
    split at missed
    · rename_i unknown
      cases missed
      exact .stream unknown
    · rename_i filters known
      split at missed
      · rename_i unknown
        cases missed
        exact .filter known unknown
      · rename_i entry there
        split at missed
        · rename_i unknown
          cases missed
          exact .parameter known there unknown
        · cases missed
  · rintro (unknown | ⟨known, unknown⟩ | ⟨known, there, unknown⟩)
    · rw [locate, unknown]
    · simp only [locate, known, unknown]
    · simp only [locate, known, there, unknown]

/-- Every other operation finds what a query finds. -/
theorem parameterAt_of_locate_ok {entry : FilterEntry} {parameter : Parameter}
    (located : tree.locate stream filter name = .ok (entry, parameter)) :
    tree.parameterAt stream filter name = .ok parameter := by
  rw [parameterAt_eq_locate, located]
  rfl

/-- It is refused for the cause for which a query is rejected. -/
theorem parameterAt_of_locate_error {fault : QueryFault}
    (missed : tree.locate stream filter name = .error fault) :
    tree.parameterAt stream filter name = .error fault.toFault := by
  rw [parameterAt_eq_locate, missed]
  rfl

end ParameterTree

namespace Query

/-- The reads of the parameter that a query asks for. -/
def reads (query : Query) : List Request :=
  [.value query.stream query.filter query.parameter,
    .declaredType query.stream query.filter query.parameter,
    .subscriptionCount query.stream query.filter query.parameter]

/-- The event that announces that a query was rejected. -/
def rejection (query : Query) (fault : QueryFault) : Event :=
  .queryRejected query.stream query.filter query.parameter fault.message

end Query

namespace Session

open StreamControl.Action

variable {σ α : Type} {callees : Callees σ} {query : Query} {session : Session σ}

/-! ## Rejected queries -/

/-- A query has been rejected, and that is all that has happened. -/
structure Rejection (query : Query) (fault : QueryFault) (before after : Session σ) : Prop where
  /-- It is written down that it was counted and announced; no ticket was given to it and no
  callback was called. -/
  noted : after.journal.toList = before.journal.toList ++
    [.counted .queriesRejected query.filter query.parameter,
      .message .debug "parameter query rejected", .sent (query.rejection fault)]
  /-- One event was sent. -/
  announced : after.channel = (before.channel.send (query.rejection fault)).2
  /-- Nothing has joined the queue, and all else is as it was. -/
  untouched : after = { before with channel := after.channel, journal := after.journal }

/-- A query that misses something is rejected. -/
theorem query_of_missed (callees : Callees σ) {fault : QueryFault}
    (missed : session.tree.locate query.stream query.filter query.parameter = .error fault) :
    ∃ after, Session.query callees query session = (.returned (.error fault), after) ∧
      Rejection query fault session after := by
  rw [Session.query, bind_of_returned (rfl : (get : Action (Session σ) _) session = _), missed]
  refine ⟨_, rfl, ?_, rfl, rfl⟩
  simp only [Array.toList_push, List.append_assoc]
  rfl

/-! ## Accepted queries -/

/-- A query is answered at once with a callback that never ends. -/
def Overruns (callees : Callees σ) (query : Query) (session : Session σ) : Prop :=
  ∃ entry parameter,
    session.tree.locate query.stream query.filter query.parameter = .ok (entry, parameter) ∧
      entry.started = true ∧ query.callback.isWellFormed = true ∧
        (callees.callback query.callback.code (query.delivery parameter.value)).Exhausts
          { session.accepting query with
            journal := (session.accepting query).journal.push (.entered
              (.callback (.query session.nextTicket) query.callback
                (query.delivery parameter.value))) }

section Located

variable {entry : FilterEntry} {parameter : Parameter}
  (located : session.tree.locate query.stream query.filter query.parameter =
    .ok (entry, parameter))
include located

/-- Letting a query wait whose filter is not started goes through. -/
theorem not_exhausts_defer_idle (idle : ¬ entry.started = true) {ticket : Nat} :
    ¬ (defer callees ticket query).Exhausts session := by
  rw [defer, exhausts_get_bind]
  split
  · rw [exhausts_modify_bind, Session.log, Session.record, exhausts_modify_bind, recheck,
      exhausts_get_bind]
    -- The tree is what it was, so looking again finds the filter idle again.
    simp only [located, idle, Bool.false_eq_true, if_false]
    exact not_exhausts_pure _ _
  · exact not_exhausts_record _ _

theorem exhausts_attend {ticket : Nat} :
    (attend callees query ticket entry parameter).Exhausts session ↔
      entry.started = true ∧ (dispatch callees (.query ticket) query.callback
        (query.delivery parameter.value)).Exhausts session := by
  rw [attend]
  split
  · rename_i started
    rw [and_iff_right started]
    exact exhausts_bind_iff fun _ => not_exhausts_record _
  · rename_i idle
    exact iff_of_false (not_exhausts_defer_idle located idle) fun both => idle both.1

end Located

/-- A query exhausts the run exactly with its callback, when that is called at once. -/
theorem exhausts_query :
    (Session.query callees query).Exhausts session ↔ Overruns callees query session := by
  cases located : session.tree.locate query.stream query.filter query.parameter with
  | error fault =>
    obtain ⟨after, rejected, -⟩ := query_of_missed callees located
    constructor
    · intro exhausts
      rw [Exhausts, rejected] at exhausts
      cases exhausts
    · rintro ⟨entry, parameter, found, -⟩
      cases located.symm.trans found
  | ok found =>
    obtain ⟨entry, parameter⟩ := found
    have accepted : (session.accepting query).tree.locate query.stream query.filter
        query.parameter = .ok (entry, parameter) := located
    rw [Exhausts, query_of_located located, ← Exhausts,
      exhausts_bind_iff fun _ => not_exhausts_pure _, exhausts_attend accepted, exhausts_dispatch]
    constructor
    · rintro ⟨started, overruns⟩
      exact ⟨entry, parameter, located, started, overruns⟩
    · rintro ⟨_, _, found, started, overruns⟩
      cases located.symm.trans found
      exact ⟨started, overruns⟩

/-- A query whose parameter is found is neither refused nor panics. -/
theorem meets_query_of_located (code : UserCode σ) (depth : Nat) (busy : List Address)
    {entry : FilterEntry} {parameter : Parameter}
    (located : session.tree.locate query.stream query.filter query.parameter =
      .ok (entry, parameter)) :
    (Session.query (code.calleesTo depth busy) query).Meets session
      (fun answer _ => answer = .ok ())
      (fun _ _ => False) (fun _ _ => False) := by
  have answers ticket callback delivery : Keeps (fun _ : Session σ => True) False False
      (dispatch (code.calleesTo depth busy) (.query ticket) callback delivery) :=
    lax_true.keeps_answer (lax_true.callees_keep code depth busy).callback ticket callback delivery
  rw [meets_query_iff located]
  exact ((lax_true.keeps_attend answers _ _ _ _).always trivial).imp fun _ _ _ => rfl

/-! ## Reads -/

/-- A session answers a request without an error, and stays as it is. -/
def Grants (callees : Callees σ) (session : Session σ) (request : Request) : Prop :=
  ∃ answer, serve callees request session = (.returned answer, session) ∧
    request.refusal? answer = none

/-- A session answers a request with an error, and stays as it is. -/
def Denies (callees : Callees σ) (session : Session σ) (request : Request) (cause : Fault) : Prop :=
  ∃ answer, serve callees request session = (.returned answer, session) ∧
    request.refusal? answer = some cause

theorem attempt_read (read : Parameter → α) (stream : StreamId) (filter name : String) :
    (readTree fun tree => read <$> tree.parameterAt stream filter name).attempt session =
      (.returned (read <$> session.tree.parameterAt stream filter name), session) := by
  rw [Action.attempt, readTree,
    bind_of_returned (rfl : (get : Action (Session σ) _) session = _)]
  cases session.tree.parameterAt stream filter name <;> rfl

theorem refusalOf_map {β : Type} (read : α → β) (found : Except Fault α) :
    refusalOf (read <$> found) = refusalOf found := by
  cases found <;> rfl

/-- Whatever is read of a parameter, a read is refused only for what is missing. -/
theorem serve_read (callees : Callees σ) (session : Session σ) {read : Request}
    (among : read ∈ query.reads) :
    ∃ answer, serve callees read session = (.returned answer, session) ∧
      read.refusal? answer = refusalOf
        (session.tree.parameterAt query.stream query.filter query.parameter) := by
  simp only [Query.reads, List.mem_cons, List.not_mem_nil, or_false] at among
  rcases among with rfl | rfl | rfl
  · exact ⟨_, attempt_read (·.value) _ _ _, refusalOf_map _ _⟩
  · exact ⟨_, attempt_read (·.type) _ _ _, refusalOf_map _ _⟩
  · exact ⟨_, attempt_read (·.subscriptions.length) _ _ _, refusalOf_map _ _⟩

section Read

variable {read : Request} (among : read ∈ query.reads)
include among

theorem grants_read_iff : Grants callees session read ↔ refusalOf
    (session.tree.parameterAt query.stream query.filter query.parameter) = none := by
  obtain ⟨answer, served, refusal⟩ := serve_read callees session among
  rw [← refusal]
  constructor
  · rintro ⟨other, served', granted⟩
    cases served.symm.trans served'
    exact granted
  · exact fun granted => ⟨answer, served, granted⟩

theorem denies_read_iff {cause : Fault} : Denies callees session read cause ↔ refusalOf
    (session.tree.parameterAt query.stream query.filter query.parameter) = some cause := by
  obtain ⟨answer, served, refusal⟩ := serve_read callees session among
  rw [← refusal]
  constructor
  · rintro ⟨other, served', denied⟩
    cases served.symm.trans served'
    exact denied
  · exact fun denied => ⟨answer, served, denied⟩

end Read

/-! ## Queries beside reads -/

/-- A query comes out as a read of its parameter does. -/
structure Concurs (callees : Callees σ) (session : Session σ) (query : Query) (read : Request) :
    Prop where
  /-- It is accepted exactly where the read is answered, unless its callback is called at once
  and never ends. -/
  accepted : (serve callees (.query query) session).1 = .returned (.ok ()) ↔
    Grants callees session read ∧ ¬ Overruns callees query session
  /-- The run is exhausted then, and there is no answer. -/
  unanswered : (serve callees (.query query) session).1 = .exhausted ↔
    Overruns callees query session
  /-- It is rejected for a cause exactly where the read is refused for the same cause. -/
  rejected : ∀ fault : QueryFault,
    (serve callees (.query query) session).1 = .returned (.error fault) ↔
      Denies callees session read fault.toFault
  /-- The read is refused for no other causes. -/
  causes : ∀ cause, Denies callees session read cause → ∃ fault : QueryFault, fault.toFault = cause

theorem concurs_of_mem_reads (code : UserCode σ) (depth : Nat) (busy : List Address)
    (query : Query) (session : Session σ) {read : Request} (among : read ∈ query.reads) :
    Concurs (code.calleesTo depth busy) session query read := by
  cases located : session.tree.locate query.stream query.filter query.parameter with
  | error fault =>
    obtain ⟨after, rejected, -⟩ := query_of_missed (code.calleesTo depth busy) located
    have refusal : refusalOf (session.tree.parameterAt query.stream query.filter query.parameter) =
        some fault.toFault := by
      rw [ParameterTree.parameterAt_of_locate_error located]
      rfl
    constructor
    case accepted =>
      rw [serve, rejected, grants_read_iff among, refusal]
      exact ⟨nofun, nofun⟩
    case unanswered => exact exhausts_query
    case rejected =>
      intro other
      rw [serve, rejected, denies_read_iff among, refusal]
      constructor
      · intro same
        cases same
        rfl
      · intro same
        cases QueryFault.toFault_injective (Option.some.inj same)
        rfl
    case causes =>
      intro cause denied
      rw [denies_read_iff among, refusal] at denied
      exact ⟨fault, Option.some.inj denied⟩
  | ok found =>
    obtain ⟨entry, parameter⟩ := found
    have refusal : refusalOf (session.tree.parameterAt query.stream query.filter query.parameter) =
        none := by
      rw [ParameterTree.parameterAt_of_locate_ok located]
      rfl
    have denied (cause : Fault) : ¬ Denies (code.calleesTo depth busy) session read cause := by
      rw [denies_read_iff among, refusal]
      nofun
    have meets := meets_query_of_located code depth busy located
    constructor
    case accepted =>
      rw [serve, and_iff_right ((grants_read_iff among).mpr refusal), ← exhausts_query]
      constructor
      · intro accepted exhausts
        cases accepted.symm.trans exhausts
      · intro ends
        rcases meets.exhausts_or with exhausts | ⟨answer, after, run, rfl⟩
        · exact absurd exhausts ends
        · exact congrArg Prod.fst run
    case unanswered => exact exhausts_query
    case rejected =>
      intro fault
      refine iff_of_false (fun rejected => ?_) (denied _)
      cases meets.of_returned (Prod.ext rejected rfl)
    case causes => exact fun cause refused => absurd refused (denied cause)

end Session

namespace Host

open StreamControl.Action Session

variable {σ : Type}

/-- **Queries and reads agree on what there is.**  In every session, and so in every session
that a host comes to, a query is accepted exactly where its parameter's value, its declared type
and the number of its subscriptions can be read, and it is rejected exactly where each of them
is refused, for the same cause.  A query that is rejected is told what is missing first, the
stream before the filter and the filter before the parameter, with a code other than zero; one
event is sent, no callback is called and nothing joins the queue.  Nor is its callback called
later on: a callback is called for a query only under the ticket of one that was accepted. -/
theorem reads_agree (code : UserCode σ) {history : History σ}
    (reachable : History.Reachable code history) :
    (∀ (depth : Nat) (busy : List Address) (query : Query) (session : Session σ),
      (∀ read ∈ query.reads, Concurs (code.calleesTo depth busy) session query read) ∧
      ∀ fault after,
        serve (code.calleesTo depth busy) (.query query) session =
            (.returned (.error fault), after) →
          session.tree.Misses query.stream query.filter query.parameter fault ∧ fault.code ≠ 0 ∧
            Rejection query fault session after) ∧
    history.host.session.journal.Throughout Entry.IsFaithful := by
  refine ⟨fun depth busy query session => ⟨fun read =>
    concurs_of_mem_reads code depth busy query session, fun fault after rejected => ?_⟩,
    (History.ledger reachable).faithful⟩
  cases located : session.tree.locate query.stream query.filter query.parameter with
  | error missing =>
    obtain ⟨left, told, rejection⟩ := query_of_missed (code.calleesTo depth busy) located
    cases told.symm.trans rejected
    exact ⟨ParameterTree.locate_eq_error_iff.mp located, fault.code_ne_zero, rejection⟩
  | ok found => cases (meets_query_of_located code depth busy located).of_returned rejected

/-- In a session whose second stream has been detached, a stream, a filter and a parameter are
missing, one each, and another parameter is there. -/
theorem reads_agree_asking :
    let callees := gainCode.calleesTo 1 []
    let session := askingHistory.host.session
    Denies callees session (.value ⟨2⟩ "source" "gain") (.unknownStream ⟨2⟩) ∧
      Denies callees session (.declaredType ⟨1⟩ "sink" "gain") (.unknownFilter "sink") ∧
      Denies callees session (.subscriptionCount ⟨1⟩ "source" "loudness")
        (.unknownParameter "source" "loudness") ∧
      Grants callees session (.value ⟨1⟩ "source" "gain") ∧
      Rejection (gainQuery ⟨2⟩) (.unknownStream ⟨2⟩) session
        (serve callees (.query (gainQuery ⟨2⟩)) session).2 := by
  intro callees session
  have agree := (reads_agree gainCode askingHistory_reachable).1 1 []
  have denied (query : Query) (fault : QueryFault) {read : Request} (among : read ∈ query.reads)
      (rejected : (Session.query callees query session).1 = .returned (.error fault)) :
      Denies callees session read fault.toFault :=
    (((agree query session).1 read among).rejected fault).mp rejected
  have stream : (Session.query callees (gainQuery ⟨2⟩) session).1 =
      .returned (.error (.unknownStream ⟨2⟩)) := by
    decide +kernel
  have there : (Session.query callees (gainQuery ⟨1⟩) session).1 = .returned (.ok ()) := by
    decide +kernel
  refine ⟨denied _ _ ?_ stream,
    denied { gainQuery ⟨1⟩ with filter := "sink" } (.unknownFilter "sink") ?_ ?filter,
    denied { gainQuery ⟨1⟩ with parameter := "loudness" } (.unknownParameter "source" "loudness")
      ?_ ?parameter,
    (((agree (gainQuery ⟨1⟩) session).1 _ ?_).accepted.mp there).1,
    ((agree (gainQuery ⟨2⟩) session).2 _ _ (Prod.ext stream rfl)).2.2⟩
  case filter | parameter => decide +kernel
  all_goals simp [Query.reads, gainQuery]

end Host

end StreamControl
