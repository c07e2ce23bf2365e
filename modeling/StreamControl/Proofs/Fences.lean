import StreamControl.Proofs.Alike
import StreamControl.Proofs.Ledger

/-!
# User code that stays on one stream

A curb keeps user code to some requests: where it would make another, it panics
(`UserCode.curbed`).  Code that would never do so is its own curbed code
(`UserCode.Heeds.curbed_eq`), and curbed code is code of that kind (`UserCode.heeds_curbed`),
so to know what such code leaves alone it is enough to look at the requests that are allowed.

A fence is a curb that keeps user code to one stream: where it would query, push, set, create
or subscribe on another, it panics (`UserCode.fenced_eq_curbed`).

What it leaves alone is everything about another stream (`Session.Apart`): the filters and
parameters of the stream, the queries for it in the queue and their order, and its
callbacks, none of which is called.  The queue is one for all streams, and a drain takes
every query out of it.  It puts those for the other stream back in their order, since
their filters are not started and no ticket of theirs is ever claimed
(`Session.Apart.meets_drain`).
-/

set_option autoImplicit false

namespace StreamControl

/-! ## Curbs -/

namespace Program

variable {σ α : Type} (allowed : Request → Bool) (reason : String)

/-- A program that panics where it would make a request that is not allowed. -/
def curbed : Program σ α → Program σ α
  | done result => done result
  | panic cause => panic cause
  | inspect next => inspect fun memory => (next memory).curbed
  | remember memory next => remember memory next.curbed
  | ask request next =>
    if allowed request then ask request fun answer => (next answer).curbed else panic reason

theorem asks_curbed (program : Program σ α) :
    (program.curbed allowed reason).Asks (allowed · = true) := by
  induction program with
  | done | panic => exact trivial
  | inspect next ih => exact ih
  | remember memory next ih => exact ih
  | ask request next ih =>
    rw [curbed]
    split
    · exact ⟨‹_›, ih⟩
    · exact trivial

variable {allowed}

/-- A curb does not matter to a program that asks for nothing else. -/
theorem Asks.curbed_eq {program : Program σ α} (asks : program.Asks (allowed · = true)) :
    program.curbed allowed reason = program := by
  induction program with
  | done | panic => rfl
  | inspect next ih => exact congrArg inspect (funext fun memory => ih memory (asks memory))
  | remember memory next ih => exact congrArg (remember memory) (ih asks)
  | ask request next ih =>
    rw [curbed, if_pos asks.1]
    exact congrArg (ask request) (funext fun answer => ih answer (asks.2 answer))

end Program

namespace UserCode

variable {σ : Type}

/-- User code that makes some requests only. -/
structure Heeds (allowed : Request → Prop) (code : UserCode σ) : Prop where
  /-- Callbacks do. -/
  callbacks : ∀ reference delivery, (code.callback reference delivery).Asks allowed
  /-- Setters do. -/
  setters : ∀ reference requested current,
    (code.setter reference requested current).Asks allowed
  /-- So does everything that a host runs. -/
  offers : ∀ {α : Type} {program : Program σ α}, code.Offers program → program.Asks allowed

/-- User code that panics where it would make a request that is not allowed. -/
def curbed (allowed : Request → Bool) (reason : String) (code : UserCode σ) : UserCode σ :=
  code.translated (Program.curbed allowed reason)

theorem heeds_curbed (allowed : Request → Bool) (reason : String) (code : UserCode σ) :
    (code.curbed allowed reason).Heeds (allowed · = true) where
  callbacks _ _ := Program.asks_curbed allowed reason _
  setters _ _ _ := Program.asks_curbed allowed reason _
  offers offered := by
    cases offered with
    | filter reference? =>
      cases reference? with
      | none => exact trivial
      | some reference => exact Program.asks_curbed allowed reason _
    | _ => exact Program.asks_curbed allowed reason _

theorem Heeds.curbed_eq {allowed : Request → Bool} {code : UserCode σ}
    (heeds : code.Heeds (allowed · = true)) (reason : String) :
    code.curbed allowed reason = code := by
  have unchanged {α : Type} {program : Program σ α} (offered : code.Offers program) :
      program.curbed allowed reason = program := (heeds.offers offered).curbed_eq reason
  cases code
  simp only [curbed, translated, mk.injEq, and_true]
  refine ⟨?_, ?_, ?_, ?_, ?_, ?_, ?_, ?_⟩
  · exact funext fun reference => funext fun delivery =>
      (heeds.callbacks reference delivery).curbed_eq reason
  · exact funext fun _ => funext fun _ => unchanged (.construct _ _)
  · exact funext fun _ => unchanged (.help _)
  · exact funext fun _ => funext fun _ => unchanged (.preStart _ _)
  · exact funext fun _ => funext fun _ => funext fun _ => unchanged (.filterHook _ _ _)
  · exact funext fun _ => unchanged (.destroy _)
  · exact funext fun reference => funext fun _ => funext fun _ =>
      unchanged (.filter (some reference) _ _)
  · exact funext fun reference => funext fun requested => funext fun current =>
      (heeds.setters reference requested current).curbed_eq reason

end UserCode

/-! ## Fences -/

/-- Whether a request is about one stream, if it is about any. -/
def Request.isWithin (stream : StreamId) (request : Request) : Bool :=
  request.target?.all (· = stream)

theorem Request.eq_of_isWithin {stream target : StreamId} {request : Request}
    (within : request.isWithin stream = true) (about : request.target? = some target) :
    target = stream := by
  rw [isWithin, about] at within
  exact of_decide_eq_true within

namespace Program

variable {σ α : Type} (stream : StreamId)

/-- A program that panics where it would ask about another stream. -/
def fenced : Program σ α → Program σ α
  | done result => done result
  | panic reason => panic reason
  | inspect next => inspect fun memory => (next memory).fenced
  | remember memory next => remember memory next.fenced
  | ask request next =>
    if request.isWithin stream then ask request fun answer => (next answer).fenced
    else panic "request about another stream"

theorem fenced_eq_curbed (program : Program σ α) :
    program.fenced stream = program.curbed (·.isWithin stream) "request about another stream" := by
  induction program with
  | done | panic => rfl
  | inspect next ih => exact congrArg inspect (funext ih)
  | remember memory next ih => exact congrArg (remember memory) ih
  | ask request next ih =>
    rw [fenced, curbed]
    split
    · exact congrArg (ask request) (funext ih)
    · rfl

end Program

namespace UserCode

variable {σ : Type}

/-- User code that panics where it would ask about another stream. -/
def fenced (stream : StreamId) (code : UserCode σ) : UserCode σ where
  callback reference delivery := (code.callback reference delivery).fenced stream
  construct reference arguments := (code.construct reference arguments).fenced stream
  help reference := (code.help reference).fenced stream
  preStart reference arguments := (code.preStart reference arguments).fenced stream
  filterHook reference hook arguments := (code.filterHook reference hook arguments).fenced stream
  destroy reference := (code.destroy reference).fenced stream
  filter reference function context := (code.filter reference function context).fenced stream
  setter reference requested current :=
    (code.setter reference requested current).fenced stream
  nesting := code.nesting

theorem fenced_eq_curbed (stream : StreamId) (code : UserCode σ) :
    code.fenced stream = code.curbed (·.isWithin stream) "request about another stream" := by
  simp only [fenced, curbed, translated, Program.fenced_eq_curbed]

/-- User code that asks about one stream only. -/
abbrev Within (stream : StreamId) (code : UserCode σ) : Prop :=
  code.Heeds (·.isWithin stream = true)

theorem within_fenced (stream : StreamId) (code : UserCode σ) :
    (code.fenced stream).Within stream :=
  fenced_eq_curbed stream code ▸ heeds_curbed _ _ code

theorem Within.fenced_eq {stream : StreamId} {code : UserCode σ} (within : code.Within stream) :
    code.fenced stream = code := by
  rw [fenced_eq_curbed, Heeds.curbed_eq within]

end UserCode

/-- The stream of the parameter whose value a callback is handed. -/
def Entry.servedStream? : Entry → Option StreamId
  | .entered (.callback _ _ delivery) | .skipped _ _ delivery => some delivery.stream
  | _ => none

theorem Entry.servedStream?_of_isRemark {entry : Entry} (remark : entry.isRemark = true) :
    entry.servedStream? = none := by
  cases entry <;> first | rfl | cases remark

theorem Entry.servedStream?_of_isOfHost {entry : Entry} (ofHost : entry.isOfHost = true) :
    entry.servedStream? = none := by
  cases entry with
  | entered call => cases call <;> first | rfl | cases ofHost
  | _ => first | rfl | cases ofHost

namespace Session

open StreamControl.Action

variable {σ : Type}

/-! ## What belongs to a stream -/

/-- The queries for a stream in the queue, in order. -/
def waitingFor (session : Session σ) (stream : StreamId) : List (Nat × Query) :=
  session.waiting.filter (·.2.stream = stream)

/-- The tickets of these queries. -/
def ticketsFor (session : Session σ) (stream : StreamId) : List Nat :=
  (session.waitingFor stream).map (·.1)

/-- Whether a query is one of those for a stream in the queue, or has at least none of
their tickets. -/
def Sorts (session : Session σ) (stream : StreamId) (item : Nat × Query) : Prop :=
  (item.2.stream = stream → item ∈ session.waitingFor stream) ∧
    (item.2.stream ≠ stream → item.1 ∉ session.ticketsFor stream)

/-- Every query for a stream in the queue has its parameter, and its filter is not
started. -/
def Idles (session : Session σ) (stream : StreamId) : Prop :=
  ∀ item ∈ session.waitingFor stream, ∃ entry parameter,
    session.tree.locate item.2.stream item.2.filter item.2.parameter = .ok (entry, parameter) ∧
      ¬ entry.started = true

/-- A session has of a stream what an earlier one had, apart from the queue, in which it has
some queries for the stream.  Meanwhile no callback has been handed a value of a parameter
of the stream. -/
structure Apart (stream : StreamId) (origin : Session σ) (queries : List (Nat × Query))
    (session : Session σ) : Prop where
  /-- The filters and parameters of the stream. -/
  branch : session.tree.streams.find? stream = origin.tree.streams.find? stream
  /-- The queries for it. -/
  waiting : session.waitingFor stream = queries
  /-- No other query that waits has a ticket of theirs. -/
  others : ∀ item ∈ session.waiting, item.2.stream ≠ stream → item.1 ∉ origin.ticketsFor stream
  /-- Nobody has claimed one. -/
  unclaimed : ∀ ticket ∈ origin.ticketsFor stream, ticket ∉ session.claimed
  /-- No further query is given one. -/
  early : ∀ ticket ∈ origin.ticketsFor stream, ticket < session.nextTicket
  /-- What has been written. -/
  silent : ∃ entries, session.journal.toList = origin.journal.toList ++ entries ∧
    ∀ entry ∈ entries, entry.servedStream? ≠ some stream

namespace Apart

variable {stream home : StreamId} {origin session : Session σ} {queries : List (Nat × Query)}

theorem push (apart : Apart stream origin queries session) {entry : Entry}
    (away : entry.servedStream? ≠ some stream) :
    Apart stream origin queries { session with journal := session.journal.push entry } := by
  obtain ⟨entries, written, all⟩ := apart.silent
  refine { apart with silent := ⟨entries ++ [entry], ?_, ?_⟩ }
  · rw [Array.toList_push, written, List.append_assoc]
  · rw [List.forall_mem_append, List.forall_mem_singleton]
    exact ⟨all, away⟩

theorem note (apart : Apart stream origin queries session) {entry : Entry}
    (silent : entry.servedStream? = none) :
    Apart stream origin queries { session with journal := session.journal.push entry } :=
  apart.push (by rw [silent]; nofun)

/-- A change of another stream in the tree. -/
theorem plant (apart : Apart stream origin queries session) {tree : ParameterTree}
    (same : session.tree.SameBut home tree) (away : stream ≠ home) :
    Apart stream origin queries
      { session with tree, journal := session.journal.push (.grown tree) } :=
  have grown : Apart stream origin queries
      { session with journal := session.journal.push (.grown tree) } := apart.note rfl
  { grown with branch := (same stream away).trans apart.branch }

theorem pliant (stream : StreamId) (origin : Session σ) (queries : List (Nat × Query)) :
    Pliant (Apart stream origin queries) where
  memory _ apart := { apart with }
  remark remark apart := apart.note (Entry.servedStream?_of_isRemark remark)
  tally _ apart := { apart with }
  channel _ apart := { apart with }

/-! ## Requests about another stream -/

section Requests

variable {refusal panic : Prop} {callees : Callees σ}
  (callbacks : ∀ reference delivery,
    Keeps (Apart stream origin queries) False True (callees.callback reference delivery))

theorem claim (apart : Apart stream origin queries session) {ticket : Nat}
    (foreign : ticket ∉ origin.ticketsFor stream) :
    Apart stream origin queries { session with claimed := ticket :: session.claimed } := by
  refine { apart with unclaimed := fun other member => ?_ }
  rw [List.mem_cons, not_or]
  exact ⟨fun same => foreign (same ▸ member), apart.unclaimed other member⟩

theorem keeps_claim {ticket : Nat} (foreign : ticket ∉ origin.ticketsFor stream) :
    Keeps (Apart stream origin queries) refusal panic (Session.claim ticket) := by
  refine keeps_get.bind fun session => ?_
  split
  · exact keeps_pure false
  · exact (keeps_modify fun session apart => apart.claim foreign).bind fun _ => keeps_pure true

include callbacks

theorem keeps_dispatch {cause : Cause} {callback : Callback} {delivery : Delivery}
    (away : delivery.stream ≠ stream) :
    Keeps (Apart stream origin queries) refusal panic (dispatch callees cause callback delivery) := by
  refine (pliant stream origin queries).keeps_dispatch_of (callbacks _ _) fun entry session about apart =>
    apart.push ?_
  rcases about with rfl | ⟨exit, rfl⟩ | rfl
  · exact fun same => away (Option.some.inj same)
  · nofun
  · exact fun same => away (Option.some.inj same)

theorem keeps_recheck {ticket : Nat} {query : Query} (foreign : ticket ∉ origin.ticketsFor stream)
    (away : query.stream ≠ stream) :
    Keeps (Apart stream origin queries) refusal panic (recheck callees ticket query) := by
  refine keeps_get.bind fun session => ?_
  split
  · exact keeps_pure ()
  · split
    · refine (keeps_claim foreign).bind fun claimed => ?_
      split
      · exact (keeps_dispatch callbacks away).bind fun _ =>
          (pliant stream origin queries).keeps_log _ _
      · exact keeps_pure ()
    · exact keeps_pure ()

theorem keeps_defer {ticket : Nat} {query : Query} (foreign : ticket ∉ origin.ticketsFor stream)
    (away : query.stream ≠ stream) :
    Keeps (Apart stream origin queries) refusal panic (defer callees ticket query) := by
  have pliant := pliant stream origin queries
  refine keeps_get.bind fun session => ?_
  split
  · refine (keeps_modify fun session apart => ?_).bind fun _ => (pliant.keeps_log _ _).bind fun _ =>
      keeps_recheck callbacks foreign away
    refine { apart with waiting := ?_, others := ?_ }
    · rw [waitingFor, List.filter_append, List.filter_cons_of_neg (by simpa using away),
        List.filter_nil, List.append_nil]
      exact apart.waiting
    · rw [List.forall_mem_append, List.forall_mem_singleton]
      exact ⟨apart.others, fun _ => foreign⟩
  · exact pliant.keeps_log _ _

theorem keeps_query {query : Query} (away : query.stream ≠ stream) :
    Keeps (Apart stream origin queries) False True (Session.query callees query) := by
  have accepted {session : Session σ} (apart : Apart stream origin queries session) :
      Apart stream origin queries (session.accepting query) := by
    have noted : Apart stream origin queries
        { session with journal := (session.accepting query).journal } := (apart.note rfl).note rfl
    exact { noted with early := fun ticket member => Nat.lt_succ_of_lt (apart.early ticket member) }
  refine (pliant stream origin queries).keeps_query_of (fun apart _ _ => ?_) fun apart _ _ => ?_
  · exact (keeps_dispatch callbacks away).always (accepted apart)
  · exact (keeps_defer callbacks (fun member => Nat.lt_irrefl _ (apart.early _ member)) away).always
      (accepted apart)

theorem keeps_publish {target : StreamId} (away : stream ≠ target) (filter name : String)
    (value : Value) :
    Keeps (Apart stream origin queries) True panic (publish callees target filter name value) := by
  refine keeps_publish_of_keeps ?_ (fun _ => keeps_dispatch callbacks (Ne.symm away)) ?_
  · exact fun session _ tree stored apart =>
      (apart.plant (ParameterTree.sameBut_store stored) away).note rfl
  · exact fun _ session apart =>
      (apart.plant (ParameterTree.sameBut_unsubscribe _ _ _ _ _) away).note rfl

/-- A request about another stream. -/
theorem keeps_serve (setters : ∀ address reference requested current,
      Keeps (Apart stream origin queries) False True
        (callees.setter address reference requested current))
    (away : stream ≠ home) {request : Request} (within : request.isWithin home = true) :
    Keeps (Apart stream origin queries) False True (serve callees request) := by
  refine (pliant stream origin queries).toMild.keeps_serve setters (· = home) ?_ ?_ ?_ request
    fun target about => Request.eq_of_isWithin within about
  · rintro _ session tree rfl _ same apart
    exact apart.plant same away
  · rintro _ rfl
    exact keeps_publish callbacks away
  · rintro query rfl
    exact keeps_query callbacks (Ne.symm away)

end Requests

/-! ## User code -/

section UserCode

variable {code : UserCode σ} (within : code.Within home) (away : stream ≠ home)
include within away

theorem keeps_callback (reference : CodeRef) (delivery : Delivery) :
    Keeps (Apart stream origin queries) False True (code.callees.callback reference delivery) :=
  (code.callees_keep_asking (ι := Unit) (·.isWithin home = true)
    (fun _ _ _ apart => { apart with })
    (fun _ all _ _ within => keeps_serve (all ()).callback (all ()).setter away within)
    within.callbacks within.setters _ _ ()).callback reference delivery

/-- User code that stays on one stream leaves another apart. -/
theorem keeps_run {α : Type} {program : Program σ α}
    (asks : program.Asks (·.isWithin home = true)) :
    Keeps (Apart stream origin queries) False True (code.run program) :=
  code.run_keeps_asking (ι := Unit) (·.isWithin home = true) (fun _ _ _ apart => { apart with })
    (fun _ all _ _ within => keeps_serve (all ()).callback (all ()).setter away within)
    within.callbacks within.setters () asks

end UserCode

/-! ## Draining -/

theorem sorts (apart : Apart stream origin queries session)
    (among : queries ⊆ origin.waitingFor stream) :
    ∀ item ∈ session.waiting, origin.Sorts stream item := fun item member =>
  ⟨fun here => among (apart.waiting ▸ List.mem_filter.mpr ⟨member, decide_eq_true here⟩),
    apart.others item member⟩

theorem emptied (apart : Apart stream origin queries session) :
    Apart stream origin [] { session with waiting := [] } :=
  { apart with waiting := rfl, others := fun _ member => (List.not_mem_nil member).elim }

/-- Of some queries that are looked through, some are left.  All those for the stream
are. -/
structure Swept (stream : StreamId) (origin : Session σ) (queries items left : List (Nat × Query))
    (session : Session σ) : Prop where
  /-- The stream is left apart. -/
  apart : Apart stream origin queries session
  /-- Those for the stream, in order. -/
  own : left.filter (·.2.stream = stream) = items.filter (·.2.stream = stream)
  /-- Nothing else is left. -/
  among : left.Sublist items

theorem Swept.drop {items rest still : List (Nat × Query)} {item : Nat × Query}
    (swept : Swept stream origin queries items (still ++ item :: rest) session)
    (away : item.2.stream ≠ stream) {after : Session σ} (apart : Apart stream origin queries after) :
    Swept stream origin queries items (still ++ rest) after where
  apart := apart
  own := by
    rw [← swept.own, List.filter_append, List.filter_append,
      List.filter_cons_of_neg (by simpa using away)]
  among := ((List.sublist_cons_self item rest).append_left still).trans swept.among

section Drain

variable {callees : Callees σ}
  (callbacks : ∀ queries reference delivery,
    Keeps (Apart stream origin queries) False True (callees.callback reference delivery))
  (idle : origin.Idles stream)
include callbacks idle

theorem meets_sweep {items : List (Nat × Query)} (sorts : ∀ item ∈ items, origin.Sorts stream item)
    (apart : Apart stream origin queries session) :
    (sweep callees items).Meets session
      (fun result => Swept stream origin queries items result.1) (fun _ _ => False)
      (fun _ _ => False) := by
  have sorted : ∀ {item rest still} {session : Session σ},
      Swept stream origin queries items (still ++ item :: rest) session →
        origin.Sorts stream item := fun swept =>
    sorts _ (swept.among.subset (List.mem_append_right _ List.mem_cons_self))
  refine (meets_sweep_of (R := fun rest still _ => Swept stream origin queries items (still ++ rest))
    ?message ?answered ?vanished ?due ?early ⟨apart, rfl, .refl _⟩).imp fun result _ swept => ?through
  case message => exact fun _ _ swept => { swept with apart := swept.apart.note rfl }
  case answered =>
    intro ticket query rest still _ session claimed swept
    refine swept.drop (fun here => ?_) swept.apart
    exact swept.apart.unclaimed ticket (List.mem_map_of_mem ((sorted swept).1 here)) claimed
  case vanished =>
    intro ticket query rest still _ session fault located swept
    refine swept.drop (fun here => ?_) swept.apart
    obtain ⟨entry, parameter, found, _⟩ := idle _ ((sorted swept).1 here)
    rw [ParameterTree.locate_congr (here ▸ swept.apart.branch), found] at located
    cases located
  case due =>
    intro ticket query rest still _ session entry parameter _ located started swept
    have away : query.stream ≠ stream := fun here => by
      obtain ⟨entry, parameter, found, unmarked⟩ := idle _ ((sorted swept).1 here)
      rw [ParameterTree.locate_congr (here ▸ swept.apart.branch), found] at located
      cases located
      exact unmarked started
    have claimed := swept.apart.claim ((sorted swept).2 away)
    exact ((keeps_dispatch (callbacks queries) away).always claimed).imp fun _ _ apart =>
      swept.drop away apart
  case early =>
    intro ticket query rest still _ session entry parameter _ _ _ swept
    rw [List.append_assoc]
    exact swept
  case through =>
    rw [List.append_nil] at swept
    exact swept

/-- **A drain leaves the queries for another stream in the queue**, in their order. -/
theorem meets_drain (apart : Apart stream origin (origin.waitingFor stream) session) :
    (drain callees).Meets session (fun _ => Apart stream origin (origin.waitingFor stream))
      (fun _ _ => False) (fun _ _ => False) := by
  rw [meets_drain_iff]
  refine (meets_sweep callbacks idle (apart.sorts fun _ => id) apart.emptied).always
    fun first between swept => ?_
  refine (meets_sweep callbacks idle (swept.apart.sorts (List.nil_subset _))
    swept.apart.emptied).always fun second after swept' => ?_
  -- All of the stream's queries are among those that the first pass has kept.
  have joined : second.1.filter (·.2.stream = stream) = [] := swept'.own.trans swept.apart.waiting
  have left : after.waiting.filter (·.2.stream = stream) = [] := swept'.apart.waiting
  refine { swept'.apart with waiting := ?_, others := fun item member => ?_ }
  · rw [waitingFor, List.filter_append, List.filter_append, joined, left, swept.own,
      List.append_nil, List.append_nil]
    exact apart.waiting
  · rcases List.mem_append.mp member with early | late
    · rcases List.mem_append.mp early with early | late
      · exact apart.others item (swept.among.subset early)
      · exact swept.apart.others item (swept'.among.subset late)
    · exact swept'.apart.others item late

end Drain

end Apart

end Session

end StreamControl
