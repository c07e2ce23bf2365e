import StreamControl.Proofs.QueryFates
import StreamControl.Proofs.Queue

/-!
# How many queries are answered late

A query is answered late if it had waited: its callback is handed a value otherwise than
right after the query was accepted (`Entry.Late`).  `countLate` counts these answers among
entries that follow each other.

User code answers no query late (`Session.Counted.keeps_run`).  A drain does, and the number
that it gives is the number of queries that it has answered late (`Session.Counted.meets_drain`).
-/

set_option autoImplicit false

namespace StreamControl

namespace Entry

/-- Whether an entry, after another one if any, shows a callback that is handed a value for
a query that had waited. -/
def isLate (last? : Option Entry) (entry : Entry) : Bool :=
  entry.dispatched?.any fun shown => (last?.bind accepted?).all (·.1 ≠ shown.1)

variable {entry : Entry} {last? : Option Entry}

theorem isLate_iff {earlier : List Entry} :
    entry.isLate earlier.getLast? = true ↔ ∃ delivery, entry.Late earlier delivery := by
  simp only [isLate, Option.any_eq_true, Option.all_eq_true, decide_eq_true_eq]
  constructor
  · rintro ⟨⟨ticket, callback, delivery⟩, shown, apart⟩
    refine ⟨delivery, ticket, callback, shown, fun query last => ?_⟩
    rw [last] at apart
    exact apart (ticket, query) rfl rfl
  · rintro ⟨delivery, ticket, callback, shown, apart⟩
    refine ⟨_, shown, fun accepted last same => ?_⟩
    obtain ⟨found, there, accepts⟩ := Option.bind_eq_some_iff.mp last
    cases found with
    | accepted =>
      cases accepts
      obtain rfl : _ = ticket := same
      exact apart _ there
    | _ => cases accepts

theorem not_isLate (silent : entry.dispatched? = none) : entry.isLate last? = false := by
  rw [isLate, silent, Option.any_none]

/-- The answer that directly follows the acceptance of a query is not late. -/
theorem not_isLate_of_accepted {ticket : Nat} {query : Query} {callback : Callback}
    {delivery : Delivery} (shows : entry.dispatched? = some (ticket, callback, delivery)) :
    entry.isLate (some (.accepted ticket query)) = false := by
  rw [isLate, shows, Option.any_some]
  exact decide_eq_false (not_not_intro rfl)

theorem isLate_of_dispatched (apart : last?.bind accepted? = none)
    (shows : entry.dispatched?.isSome = true) : entry.isLate last? = true := by
  obtain ⟨shown, dispatches⟩ := Option.isSome_iff_exists.mp shows
  rw [isLate, dispatches, apart]
  rfl

end Entry

/-- How many entries are late answers, among some that follow another one if any. -/
def countLate (last? : Option Entry) : List Entry → Nat
  | [] => 0
  | entry :: rest => countLate (some entry) rest + (entry.isLate last?).toNat

theorem countLate_append (first second : List Entry) (last? : Option Entry) :
    countLate last? (first ++ second) =
      countLate last? first + countLate (first.getLast?.or last?) second := by
  induction first generalizing last? with
  | nil => exact (Nat.zero_add _).symm
  | cons entry rest ih =>
    have last : (entry :: rest).getLast?.or last? = rest.getLast?.or (some entry) := by
      cases rest <;> simp [List.getLast?_cons]
    rw [List.cons_append, countLate, countLate, ih, last, Nat.add_right_comm]

theorem countLate_concat (entries : List Entry) (entry : Entry) :
    countLate none (entries ++ [entry]) =
      countLate none entries + (entry.isLate entries.getLast?).toNat := by
  rw [countLate_append, Option.or_none, countLate, countLate, Nat.zero_add]

namespace Session

open StreamControl.Action

variable {σ α : Type}

/-- Since the entries `prior` some number of queries have been answered late, and the last
entry does not show that a query was accepted. -/
def Counted (prior : List Entry) (count : Nat) (session : Session σ) : Prop :=
  ∃ entries, session.journal.toList = prior ++ entries ∧ countLate none entries = count ∧
    entries.getLast?.bind Entry.accepted? = none

namespace Counted

variable {prior : List Entry} {count : Nat} {session : Session σ}

theorem refl (session : Session σ) : Counted session.journal.toList 0 session :=
  ⟨[], (List.append_nil _).symm, rfl, rfl⟩

/-- An entry more, which may be a late answer. -/
theorem answer (counted : Counted prior count session) {entry : Entry}
    (old : entry.accepted? = none) :
    Counted prior (count + (entry.dispatched?.isSome).toNat)
      { session with journal := session.journal.push entry } := by
  obtain ⟨entries, written, same, apart⟩ := counted
  refine ⟨entries ++ [entry], ?_, ?_, ?_⟩
  · rw [Array.toList_push, written, List.append_assoc]
  · rw [countLate_concat, same]
    cases shows : entry.dispatched?.isSome with
    | true => rw [Entry.isLate_of_dispatched apart shows]
    | false =>
      rw [Entry.not_isLate (Option.isNone_iff_eq_none.mp (Option.isSome_eq_false_iff.mp shows))]
  · rw [List.getLast?_concat]
    exact old

theorem push (counted : Counted prior count session) {entry : Entry}
    (old : entry.accepted? = none) (silent : entry.dispatched? = none) :
    Counted prior count { session with journal := session.journal.push entry } := by
  have more := counted.answer old
  rwa [silent] at more

/-- What directly follows the acceptance of a query. -/
theorem accepting (counted : Counted prior count session) {query : Query} {entry : Entry}
    (old : entry.accepted? = none)
    (prompt : entry.isLate (some (.accepted session.nextTicket query)) = false) :
    Counted prior count { session.accepting query with
      journal := (session.accepting query).journal.push entry } := by
  have noted : Counted prior count { session with
      journal := session.journal.push (.counted .queriesAccepted query.filter query.parameter) } :=
    counted.push rfl rfl
  obtain ⟨entries, written, same, apart⟩ := noted
  refine ⟨entries ++ [.accepted session.nextTicket query] ++ [entry], ?_, ?_, ?_⟩
  · rw [Array.toList_push, Session.accepting, Array.toList_push, written, List.append_assoc,
      List.append_assoc, List.append_assoc]
  · rw [countLate_concat, countLate_concat, same, List.getLast?_concat, prompt,
      Entry.not_isLate rfl]
    rfl
  · rw [List.getLast?_concat]
    exact old

theorem robust (prior : List Entry) (count : Nat) :
    Robust (Counted prior count : Session σ → Prop) where
  record plain counted :=
    have silent := Ledger.silent_of_isPlain plain
    counted.push silent.1 silent.2.1
  memory _ counted := counted
  tally _ counted := counted
  channel _ counted := counted
  edit _ counted := counted.push rfl rfl

theorem keeps_query {callees : Callees σ}
    (callbacks : ∀ reference delivery,
      Keeps (Counted prior count) False True (callees.callback reference delivery))
    (query : Query) : Keeps (Counted prior count) False True (Session.query callees query) := by
  refine (robust prior count).toPliant.keeps_query_of (fun counted _ _ => ?_)
    fun {session entry parameter} counted located idle => ?_
  · exact (robust prior count).meets_dispatch (callbacks _ _)
      (counted.accepting rfl (Entry.not_isLate_of_accepted rfl))
      (counted.accepting rfl (Entry.not_isLate_of_accepted rfl)) fun _ _ counted =>
        counted.push rfl rfl
  · have there : (session.accepting query).tree.locate query.stream query.filter query.parameter =
        .ok (entry, parameter) := located
    exact meets_defer_idle there idle (fun _ => counted.accepting rfl (Entry.not_isLate rfl))
      fun _ => counted.accepting rfl (Entry.not_isLate rfl)

/-- User code answers no query late. -/
theorem keeps_callback (code : UserCode σ) (prior : List Entry) (count : Nat)
    (reference : CodeRef) (delivery : Delivery) :
    Keeps (Counted prior count) False True (code.callees.callback reference delivery) :=
  (code.callees_keep (robust prior count) (fun _ => keeps_query) _ _).callback _ _

theorem keeps_run (code : UserCode σ) (prior : List Entry) (count : Nat) (program : Program σ α) :
    Keeps (Counted prior count) False True (code.run program) :=
  code.run_keeps (robust prior count) (fun _ => keeps_query) program

/-! ## Draining -/

/-- A pass over some queries gives the number of those that it has answered. -/
theorem meets_sweep (code : UserCode σ) (queries : List (Nat × Query))
    (counted : Counted prior count session) :
    (sweep code.callees queries).Meets session (fun result => Counted prior (count + result.2))
      (fun _ _ => False) (fun _ _ => False) := by
  refine meets_sweep_of (R := fun _ _ answered => Counted prior (count + answered)) ?message
    (fun _ counted => counted) (fun _ counted => counted) ?due (fun _ _ _ counted => counted) counted
  case message => exact fun _ _ counted => counted.push rfl rfl
  case due =>
    intro ticket query rest still answered session entry parameter _ _ _ counted
    have claimed : Counted prior (count + answered)
        { session with claimed := ticket :: session.claimed } := counted
    exact (robust prior (count + answered + 1)).meets_dispatch (keeps_callback code _ _ _ _)
      (claimed.answer rfl) (claimed.answer rfl) fun _ _ counted => counted.push rfl rfl

/-- **A drain gives the number of queries that it has answered late.** -/
theorem meets_drain (code : UserCode σ) (counted : Counted prior count session) :
    (drain code.callees).Meets session (fun answered => Counted prior (count + answered))
      (fun _ _ => False) (fun _ _ => False) := by
  rw [meets_drain_iff]
  have emptied : Counted prior count { session with waiting := [] } := counted
  refine (emptied.meets_sweep code session.waiting).imp fun first between counted => ?_
  have emptied : Counted prior (count + first.2) { between with waiting := [] } := counted
  refine (emptied.meets_sweep code between.waiting).imp fun second after counted => ?_
  rw [Nat.add_assoc] at counted
  exact counted

end Counted

end Session

/-! ## Hosts -/

namespace Host

open StreamControl.Action Session

variable {σ : Type}

/-- Apart from drains a host answers no query late. -/
theorem survives_counted (code : UserCode σ) (prior : List Entry) (count : Nat) {deed : Deed}
    (undrained : deed ≠ .drain) :
    Survives code (fun host : Host σ => Counted prior count host.session) deed := by
  intro before after does counted
  cases does with
  | stir before after session =>
    rw [session]
    exact counted
  | write _ ofHost =>
    have silent := Ledger.silent_of_isOfHost ofHost
    exact counted.push silent.1 silent.2.1
  | fail =>
    exact failing_of (fun _ _ counted => counted) (fun _ _ _ _ counted => counted.push rfl rfl)
      (fun _ _ _ counted => counted.push rfl rfl) (fun _ counted => counted.push rfl rfl) counted
  | run _ program _ ends | outside _ program ends =>
    exact (Counted.keeps_run code prior count program).of_ne_exhausted counted ends
  | drain => exact absurd rfl undrained
  | attach | enroll | mark | settle | announce | forget | join | leave =>
    exact counted.push rfl rfl
  | send | skip | shutDown | discard | close => exact counted

theorem patient_counted (code : UserCode σ) (prior : List Entry) (count : Nat) :
    Patient code (fun host : Host σ => Counted prior count host.session) :=
  ⟨⟨survives_counted code prior count nofun, survives_counted code prior count nofun,
    survives_counted code prior count nofun⟩, survives_counted code prior count nofun⟩

/-- **A start reports the number of queries that it has answered late.** -/
theorem yields_startIdle_answered (code : UserCode σ) (stream : StreamId) (graph : FilterGraph)
    (host : Host σ) :
    (startIdle code stream graph).Yields host fun report after =>
      Counted host.session.journal.toList report.answered after.session := by
  have patient := patient_counted code host.session.journal.toList
  rw [startIdle_eq, yields_bind, yields_get, yields_bind]
  have opening := (patient 0).stepping.keeps_openStart
    (survives_counted code _ 0 (nofun : Deed.mark stream true ≠ .drain)) graph host
  refine (opening.yields (Counted.refl host.session)).imp fun opened between counted => ?_
  dsimp only
  rw [yields_bind, onSession, yields_within]
  refine (Counted.meets_drain code counted).yields.imp fun answered session counted => ?_
  rw [Nat.zero_add] at counted
  rw [yields_bind]
  have closing : Keeps _ True False _ :=
    (patient answered).stepping.keeps_closeStart stream host.controllers opened.2
  exact (closing.yields counted).imp fun _ _ counted => counted

end Host

end StreamControl
