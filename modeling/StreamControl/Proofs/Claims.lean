import StreamControl.Proofs.Ledger

/-!
# Claiming a query

A query that waits can be answered in two places: by a drain, and by the one who
let it wait and looks at its filter once more, in case it has been started in the
meantime (`Session.recheck`).  Each of them claims the query first, and gives way
if somebody else has.

As long as one step is made after the other, nothing is started between the two
looks, and the second look finds the filter idle again (`meets_defer_idle`).  So what
it is there for does not show in any run.  It is therefore described by itself, from
a session to which anything may have happened since the query was accepted
(`meets_recheck`): either the query is claimed, and its callback is handed the
value that the parameter has then, or the session is left exactly as it is.

For a query that has been claimed nobody hands out a value any more, neither user
code (`Claimed.keeps_run`) nor a drain (`Claimed.keeps_drain`).  So if the second
look answers, the query is answered once, although it is still in the queue
(`answered_once`).
-/

set_option autoImplicit false

namespace StreamControl.Session

open StreamControl.Action

variable {σ : Type} {callees : Callees σ} {ticket count : Nat} {query : Query}
  {session : Session σ}

/-! ## The first entry -/

/-- The first entry that is written when a value is handed to a callback. -/
def handing (cause : Cause) (callback : Callback) (delivery : Delivery) : Entry :=
  if callback.isWellFormed then .entered (.callback cause callback delivery)
  else .skipped cause callback delivery

theorem dispatched?_handing (ticket : Nat) (callback : Callback) (delivery : Delivery) :
    (handing (.query ticket) callback delivery).dispatched? =
      some (ticket, callback, delivery) := by
  unfold handing
  split <;> rfl

/-- Handing a value to a callback keeps what holds from the first entry on. -/
theorem Pliant.meets_dispatch_handing {P : Session σ → Prop} (pliant : Pliant P) {cause : Cause}
    {callback : Callback} {delivery : Delivery}
    (inside : Keeps P False True (callees.callback callback.code delivery))
    (first : P { session with
      journal := session.journal.push (handing cause callback delivery) })
    (leave : ∀ (exit : Exit) (session : Session σ), P session → P { session with
      journal := session.journal.push (.left (.callback cause callback delivery) exit) }) :
    (dispatch callees cause callback delivery).Meets session (fun _ => P) (fun _ _ => False)
      (fun _ _ => False) := by
  refine meets_dispatch_of inside (fun fits => ?_) (fun malformed => ?_) (fun _ => leave _)
    (leave _) fun _ => pliant
  · rwa [handing, if_pos fits] at first
  · rwa [handing, malformed, if_neg Bool.false_ne_true] at first

/-! ## Claimed queries -/

/-- A query has been claimed, and so far its callback has been handed a value so
many times. -/
structure Claimed (ticket count : Nat) (session : Session σ) : Prop where
  /-- Its ticket has been given out. -/
  issued : ticket < session.nextTicket
  /-- Its ticket is among those that have been claimed. -/
  claimed : ticket ∈ session.claimed
  /-- Its callback has been handed a value so many times. -/
  handed : session.journal.dispatched.count ticket = count

namespace Claimed

theorem push (claimed : Claimed ticket count session) {entry : Entry}
    (foreign : ∀ shown, entry.dispatched? = some shown → shown.1 ≠ ticket) :
    Claimed ticket count { session with journal := session.journal.push entry } := by
  refine ⟨claimed.issued, claimed.claimed, ?_⟩
  rw [Journal.dispatched_push, List.count_append, claimed.handed]
  cases shown : entry.dispatched? with
  | none => rfl
  | some found => simp [foreign found shown]

theorem push_of_none (claimed : Claimed ticket count session) {entry : Entry}
    (quiet : entry.dispatched? = none) :
    Claimed ticket count { session with journal := session.journal.push entry } :=
  claimed.push fun _ shown => nomatch quiet.symm.trans shown

theorem robust (ticket count : Nat) : Robust (Claimed ticket count : Session σ → Prop) where
  record plain claimed := claimed.push_of_none (Ledger.silent_of_isPlain plain).2.1
  memory _ claimed := ⟨claimed.issued, claimed.claimed, claimed.handed⟩
  tally _ claimed := ⟨claimed.issued, claimed.claimed, claimed.handed⟩
  channel _ claimed := ⟨claimed.issued, claimed.claimed, claimed.handed⟩
  edit _ claimed :=
    have grown := claimed.push_of_none rfl
    ⟨grown.issued, grown.claimed, grown.handed⟩

section Callbacks

variable (callbacks : ∀ reference delivery,
  Keeps (Claimed ticket count) False True (callees.callback reference delivery))
include callbacks

/-- Other queries may be answered. -/
theorem keeps_answer {other : Nat} (ne : other ≠ ticket) (callback : Callback)
    (delivery : Delivery) {refusal panic : Prop} :
    Keeps (Claimed ticket count) refusal panic
      (dispatch callees (.query other) callback delivery) := by
  refine (robust ticket count).keeps_dispatch_of (callbacks _ _) fun entry session about claimed =>
    claimed.push fun shown shows => ?_
  rcases about with rfl | ⟨exit, rfl⟩ | rfl <;> cases shows
  all_goals exact ne

omit callbacks in
/-- Other queries may wait. -/
theorem meets_defer {other : Nat} (claimed : Claimed ticket count session) {entry : FilterEntry}
    {parameter : Parameter}
    (located : session.tree.locate query.stream query.filter query.parameter =
      .ok (entry, parameter)) (idle : ¬ entry.started = true) :
    (defer callees other query).Meets session (fun _ => Claimed ticket count) (fun _ _ => False)
      (fun _ _ => False) := by
  have queued : Claimed ticket count
      { session with waiting := session.waiting ++ [(other, query)] } :=
    ⟨claimed.issued, claimed.claimed, claimed.handed⟩
  exact meets_defer_idle located idle (fun _ => queued.push_of_none rfl)
    fun _ => claimed.push_of_none rfl

/-- New queries have tickets of their own. -/
theorem keeps_query (query : Query) :
    Keeps (Claimed ticket count) False True (Session.query callees query) := by
  have accepted {session : Session σ} (claimed : Claimed ticket count session) :
      Claimed ticket count (session.accepting query) := by
    refine ⟨Nat.lt_succ_of_lt claimed.issued, claimed.claimed, ?_⟩
    rw [accepting, Journal.dispatched_push_of_none rfl, Journal.dispatched_push_of_none rfl]
    exact claimed.handed
  refine (robust ticket count).toPliant.keeps_query_of (fun claimed _ _ => ?_)
    fun claimed located idle => ?_
  · exact (keeps_answer callbacks (Nat.ne_of_gt claimed.issued) _ _).always (accepted claimed)
  · exact meets_defer (accepted claimed) located idle

/-- Whoever looks through queries passes over those that have been claimed. -/
theorem meets_sweep {queries : List (Nat × Query)} (claimed : Claimed ticket count session) :
    (sweep callees queries).Meets session (fun _ => Claimed ticket count) (fun _ _ => False)
      (fun _ _ => False) := by
  refine meets_sweep_of (R := fun _ _ _ => Claimed ticket count) ?message ?answered ?vanished ?due
    ?early claimed
  case message => exact fun _ _ claimed => claimed.push_of_none rfl
  case answered => exact fun _ claimed => claimed
  case vanished => exact fun _ claimed => claimed
  case due =>
    intro other query rest still answered session entry parameter free _ _ claimed
    have ne : other ≠ ticket := fun same => free (same ▸ claimed.claimed)
    refine (keeps_answer callbacks ne _ _).always ?_
    exact ⟨claimed.issued, List.mem_cons_of_mem _ claimed.claimed, claimed.handed⟩
  case early => exact fun _ _ _ claimed => claimed

end Callbacks

theorem callees_keep (ticket count : Nat) (code : UserCode σ) (depth : Nat) (busy : List Address) :
    (code.calleesTo depth busy).All (Keeps (Claimed ticket count) False True) :=
  code.callees_keep (robust ticket count) (fun _ => keeps_query) depth busy

/-- **User code does not answer a query that has been claimed.** -/
theorem keeps_run (code : UserCode σ) {α : Type} (program : Program σ α) :
    Keeps (Claimed ticket count) False True (code.run program) :=
  code.run_keeps (robust ticket count) (fun _ => keeps_query) program

/-- **A drain does not answer a query that has been claimed.** -/
theorem keeps_drain (code : UserCode σ) :
    Keeps (Claimed ticket count) False False (drain code.callees) := by
  have callbacks := (callees_keep ticket count code code.nesting []).callback
  have emptied {session : Session σ} (claimed : Claimed ticket count session)
      (waiting : List (Nat × Query)) : Claimed ticket count { session with waiting } :=
    ⟨claimed.issued, claimed.claimed, claimed.handed⟩
  intro session claimed
  rw [meets_drain_iff]
  refine (meets_sweep callbacks (emptied claimed [])).always fun first between claimed => ?_
  refine (meets_sweep callbacks (emptied claimed [])).always fun second after claimed => ?_
  exact emptied claimed _

end Claimed

/-! ## Looking again -/

/-- What comes of looking at the filter of a query once more. -/
inductive Rechecked (ticket : Nat) (query : Query) (before after : Session σ) : Prop where
  /-- The filter has been started, and nobody has claimed the query.  It has been
  claimed, and the first thing written is that its callback is handed the value of
  the parameter. -/
  | answered {entry : FilterEntry} {parameter : Parameter} {later : List Entry}
      (located : before.tree.locate query.stream query.filter query.parameter =
        .ok (entry, parameter))
      (started : entry.started = true) (free : ticket ∉ before.claimed)
      (written : after.journal.toList = before.journal.toList ++
        handing (.query ticket) query.callback (query.delivery parameter.value) :: (later ++
          [.message .trace "filter started during enqueue; query resolved"]))
      (inner : ∀ entry ∈ later, entry.isInner = true)
      (claimed : Claimed ticket (before.journal.dispatched.count ticket + 1) after)
  /-- Otherwise nothing happens. -/
  | left (otherwise : ∀ entry parameter,
        before.tree.locate query.stream query.filter query.parameter = .ok (entry, parameter) →
          entry.started = true → ticket ∈ before.claimed)
      (same : after = before)

section Recheck

variable (code : UserCode σ) (depth : Nat) (busy : List Address)

/-- Whoever has claimed a query hands its callback the value, once. -/
theorem Claimed.meets_dispatch (issued : ticket < session.nextTicket) (delivery : Delivery) :
    (dispatch (code.calleesTo depth busy) (.query ticket) query.callback delivery).Meets
      { session with claimed := ticket :: session.claimed }
      (fun _ after => Claimed ticket (session.journal.dispatched.count ticket + 1) after ∧
        Kept { session with
          journal := session.journal.push (handing (.query ticket) query.callback delivery) } after)
      (fun _ _ => False) (fun _ _ => False) := by
  let taken : Session σ := { session with claimed := ticket :: session.claimed }
  let first : Session σ := { session with
    journal := session.journal.push (handing (.query ticket) query.callback delivery) }
  have counted : (dispatch (code.calleesTo depth busy) (.query ticket) query.callback
      delivery).Meets taken (fun _ => Claimed ticket (session.journal.dispatched.count ticket + 1))
      (fun _ _ => False) (fun _ _ => False) := by
    refine (Claimed.robust _ _).meets_dispatch_handing
      ((Claimed.callees_keep _ _ code depth busy).callback _ _) ⟨issued, List.mem_cons_self, ?_⟩
      fun _ _ claimed => claimed.push_of_none rfl
    rw [Journal.dispatched_push, dispatched?_handing, List.count_append]
    exact congrArg _ List.count_singleton_self
  have framed : (dispatch (code.calleesTo depth busy) (.query ticket) query.callback
      delivery).Meets taken (fun _ => Kept first) (fun _ _ => False) (fun _ _ => False) :=
    (kept_lax first).meets_dispatch_handing
      (((kept_lax first).callees_keep code depth busy).callback _ _)
      ((kept_lax first).queue _ _ _ (.refl first)) fun _ _ kept => kept.push rfl
  exact (counted.and framed).mono (fun _ _ both => both) (fun _ _ both => both.1)
    fun _ _ both => both.1

/-- **What looking at the filter of a query once more comes to.** -/
theorem meets_recheck (issued : ticket < session.nextTicket) :
    (recheck (code.calleesTo depth busy) ticket query).Meets session
      (fun _ after => Rechecked ticket query session after) (fun _ _ => False)
      (fun _ _ => False) := by
  rw [recheck, meets_bind, meets_get]
  cases located : session.tree.locate query.stream query.filter query.parameter with
  | error fault =>
    refine .left (fun _ _ found => ?_) rfl
    rw [located] at found
    cases found
  | ok found =>
    obtain ⟨entry, parameter⟩ := found
    dsimp only
    split
    · rename_i started
      rw [meets_bind, claim, meets_bind, meets_get]
      split
      · rename_i taken
        exact .left (fun _ _ _ _ => taken) rfl
      · rename_i free
        rw [meets_bind, meets_modify, meets_pure, if_pos rfl, meets_bind]
        refine (Claimed.meets_dispatch code depth busy issued _).imp fun _ between handed => ?_
        obtain ⟨claimed, ⟨later, written, inner⟩, -, -⟩ := handed
        rw [Session.log, Session.record, meets_modify]
        refine .answered located started free ?_ inner (claimed.push_of_none rfl)
        rw [Array.toList_push, written, Array.toList_push, List.append_assoc, List.append_assoc]
        rfl
    · rename_i idle
      refine .left (fun other _ found started => ?_) rfl
      rw [located] at found
      cases found
      exact absurd started idle

/-- **A query is answered once**, if the second look answers it, although it is in the
queue when that is looked through. -/
theorem answered_once {entry : FilterEntry} {parameter : Parameter}
    (issued : ticket < session.nextTicket) (unanswered : ticket ∉ session.journal.dispatched)
    (free : ticket ∉ session.claimed)
    (located : session.tree.locate query.stream query.filter query.parameter =
      .ok (entry, parameter)) (started : entry.started = true) :
    (recheck code.callees ticket query >>= fun _ => drain code.callees).Meets session
      (fun _ after => after.journal.dispatched.count ticket = 1) (fun _ _ => False)
      (fun _ _ => False) := by
  rw [meets_bind]
  refine (meets_recheck code code.nesting [] issued).imp fun _ between rechecked => ?_
  cases rechecked with
  | answered _ _ _ _ _ claimed =>
    rw [List.count_eq_zero_of_not_mem unanswered] at claimed
    exact ((Claimed.keeps_drain code).always claimed).imp fun _ _ claimed => claimed.handed
  | left otherwise same => exact absurd (otherwise entry parameter located started) free

end Recheck

end StreamControl.Session
