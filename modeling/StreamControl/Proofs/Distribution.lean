import StreamControl.Proofs.Pushes

/-!
# Who is told of the values that are pushed

A journal is bracketed if every push that begins is through, and hands its value meanwhile to
the subscriptions that were there when it began (`Journal.Bracketed`).  Pushes that begin
while another is under way are through before it, so that the definition follows the
brackets: outside of pushes entries follow one after the other, and a push adds its
beginning, a bracketed stretch, and its end.

`Host.History.bracketed` is the result: the journal of every history is bracketed, so that
each push in it may be taken out and looked at (`Journal.Bracketed.through`).
-/

set_option autoImplicit false

namespace StreamControl

namespace Entry

/-- Whether a push begins with an entry, or ends with it. -/
def isBracket : Entry → Bool
  | pushing .. | pushed .. => true
  | _ => false

theorem not_isBracket_of_isRemark {entry : Entry} (remark : entry.isRemark = true) :
    entry.isBracket = false := by
  cases entry <;> first | rfl | cases remark

theorem not_isBracket_of_isOfQuery {entry : Entry} (ofQuery : entry.isOfQuery = true) :
    entry.isBracket = false := by
  cases entry <;> first | rfl | cases ofQuery

theorem not_isBracket_of_isOfHost {entry : Entry} (ofHost : entry.isOfHost = true) :
    entry.isBracket = false := by
  cases entry <;> first | rfl | cases ofHost

end Entry

namespace Journal

/-! ## Bracketed journals -/

variable {earlier entries opening body rest : List Entry} {address : Address} {value : Value}
  {results : List (Subscription × DispatchOutcome)}

/-- Between its beginning and its end a push has handed its value to the subscriptions that
were there when it began, with these results. -/
structure Distributed (opening : List Entry) (address : Address) (value : Value)
    (results : List (Subscription × DispatchOutcome)) (body : List Entry) : Prop where
  /-- The value has been stored. -/
  stored : ∃ parameter, (treeAfter opening).parameter? address = some parameter ∧
    parameter.value = value
  /-- The subscriptions of that moment take their turns, in their order. -/
  subscribers : results.map Prod.fst = (treeAfter opening).subscriptionsAt address
  /-- Callbacks that take other inputs are left out, and no others. -/
  allowed : ∀ result ∈ results, Session.Allows result.1.callback result.2
  /-- These turns are all. -/
  turns : ownTurns body = results.flatMap (address.turn value)

/-- After some entries there have been others, in which every push that has begun has handed
its value on and is through. -/
inductive Bracketed : List Entry → List Entry → Prop where
  /-- Nothing has happened. -/
  | nil (earlier : List Entry) : Bracketed earlier []
  /-- Something happens that is not the beginning or the end of a push. -/
  | concat {earlier entries : List Entry} (bracketed : Bracketed earlier entries) {entry : Entry}
      (still : entry.isBracket = false) : Bracketed earlier (entries ++ [entry])
  /-- A push begins, hands its value on, and is through. -/
  | push {earlier entries body : List Entry} (bracketed : Bracketed earlier entries)
      {address : Address} {value : Value} {results : List (Subscription × DispatchOutcome)}
      (inside : Bracketed (earlier ++ entries ++
        [.pushing address.stream address.filter address.name]) body)
      (distributed : Distributed (earlier ++ entries) address value results body) :
      Bracketed earlier (entries ++ .pushing address.stream address.filter address.name :: body ++
        [.pushed address.stream address.filter address.name])

/-- A push among some entries, from its beginning on. -/
structure Through (opening : List Entry) (address : Address) (value : Value)
    (results : List (Subscription × DispatchOutcome)) (body closing rest : List Entry) :
    Prop where
  /-- The push ends. -/
  ends : rest = body ++ .pushed address.stream address.filter address.name :: closing
  /-- Every push that begins meanwhile ends before. -/
  bracketed : Bracketed (opening ++ [.pushing address.stream address.filter address.name]) body
  /-- The value is handed on meanwhile. -/
  distributed : Distributed opening address value results body

theorem Through.append {closing : List Entry}
    (through : Through opening address value results body closing rest) (more : List Entry) :
    Through opening address value results body (closing ++ more) (rest ++ more) where
  ends := by rw [through.ends, List.append_assoc, List.cons_append]
  bracketed := through.bracketed
  distributed := through.distributed

/-- **Every push in a bracketed journal is through.** -/
theorem Bracketed.through (bracketed : Bracketed earlier entries)
    (split : entries = opening ++ .pushing address.stream address.filter address.name :: rest) :
    ∃ value results body closing,
      Through (earlier ++ opening) address value results body closing rest := by
  induction bracketed generalizing opening rest with
  | nil => cases opening <;> cases split
  | @concat _ entries _ entry still ih =>
    -- The last entry is after the beginning of the push, for it does not begin one.
    rcases eq_last_or_before split with ⟨-, rfl, -⟩ | ⟨rest, same, rfl⟩
    · cases still
    · obtain ⟨value, results, body, closing, through⟩ := ih same
      exact ⟨value, results, body, _, through.append [entry]⟩
  | @push earlier entries body _ other value results inside distributed before within =>
    rcases eq_last_or_before split with ⟨-, ends, -⟩ | ⟨rest, same, rfl⟩
    · cases ends
    rcases eq_or_before_or_after same with ⟨rfl, begins, rfl⟩ | ⟨more, rfl, rfl⟩ | ⟨more, rfl, rfl⟩
    · -- It is the push itself.
      obtain ⟨stream, filter, name⟩ := Entry.pushing.inj begins
      cases Address.eq_of_parts stream filter name
      exact ⟨value, results, body, [], rfl, inside, distributed⟩
    · -- It begins while the push is under way.
      obtain ⟨value, results, body, closing, through⟩ := within rfl
      rw [List.append_assoc, List.append_assoc, List.singleton_append] at through
      exact ⟨value, results, body, _, through.append [_]⟩
    · -- It was through before.
      obtain ⟨value, results, body', closing, through⟩ := before rfl
      rw [List.append_assoc]
      exact ⟨value, results, body', _, through.append _⟩

end Journal

namespace Session

open StreamControl.Action Journal

variable {σ : Type}

/-! ## User code -/

/-- After some entries, the journal has gone on bracketed. -/
def Proceeds (earlier : List Entry) (session : Session σ) : Prop :=
  ∃ entries, session.journal.toList = earlier ++ entries ∧ Bracketed earlier entries

namespace Proceeds

variable {earlier : List Entry} {session left : Session σ} {address : Address} {value : Value}
  {stored : ParameterTree} {results : List (Subscription × DispatchOutcome)}

theorem now (session : Session σ) : Proceeds session.journal.toList session :=
  ⟨[], (List.append_nil _).symm, .nil _⟩

theorem note (proceeds : Proceeds earlier session) {entry : Entry}
    (still : entry.isBracket = false) :
    Proceeds earlier { session with journal := session.journal.push entry } := by
  obtain ⟨entries, journal, bracketed⟩ := proceeds
  exact ⟨entries ++ [entry], by rw [Array.toList_push, journal, List.append_assoc],
    bracketed.concat still⟩

theorem slack (earlier : List Entry) : Slack (Proceeds earlier : Session σ → Prop) where
  remark isRemark proceeds := proceeds.note (Entry.not_isBracket_of_isRemark isRemark)
  memory _ proceeds := proceeds
  tally _ proceeds := proceeds
  channel _ proceeds := proceeds
  add _ proceeds := proceeds.note rfl
  recordQuery ofQuery proceeds := proceeds.note (Entry.not_isBracket_of_isOfQuery ofQuery)
  queue _ _ _ proceeds := proceeds

/-- A push is one stretch more, if all turns have been taken meanwhile. -/
theorem push (proceeds : Proceeds earlier session)
    (stores : session.tree.store address.stream address.filter address.name value =
      .ok (results.map Prod.fst, stored))
    (allowed : ∀ result ∈ results, Allows result.1.callback result.2)
    (within : Within (session.beginPush address stored)
      (0, results.flatMap (address.turn value)) left)
    (meanwhile : Proceeds (session.beginPush address stored).journal.toList left)
    (finished : List Nat) : Proceeds earlier (left.endPush address finished) := by
  obtain ⟨entries, journal, bracketed⟩ := proceeds
  obtain ⟨body, shown, inside⟩ := meanwhile
  obtain ⟨_, same, turns, _⟩ := within.written
  cases List.append_cancel_left (same.symm.trans shown)
  have begun : (session.beginPush address stored).journal.toList = earlier ++
      (entries ++ [.grown stored]) ++ [.pushing address.stream address.filter address.name] := by
    rw [beginPush, Array.toList_push, Array.toList_push, journal, List.append_assoc earlier]
  have last : treeAfter (earlier ++ (entries ++ [.grown stored])) = stored := by
    rw [← List.append_assoc, treeAfter_concat]
    rfl
  obtain ⟨subscribers, _, found⟩ := ParameterTree.store_eq_ok address stores
  rw [begun] at inside
  generalize ends : Entry.grown (left.tree.unsubscribe address.stream address.filter address.name
    finished) = entry
  have still : entry.isBracket = false := ends ▸ rfl
  have distributed : Distributed (earlier ++ (entries ++ [.grown stored])) address value results
      (body ++ [entry]) := by
    refine { stored := ?value, subscribers := ?subscribers, allowed := allowed, turns := ?turns }
    case value =>
      obtain ⟨parameter, there, _⟩ := ParameterTree.fits_of_store address stores
      exact ⟨_, by rw [last, found, if_pos rfl, there, Option.map_some], rfl⟩
    case subscribers =>
      rw [last, ParameterTree.subscriptionsAt_store address stores, subscribers]
    case turns =>
      rw [ownTurns, List.foldl_append, turns, ← ends]
      simp [Entry.turnsFrom, Entry.isTurn]
  refine ⟨_, ?_, (bracketed.concat rfl).push (inside.concat still) distributed⟩
  rw [endPush, Array.toList_push, Array.toList_push, shown, begun, ends]
  simp only [List.append_assoc, List.cons_append, List.nil_append]

section Callees

variable (code : UserCode σ) {depth : Nat} {busy : List Address}
  (all : ∀ earlier : List Entry,
    (code.calleesTo depth busy).All (Keeps (Proceeds earlier) False True))
include all

theorem keeps_turn (earlier : List Entry) (cause : Cause) (callback : Callback)
    (delivery : Delivery) :
    Keeps (Proceeds earlier) False False
      (dispatch (code.calleesTo depth busy) cause callback delivery) := by
  refine (slack earlier).toPliant.keeps_dispatch_of ((all earlier).callback _ _) ?_
  rintro entry session (rfl | ⟨exit, rfl⟩ | rfl) proceeds <;> exact proceeds.note rfl

theorem keeps_publish (earlier : List Entry) (address : Address) (value : Value) :
    Keeps (Proceeds earlier) True True
      (publish (code.calleesTo depth busy) address.stream address.filter address.name value) := by
  intro session proceeds
  cases stores : session.tree.store address.stream address.filter address.name value with
  | error fault =>
    rw [publish, meets_bind, meets_changeTree, stores]
    exact ⟨trivial, proceeds⟩
  | ok result =>
    obtain ⟨subscribers, stored⟩ := result
    rw [meets_publish_iff stores]
    -- All that is known of the turns is known of one and the same run.
    refine ((meets_turns code depth busy subscribers (Within.refl _)).and
      (keeps_dispatchAll (fun _ => keeps_turn code all _ _ _ _) subscribers _
        (now _))).mono ?_
      (fun _ _ ends => ends.1.elim) fun _ _ ends => ends.1.elim
    rintro _ left ⟨⟨results, rfl, rfl, allowed, within⟩, meanwhile⟩
    exact proceeds.push stores allowed within meanwhile _

theorem keeps_serve (earlier : List Entry) (request : Request) :
    Keeps (Proceeds earlier) False True (serve (code.calleesTo depth busy) request) :=
  (slack earlier).toNimble.keeps_serve (all earlier).setter
    (fun stream filter name => keeps_publish code all earlier ⟨stream, filter, name⟩)
    ((slack earlier).keeps_query (all earlier).callback) request

theorem keeps_program {α : Type} (earlier : List Entry) (program : Program σ α) :
    Keeps (Proceeds earlier) False True (program.run (code.calleesTo depth busy)) :=
  (program.asks_of_forall fun _ => trivial).run_keeps _ (fun _ _ holds => holds)
    fun request _ => keeps_serve code all earlier request

end Callees

/-- What callbacks and setters do is bracketed, however deep they nest. -/
theorem callees_keep (code : UserCode σ) (depth : Nat) (busy : List Address)
    (earlier : List Entry) :
    (code.calleesTo depth busy).All (Keeps (Proceeds earlier) False True) :=
  (code.all_calleesTo (fun _ => keeps_exhaust)
    (fun _ _ all _ _ earlier => keeps_program code all.each earlier _)
    (fun _ _ all _ _ _ earlier => keeps_program code all.each earlier _) depth busy).each earlier

theorem keeps_run {α : Type} (code : UserCode σ) (earlier : List Entry) (program : Program σ α) :
    Keeps (Proceeds earlier) False True (code.run program) :=
  keeps_program code (callees_keep code _ _) earlier program

theorem keeps_drain (code : UserCode σ) (earlier : List Entry) :
    Keeps (Proceeds earlier) False False (drain code.callees) :=
  (slack earlier).keeps_drain (callees_keep code _ _ earlier).callback

end Proceeds

end Session

namespace Host

open StreamControl.Action Session Journal

variable {σ : Type}

/-! ## Histories -/

theorem enduring_proceeds (code : UserCode σ) (earlier : List Entry) :
    Enduring code fun host => Proceeds earlier host.session := by
  intro deed before after does proceeds
  cases does with
  | stir before after session =>
    rw [session]
    exact proceeds
  | write _ ofHost => exact proceeds.note (Entry.not_isBracket_of_isOfHost ofHost)
  | fail =>
    exact failing_of (P := Proceeds earlier) (fun _ _ proceeds => proceeds)
      (fun _ _ _ _ proceeds => proceeds.note rfl) (fun _ _ _ proceeds => proceeds.note rfl)
      (fun _ proceeds => proceeds.note rfl) proceeds
  | run _ program _ ends | outside _ program ends =>
    exact (Proceeds.keeps_run code earlier program).of_ne_exhausted proceeds ends
  | drain _ ends => exact (Proceeds.keeps_drain code earlier).of_ne_exhausted proceeds ends
  | attach | enroll | mark | settle | forget => exact proceeds.note rfl
  | announce | join | leave => exact proceeds.note rfl
  | skip | shutDown | send | discard | close => exact proceeds

variable {code : UserCode σ} {history : History σ}

/-- **Whatever has happened, every push has handed its value on and is through.** -/
theorem History.bracketed (reachable : history.Reachable code) :
    Bracketed [] history.host.session.journal.toList := by
  obtain ⟨config, memory, host, created, leads⟩ := reachable
  obtain ⟨channel, rfl⟩ := eq_of_create created
  obtain ⟨entries, journal, bracketed⟩ :=
    leads.endures (enduring_proceeds code []) (Proceeds.now _)
  rwa [journal]

end Host

end StreamControl
