import StreamControl.Proofs.Exhaustion
import StreamControl.Proofs.Tenure

/-!
# What a push comes to

A push stores a value, hands it to the subscriptions that are there at that moment, and
takes out those that ended.  The callbacks in between may subscribe to the parameter, and
may push it themselves; those pushes are brackets within this one, and what happens inside
of them is not this one's doing (`Journal.ownTurns`).

`Session.hands_over` is the account of a whole push.  It rests on numbers: what is taken
out is told by its number, and no two subscriptions of any tree there can be
(`ParameterTree.Arises`) have the same, whoever made them and when.
-/

set_option autoImplicit false

namespace StreamControl

namespace ParameterTree

/-! ## The trees that there can be -/

/-- A tree comes from the empty one by changes that user code and hosts make. -/
inductive Arises : ParameterTree → Prop where
  /-- At first there is nothing. -/
  | new : Arises {}
  /-- User code changes something. -/
  | edit {tree after : ParameterTree} (arises : Arises tree) (edit : tree.Edit after) : Arises after
  /-- A stream is made known. -/
  | addStream {tree : ParameterTree} (arises : Arises tree) (stream : StreamId) :
      Arises (tree.addStream stream)
  /-- A filter is made known. -/
  | addFilter {tree after : ParameterTree} (arises : Arises tree) {stream : StreamId}
      {filter : String} (added : tree.addFilter stream filter = .ok after) : Arises after
  /-- A filter is marked. -/
  | setStarted {tree after : ParameterTree} (arises : Arises tree) {stream : StreamId}
      {filter : String} {started : Bool}
      (marked : tree.setStarted stream filter started = .ok after) : Arises after
  /-- A stream stops. -/
  | dropUnkept {tree : ParameterTree} (arises : Arises tree) (stream : StreamId) :
      Arises (tree.dropUnkept stream).2
  /-- A stream is forgotten. -/
  | removeStream {tree : ParameterTree} (arises : Arises tree) (stream : StreamId) :
      Arises (tree.removeStream stream)

variable {tree after : ParameterTree}

theorem InOrder.of_store {stream : StreamId} {filter name : String} {value : Value}
    {subscribers : List Subscription}
    (stored : tree.store stream filter name value = .ok (subscribers, after))
    (inOrder : tree.InOrder) : after.InOrder := fun other =>
  (subscriptionsAt_store ⟨stream, filter, name⟩ stored other).symm ▸ inOrder other

/-- Every subscription has an owner, and a parameter has its subscriptions in order. -/
def Ordered (tree : ParameterTree) : Prop := ∃ owner, tree.OwnedBy owner ∧ tree.InOrder

theorem Undisturbed.ordered (undisturbed : Undisturbed tree after) :
    tree.Ordered → after.Ordered := by
  rintro ⟨owner, owned, inOrder⟩
  obtain ⟨further, -, owns⟩ := undisturbed.owned owner owned
  exact ⟨further, owns, undisturbed.inOrder owner owned inOrder⟩

theorem Edit.ordered (edit : tree.Edit after) (ordered : tree.Ordered) : after.Ordered := by
  cases edit with
  | store stored =>
    obtain ⟨owner, owned, inOrder⟩ := ordered
    obtain ⟨further, -, owns⟩ := (resubscribed_store stored).owned owner owned
    exact ⟨further, owns, inOrder.of_store stored⟩
  | create created => exact (undisturbed_create created).ordered ordered
  | subscribe subscribed => exact (undisturbed_subscribe subscribed).ordered ordered
  | unsubscribe => exact (undisturbed_unsubscribe _ _ _ _).ordered ordered

theorem Arises.ordered (arises : tree.Arises) : tree.Ordered := by
  induction arises with
  | new =>
    exact ⟨fun _ => default, fun _ _ member => (List.not_mem_nil member).elim,
      fun _ => List.Pairwise.nil⟩
  | edit _ edit ih => exact edit.ordered ih
  | addStream _ stream ih => exact (undisturbed_addStream stream).ordered ih
  | addFilter _ added ih => exact (undisturbed_addFilter added).ordered ih
  | setStarted _ marked ih => exact (undisturbed_setStarted marked).ordered ih
  | dropUnkept _ stream ih => exact (undisturbed_dropUnkept stream).ordered ih
  | removeStream _ stream ih => exact (undisturbed_removeStream stream).ordered ih

/-- No two subscriptions have the same number. -/
theorem Arises.numbered (arises : tree.Arises) : tree.Numbered :=
  let ⟨_, owned, inOrder⟩ := arises.ordered
  owned.numbered inOrder

end ParameterTree

/-! ## Turns -/

/-- What the callbacks of a parameter are handed when a value is pushed. -/
def Address.delivery (address : Address) (value : Value) (context : UserContext) : Delivery :=
  { value, stream := address.stream, filter := address.filter, parameter := address.name, context }

/-- What is written down when a subscription is handed a value, for each outcome. -/
def Address.turn (address : Address) (value : Value) :
    Subscription × DispatchOutcome → List Entry
  | (subscription, outcome) =>
    let call := Call.callback (.subscription subscription.id) subscription.callback
      (address.delivery value subscription.context)
    match outcome with
    | .invoked code => [.entered call, .left call (if code = 0 then .succeeded else .failed)]
    | .panicked => [.entered call, .left call .panicked]
    | .mismatched _ =>
      [.skipped (.subscription subscription.id) subscription.callback
        (address.delivery value subscription.context)]

namespace Entry

/-- Whether an entry belongs to a subscription's turn. -/
def isTurn : Entry → Bool
  | entered (.callback (.subscription _) _ _) | left (.callback (.subscription _) _ _) _ => true
  | skipped (.subscription _) _ _ => true
  | _ => false

/-- How many pushes are under way after an entry, and which turns have been taken while none
was. -/
def turnsFrom : Nat × List Entry → Entry → Nat × List Entry
  | (height, turns), pushing .. => (height + 1, turns)
  | (height, turns), pushed .. => (height - 1, turns)
  | (height, turns), entry =>
    (height, if height = 0 ∧ entry.isTurn = true then turns ++ [entry] else turns)

theorem turnsFrom_of_isRemark {entry : Entry} (remark : entry.isRemark = true)
    (taken : Nat × List Entry) : turnsFrom taken entry = taken := by
  cases entry <;> first | (cases remark; done) | simp [turnsFrom, isTurn]

theorem turnsFrom_of_isOfQuery {entry : Entry} (ofQuery : entry.isOfQuery = true)
    (taken : Nat × List Entry) : turnsFrom taken entry = taken := by
  unfold isOfQuery at ofQuery
  split at ofQuery <;> first | (cases ofQuery; done) | simp [turnsFrom, isTurn]

theorem turnsFrom_of_isTurn {entry : Entry} (turn : entry.isTurn = true) (turns : List Entry) :
    turnsFrom (0, turns) entry = (0, turns ++ [entry]) := by
  cases entry with
  | entered | left | skipped => simp [turnsFrom, turn]
  | _ => cases turn

theorem isGrown_of_isTurn {entry : Entry} (turn : entry.isTurn = true) : entry.isGrown = false := by
  cases entry <;> first | rfl | cases turn

end Entry

/-- The turns of subscriptions among some entries that are not taken within a push that
begins among them. -/
def Journal.ownTurns (entries : List Entry) : List Entry :=
  (entries.foldl Entry.turnsFrom (0, [])).2

namespace Session

open StreamControl.Action Journal

variable {σ : Type}

/-! ## While a push is under way -/

/-- What has happened since some session, in which a push had just begun: so many pushes are
under way within it, these are its own turns, and what the tree is now is noted. -/
structure Within (origin : Session σ) (taken : Nat × List Entry) (session : Session σ) : Prop where
  /-- The entries that have been written since. -/
  written : ∃ body, session.journal.toList = origin.journal.toList ++ body ∧
    body.foldl Entry.turnsFrom (0, []) = taken ∧
      body.foldl Entry.treeFrom origin.tree = session.tree
  /-- Subscriptions have gone, and others have come under new numbers. -/
  tree : origin.tree.Resubscribed session.tree

namespace Within

variable {origin session : Session σ} {taken : Nat × List Entry}

theorem refl (origin : Session σ) : Within origin (0, []) origin :=
  ⟨⟨[], by simp, rfl, rfl⟩, (ParameterTree.Undisturbed.refl _).toResubscribed⟩

/-- An entry is written, and the tree is what it notes. -/
theorem write (within : Within origin taken session) (entry : Entry)
    (changed : session.tree.Resubscribed (entry.treeFrom session.tree)) :
    Within origin (entry.turnsFrom taken) { session with
      tree := entry.treeFrom session.tree, journal := session.journal.push entry } := by
  obtain ⟨⟨body, journal, turns, tree⟩, since⟩ := within
  refine ⟨⟨body ++ [entry], ?_, ?_, ?_⟩, since.trans changed⟩
  · rw [Array.toList_push, journal, List.append_assoc]
  · rw [List.foldl_append, turns]
    rfl
  · rw [List.foldl_append, tree]
    rfl

/-- An entry is written that notes no tree. -/
theorem push (within : Within origin taken session) (entry : Entry)
    (still : entry.isGrown = false) :
    Within origin (entry.turnsFrom taken) { session with
      journal := session.journal.push entry } := by
  have same := Entry.treeFrom_of_not_isGrown still session.tree
  have written := within.write entry
    (same.symm ▸ (ParameterTree.Undisturbed.refl _).toResubscribed)
  rwa [same] at written

/-- A subscription takes its turn. -/
theorem take {turns : List Entry} (within : Within origin (0, turns) session) (entry : Entry)
    (turn : entry.isTurn = true) :
    Within origin (0, turns ++ [entry]) { session with journal := session.journal.push entry } :=
  Entry.turnsFrom_of_isTurn turn turns ▸ within.push entry (Entry.isGrown_of_isTurn turn)

/-- The tree is changed, and that is noted. -/
theorem plant (within : Within origin taken session) {tree : ParameterTree}
    (changed : session.tree.Resubscribed tree) :
    Within origin taken { session with tree, journal := session.journal.push (.grown tree) } := by
  have written := within.write (.grown tree) changed
  have same : Entry.turnsFrom taken (.grown tree) = taken := by simp [Entry.turnsFrom, Entry.isTurn]
  rwa [same] at written

/-- Entries about nobody's turn are as good as none. -/
theorem slack (origin : Session σ) (taken : Nat × List Entry) : Slack (Within origin taken) where
  remark isRemark within := by
    have written := within.push _ (Entry.isGrown_of_isRemark isRemark)
    rwa [Entry.turnsFrom_of_isRemark isRemark] at written
  memory _ within := ⟨within.written, within.tree⟩
  tally _ within := ⟨within.written, within.tree⟩
  channel _ within := ⟨within.written, within.tree⟩
  add addition within := within.plant addition.undisturbed.toResubscribed
  recordQuery ofQuery within := by
    have written := within.push _ (Entry.isGrown_of_isOfQuery ofQuery)
    rwa [Entry.turnsFrom_of_isOfQuery ofQuery] at written
  queue _ _ _ within := ⟨within.written, within.tree⟩

/-- A push within the push leaves no turns behind: it is a bracket that closes. -/
theorem keeps_publish {callees : Callees σ}
    (callbacks : ∀ taken reference delivery,
      Keeps (Within origin taken) False True (callees.callback reference delivery))
    (taken : Nat × List Entry) (stream : StreamId) (filter name : String) (value : Value) :
    Keeps (Within origin taken) True True (publish callees stream filter name value) := by
  obtain ⟨height, turns⟩ := taken
  refine keeps_publish_of (R := fun _ _ => Within origin (height + 1, turns)) ?begin ?turn ?finish
  case begin =>
    intro session subscribers tree stored within
    exact (within.plant (ParameterTree.resubscribed_store stored)).push
      (.pushing stream filter name) rfl
  case turn =>
    intro subscription rest spent session within
    have inside : Keeps (Within origin (height + 1, turns)) False False (dispatch callees
        (.subscription subscription.id) subscription.callback
        { value, stream, filter, parameter := name, context := subscription.context }) := by
      refine (slack origin _).toPliant.keeps_dispatch_of (callbacks _ _ _) ?_
      rintro entry session (rfl | ⟨exit, rfl⟩ | rfl) within
      · exact within.push (.entered _) rfl
      · exact within.push (.left _ exit) rfl
      · exact within.push (.skipped ..) rfl
    exact inside.always within
  case finish =>
    intro spent session within
    exact (within.plant (ParameterTree.undisturbed_unsubscribe _ _ _ _).toResubscribed).push
      (.pushed stream filter name) rfl

/-- Callbacks and setters leave no turns behind, however deep they nest. -/
theorem callees_keep (code : UserCode σ) (depth : Nat) (busy : List Address)
    (taken : Nat × List Entry) :
    (code.calleesTo depth busy).All (Keeps (Within origin taken) False True) :=
  code.callees_keep_of (fun taken => (slack origin taken).toNimble)
    (fun _ callbacks taken => (slack origin taken).keeps_query (callbacks taken))
    (fun _ callbacks => keeps_publish callbacks) depth busy taken

end Within

/-! ## The account of a push -/

/-- Whether an outcome is of the kind that a callback's inputs allow. -/
def Allows (callback : Callback) : DispatchOutcome → Prop
  | .mismatched found => callback.isWellFormed = false ∧ found = callback.arity
  | _ => callback.isWellFormed = true

section Given

variable {P : Session σ → Prop} {Q : Prop}

/-- What is known besides the session does not change. -/
theorem keeps_given {α : Type} {refusal panic : Prop} {action : Action (Session σ) α}
    (keeps : Keeps P refusal panic action) :
    Keeps (fun session => Q ∧ P session) refusal panic action := fun session both =>
  (keeps session both.2).mono (fun _ _ holds => ⟨both.1, holds⟩)
    (fun _ _ ends => ⟨ends.1, both.1, ends.2⟩) fun _ _ ends => ⟨ends.1, both.1, ends.2⟩

theorem Pliant.given (pliant : Pliant P) : Pliant fun session => Q ∧ P session where
  remark isRemark both := ⟨both.1, pliant.remark isRemark both.2⟩
  memory memory both := ⟨both.1, pliant.memory memory both.2⟩
  tally tally both := ⟨both.1, pliant.tally tally both.2⟩
  channel channel both := ⟨both.1, pliant.channel channel both.2⟩

end Given

section Push

variable {origin session : Session σ} {turns : List Entry} {address : Address} {value : Value}

/-- A subscriber takes its turn. -/
theorem meets_turn (code : UserCode σ) (depth : Nat) (busy : List Address)
    (subscription : Subscription)
    (within : Within origin (0, turns) session) :
    (dispatch (code.calleesTo depth busy) (.subscription subscription.id) subscription.callback
      (address.delivery value subscription.context)).Meets session
      (fun outcome after => Allows subscription.callback outcome ∧
        Within origin (0, turns ++ address.turn value (subscription, outcome)) after)
      (fun _ _ => False) (fun _ _ => False) := by
  refine meets_dispatch_of
    (P := fun session => subscription.callback.isWellFormed = true ∧
      Within origin (0, turns ++ [.entered (.callback (.subscription subscription.id)
        subscription.callback (address.delivery value subscription.context))]) session)
    (keeps_given ((Within.callees_keep code depth busy _).callback _ _))
    (fun callable => ⟨callable, ?_⟩)
    (fun malformed => ⟨⟨malformed, rfl⟩, ?_⟩) ?_ ?_
    fun outcome => (Within.slack origin _).toPliant.given
  · exact within.take (.entered _) rfl
  · exact within.take (.skipped ..) rfl
  · rintro code session ⟨callable, within⟩
    have left := within.take (.left (.callback (.subscription subscription.id)
      subscription.callback (address.delivery value subscription.context))
      (if code = 0 then .succeeded else .failed)) rfl
    rw [List.append_assoc] at left
    exact ⟨callable, left⟩
  · rintro session ⟨callable, within⟩
    have left := within.take (.left (.callback (.subscription subscription.id)
      subscription.callback (address.delivery value subscription.context)) .panicked) rfl
    rw [List.append_assoc] at left
    exact ⟨callable, left⟩

/-- The subscribers take their turns one after the other. -/
theorem meets_turns (code : UserCode σ) (depth : Nat) (busy : List Address)
    (subscribers : List Subscription) (within : Within origin (0, turns) session) :
    (dispatchAll (code.calleesTo depth busy) (address.delivery value {}) subscribers).Meets session
      (fun outcomes after => ∃ results : List (Subscription × DispatchOutcome),
        results.map Prod.fst = subscribers ∧
        outcomes = results.map (fun result => (result.1.id, result.2)) ∧
        (∀ result ∈ results, Allows result.1.callback result.2) ∧
        Within origin (0, turns ++ results.flatMap (address.turn value)) after)
      (fun _ _ => False) (fun _ _ => False) := by
  induction subscribers generalizing turns session with
  | nil =>
    rw [dispatchAll, meets_pure]
    exact ⟨[], rfl, rfl, List.forall_mem_nil _, by simpa using within⟩
  | cons subscription rest ih =>
    rw [dispatchAll, meets_bind]
    refine (meets_turn code depth busy subscription within).always ?_
    rintro outcome between ⟨allows, within⟩
    rw [meets_bind]
    refine (ih within).always ?_
    rintro outcomes after ⟨results, subscribers, rfl, all, within⟩
    rw [meets_pure]
    refine ⟨(subscription, outcome) :: results, by rw [List.map_cons, subscribers], rfl,
      List.forall_mem_cons.mpr ⟨allows, all⟩, ?_⟩
    rwa [List.flatMap_cons, ← List.append_assoc]

end Push

/-- A session in which a value has just been stored and a push begins. -/
def beginPush (session : Session σ) (address : Address) (stored : ParameterTree) : Session σ :=
  { session with
    tree := stored
    journal := (session.journal.push (.grown stored)).push
      (.pushing address.stream address.filter address.name) }

/-- A session in which a push is through and subscriptions have been taken out. -/
def endPush (session : Session σ) (address : Address) (finished : List Nat) : Session σ :=
  { session with
    tree := session.tree.unsubscribe address.stream address.filter address.name finished
    journal := (session.journal.push (.grown (session.tree.unsubscribe address.stream address.filter
      address.name finished))).push (.pushed address.stream address.filter address.name) }

/-- Between its beginning and its end a push hands the value to the subscribers. -/
theorem meets_publish_iff {callees : Callees σ} {session : Session σ} {address : Address}
    {value : Value} {subscribers : List Subscription} {stored : ParameterTree}
    {returns : Nat → Session σ → Prop} {refuses : Fault → Session σ → Prop}
    {panics : String → Session σ → Prop}
    (stores : session.tree.store address.stream address.filter address.name value =
      .ok (subscribers, stored)) :
    (publish callees address.stream address.filter address.name value).Meets session returns
        refuses panics ↔
      (dispatchAll callees (address.delivery value {}) subscribers).Meets
        (session.beginPush address stored)
        (fun outcomes left => returns (outcomes.countP (·.2.wasInvoked))
          (left.endPush address (finishedOf outcomes))) refuses panics := by
  rw [publish, meets_bind, meets_changeTree, stores]
  dsimp only
  rw [meets_bind, Session.record, meets_modify, meets_bind]
  exact Iff.rfl

/-- The journal when the callbacks that a push has called are through: the value is stored, the
push begins, and what happens while it is under way follows. -/
def pushedTo (before : Session σ) (address : Address) (stored : ParameterTree)
    (body : List Entry) : List Entry :=
  before.journal.toList ++
    .grown stored :: .pushing address.stream address.filter address.name :: body

/-- What a whole push comes to, by what came of each subscription, the tree with the value
stored, and what happened meanwhile. -/
structure Handed (before after : Session σ) (address : Address) (value : Value) (count : Nat)
    (results : List (Subscription × DispatchOutcome)) (stored : ParameterTree)
    (body : List Entry) : Prop where
  /-- The value is stored. -/
  stores : before.tree.store address.stream address.filter address.name value =
    .ok (results.map Prod.fst, stored)
  /-- The subscriptions of that moment are handed the value, in their order. -/
  subscribers : results.map Prod.fst = before.tree.subscriptionsAt address
  /-- No two of them have the same number. -/
  distinct : (results.map (·.1.id)).Nodup
  /-- Callbacks that take other inputs are left out, and no others. -/
  allowed : ∀ result ∈ results, Allows result.1.callback result.2
  /-- These turns are all, and each hands over the value with the subscription's own context. -/
  turns : ownTurns body = results.flatMap (address.turn value)
  /-- The callbacks that ran to their end are counted. -/
  count : count = results.countP (·.2.wasInvoked)
  /-- When the callbacks are through, the tree is changed once more. -/
  journal : after.journal.toList = pushedTo before address stored body ++
    [.grown after.tree, .pushed address.stream address.filter address.name]
  /-- The subscriptions that ended are taken out of those that the callbacks left. -/
  remaining : after.tree.subscriptionsAt address =
    ((treeAfter (pushedTo before address stored body)).subscriptionsAt address).filter
      (· ∉ (results.filter (·.2.endsSubscription)).map Prod.fst)
  /-- Of other parameters none are. -/
  elsewhere : ∀ other, other ≠ address → after.tree.subscriptionsAt other =
    (treeAfter (pushedTo before address stored body)).subscriptionsAt other

/-- What may be stored is stored, and the subscriptions that are there are to be told. -/
theorem store_isOk {tree : ParameterTree} {address : Address} {parameter : Parameter}
    {value : Value} (found : tree.parameter? address = some parameter)
    (fits : value.fits parameter.type = true) :
    ∃ stored, tree.store address.stream address.filter address.name value =
      .ok (tree.subscriptionsAt address, stored) := by
  have there := ParameterTree.parameterAt_eq_ok_iff.mpr found
  have here : tree.subscriptionsAt address = parameter.subscriptions := by
    rw [ParameterTree.subscriptionsAt, found, Option.map_some, Option.getD_some]
  exact ⟨tree.modifyParameter address.stream address.filter address.name fun parameter =>
    { parameter with value }, by
      simp only [ParameterTree.store, bind, Except.bind, there, ParameterTree.checkType,
        if_pos fits, here]
      rfl⟩

/-- Of the subscriptions that are left, those with the number of one that ended are the ones
that ended. -/
theorem mem_finished_iff {origin session : Session σ} {taken : Nat × List Entry}
    {address : Address} {results : List (Subscription × DispatchOutcome)}
    (within : Within origin taken session) (numbered : origin.tree.Numbered)
    (subscribers : ∀ result ∈ results, result.1 ∈ origin.tree.subscriptionsAt address)
    {subscription : Subscription} (left : subscription ∈ session.tree.subscriptionsAt address) :
    subscription.id ∈ finishedOf (results.map fun result => (result.1.id, result.2)) ↔
      subscription ∈ (results.filter (·.2.endsSubscription)).map Prod.fst := by
  simp only [finishedOf, List.mem_map, List.mem_filter]
  constructor
  · rintro ⟨_, ⟨⟨result, among, rfl⟩, ended⟩, same⟩
    have there := subscribers result among
    have early := numbered.below address result.1 there
    -- A subscription with a number of that time is one of that time.
    have old := within.tree.old address subscription left (same ▸ early)
    exact ⟨result, ⟨among, ended⟩, (numbered.alone address subscription old address _ there same).2⟩
  · rintro ⟨result, ⟨among, ended⟩, rfl⟩
    exact ⟨_, ⟨⟨result, among, rfl⟩, ended⟩, rfl⟩

/-- The account of a push, from the moment at which its callbacks are through. -/
theorem Within.handed {before left : Session σ} {address : Address} {value : Value}
    {stored : ParameterTree} {results : List (Subscription × DispatchOutcome)}
    (within : Within (before.beginPush address stored)
      (0, results.flatMap (address.turn value)) left)
    (numbered : stored.Numbered)
    (stores : before.tree.store address.stream address.filter address.name value =
      .ok (before.tree.subscriptionsAt address, stored))
    (subscribers : results.map Prod.fst = before.tree.subscriptionsAt address)
    (allowed : ∀ result ∈ results, Allows result.1.callback result.2) :
    ∃ body, Handed before
      (left.endPush address (finishedOf (results.map fun result => (result.1.id, result.2))))
      address value (results.countP (·.2.wasInvoked)) results stored body := by
  have ⟨⟨body, journal, turns, tree⟩, _⟩ := within
  have same := ParameterTree.subscriptionsAt_store address stores address
  have shown : left.journal.toList = pushedTo before address stored body := by
    rw [journal, pushedTo, beginPush, Array.toList_push, Array.toList_push, List.append_assoc,
      List.append_assoc]
    rfl
  have last : treeAfter (pushedTo before address stored body) = left.tree := by
    rw [← tree, pushedTo, treeAfter, List.foldl_append]
    rfl
  have handed : ∀ result ∈ results, result.1 ∈ stored.subscriptionsAt address := by
    intro result among
    rw [same, ← subscribers]
    exact List.mem_map_of_mem among
  have ids : results.map (·.1.id) = (stored.subscriptionsAt address).map (·.id) := by
    rw [same, ← subscribers, List.map_map]
    rfl
  refine ⟨body, {
    stores := subscribers.symm ▸ stores
    subscribers := subscribers
    distinct := ids ▸ List.pairwise_map.mpr ((numbered.inOrder address).imp Nat.ne_of_lt)
    allowed := allowed
    turns := congrArg Prod.snd turns
    count := rfl
    journal := ?journal
    remaining := ?remaining
    elsewhere := fun other away => ?elsewhere }⟩
  case journal =>
    rw [endPush, Array.toList_push, Array.toList_push, shown, List.append_assoc]
    rfl
  case remaining =>
    rw [last]
    refine (ParameterTree.subscriptionsAt_unsubscribe _).trans ((if_pos rfl).trans ?_)
    refine List.filter_congr fun subscription among => ?_
    exact decide_eq_decide.mpr (not_congr (mem_finished_iff within numbered handed among))
  case elsewhere =>
    rw [last]
    exact (ParameterTree.subscriptionsAt_unsubscribe _).trans (if_neg away)

/-- **What a push comes to, whatever its callbacks do meanwhile.**  If it is not exhausted with
the callback of one of its subscribers, a push that may store its value returns, and hands the
value to the subscriptions of that moment, once each and in order. -/
theorem hands_over (code : UserCode σ) (depth : Nat) (busy : List Address) {session : Session σ}
    (arises : session.tree.Arises) {address : Address} {parameter : Parameter}
    (found : session.tree.parameter? address = some parameter) {value : Value}
    (fits : value.fits parameter.type = true) :
    ((publish (code.calleesTo depth busy) address.stream address.filter address.name value).Exhausts
        session ∧
      ∃ subscription ∈ session.tree.subscriptionsAt address,
        Exhausting (code.calleesTo depth busy) subscription.callback
          (address.delivery value subscription.context)) ∨
    ∃ count after results stored body,
      publish (code.calleesTo depth busy) address.stream address.filter address.name value session =
        (.returned count, after) ∧
      Handed session after address value count results stored body := by
  obtain ⟨stored, stores⟩ := store_isOk found fits
  have meets : (publish (code.calleesTo depth busy) address.stream address.filter address.name
      value).Meets session (fun count after => ∃ results stored body,
        Handed session after address value count results stored body)
      (fun _ _ => False) (fun _ _ => False) := by
    rw [meets_publish_iff stores]
    refine (meets_turns code depth busy _ (Within.refl _)).always ?_
    rintro _ left ⟨results, subscribers, rfl, allowed, within⟩
    obtain ⟨body, handed⟩ :=
      within.handed (arises.edit (.store stores)).numbered stores subscribers allowed
    refine ⟨results, stored, body, ?_⟩
    rwa [List.countP_map]
  refine meets.exhausts_or.imp (fun exhausts => ⟨exhausts, ?_⟩) ?_
  · obtain ⟨subscribers, tree, stores', subscription, among, exhausting⟩ :=
      exhausts_publish exhausts
    cases stores.symm.trans stores'
    exact ⟨subscription, among, exhausting⟩
  · rintro ⟨count, after, run, results, stored, body, handed⟩
    exact ⟨count, after, results, stored, body, run, handed⟩

end Session

namespace Host

open StreamControl.Action Session

variable {σ : Type}

/-! ## Histories -/

theorem lax_arises : Lax fun session : Session σ => session.tree.Arises where
  record _ arises := arises
  memory _ arises := arises
  tally _ arises := arises
  channel _ arises := arises
  edit edit arises := arises.edit edit
  recordQuery _ arises := arises
  queue _ _ _ arises := arises

theorem enduring_arises (code : UserCode σ) :
    Enduring code fun host => host.session.tree.Arises := by
  intro deed before after does arises
  cases does with
  | stir before after session =>
    rw [session]
    exact arises
  | run _ program _ ends | outside _ program ends =>
    exact (lax_arises.keeps_run code program).of_ne_exhausted arises ends
  | drain _ ends =>
    have drained : Keeps (fun session : Session σ => session.tree.Arises) False False
        (Session.drain code.callees) := lax_arises.keeps_drain (lax_arises.keeps_callback code)
    exact drained.of_ne_exhausted arises ends
  | attach => exact arises.addStream _
  | enroll _ added => exact arises.addFilter added
  | mark _ marked => exact arises.setStarted marked
  | settle _ stream => exact arises.dropUnkept stream
  | forget _ stream => exact arises.removeStream stream
  | _ => exact arises

/-- Whatever has happened, the tree is one of those that there can be. -/
theorem History.arises {code : UserCode σ} {history : History σ}
    (reachable : history.Reachable code) : history.host.session.tree.Arises := by
  obtain ⟨config, memory, host, created, leads⟩ := reachable
  obtain ⟨channel, rfl⟩ := eq_of_create created
  exact leads.endures (enduring_arises code) .new

/-- A history in which two callbacks are subscribed to the parameter, of which the second
pushes once more. -/
def pendingEcho : History Unit :=
  .after echoCode { episodes := [], host := freshHost }
    [.addStream (FilterGraph.empty.append "source" (some 0)),
      .outside (.ask (.subscribe ⟨1⟩ "source" (some "gain") .bool { code := 0 } {} {}) fun _ =>
        .done ()),
      .outside (.ask (.subscribe ⟨1⟩ "source" (some "gain") .bool { code := 1 } {} {}) fun _ =>
        .done ())]

theorem pendingEcho_reachable : pendingEcho.Reachable echoCode := by
  refine ⟨_, _, _, create_freshHost, History.leads_after _
    ⟨⟨⟨?_, ?attach⟩, ?_⟩, ⟨⟨?_, nofun⟩, ?_⟩, ⟨⟨?_, nofun⟩, ?_⟩, trivial⟩⟩
  case attach =>
    intro graph same
    cases same
    exact .add .new rfl
  all_goals decide +kernel

/-- The parameter that it pushes. -/
def echoAddress : Address := ⟨⟨1⟩, "source", "gain"⟩

/-- Both callbacks run to their end, the second with a push in between; what the first ended is
gone, and the second stays. -/
theorem hands_over_echo :
    (∃ parameter, pendingEcho.host.session.tree.parameter? echoAddress = some parameter ∧
      (Value.bool false).fits parameter.type = true) ∧
    ∃ after results stored body,
      publish (echoCode.calleesTo 2 []) ⟨1⟩ "source" "gain" (.bool false) pendingEcho.host.session =
        (.returned 2, after) ∧
      (after.tree.subscriptionsAt echoAddress).map (·.id) = [1] ∧
      Handed pendingEcho.host.session after echoAddress (.bool false) 2 results stored body := by
  obtain ⟨parameter, found⟩ := Option.isSome_iff_exists.mp
    (by decide +kernel : (pendingEcho.host.session.tree.parameter? echoAddress).isSome = true)
  have fits : (Value.bool false).fits parameter.type = true := by
    have all : (pendingEcho.host.session.tree.parameter? echoAddress).all
        (fun parameter => (Value.bool false).fits parameter.type) = true := by decide +kernel
    rwa [found] at all
  have returned : (publish (echoCode.calleesTo 2 []) ⟨1⟩ "source" "gain" (.bool false)
      pendingEcho.host.session).1 = .returned 2 := by decide +kernel
  have left : ((publish (echoCode.calleesTo 2 []) ⟨1⟩ "source" "gain" (.bool false)
      pendingEcho.host.session).2.tree.subscriptionsAt echoAddress).map (·.id) = [1] := by
    decide +kernel
  refine ⟨⟨parameter, found, fits⟩, ?_⟩
  rcases hands_over echoCode 2 [] (History.arises pendingEcho_reachable) found fits with
    ⟨exhausts, -⟩ | ⟨count, after, results, stored, body, run, handed⟩
  · cases returned.symm.trans exhausts
  · have run : publish (echoCode.calleesTo 2 []) ⟨1⟩ "source" "gain" (.bool false)
        pendingEcho.host.session = (.returned count, after) := run
    rw [run] at returned left
    cases returned
    exact ⟨after, results, stored, body, run, left, handed⟩

end Host

end StreamControl
