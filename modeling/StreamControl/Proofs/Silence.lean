import StreamControl.Proofs.QueryFates
import StreamControl.Proofs.Subscriptions

/-!
# Subscriptions that are over

A callback that returns a code other than zero, or panics, ends its subscription.
A push that is under way has made out beforehand whom to call, and takes the
subscriptions that have ended out of the tree when it is through.  A callback may
push in turn, and so pushes nest: meanwhile a subscription that has ended can be
called again, by the pushes that had it on their lists and by those of the same
parameter that begin before it is taken out.

That is the only way (`Host.ended_silent`).  `Session.Roster` is the invariant: what
is in the tree although it has ended is on the lists of pushes under way, and since
a listed subscription ended a push of its parameter has been under way.
-/

set_option autoImplicit false

namespace StreamControl

/-! ## What the journal says of subscriptions -/

/-- Where the parameter is whose value is handed over. -/
def Delivery.address (delivery : Delivery) : Address :=
  ⟨delivery.stream, delivery.filter, delivery.parameter⟩

namespace Entry

/-- The number of a subscription whose callback is entered or left, with the callback
and what it is handed. -/
def subscriber? : Entry → Option (Nat × Callback × Delivery)
  | entered (.callback (.subscription id) callback delivery)
  | left (.callback (.subscription id) callback delivery) _ => some (id, callback, delivery)
  | _ => none

/-- The number of a subscription whose callback ends it, with the address of the
parameter. -/
def ended? : Entry → Option (Nat × Address)
  | left (.callback (.subscription id) _ delivery) exit =>
    if exit = .succeeded then none else some (id, delivery.address)
  | _ => none

/-- The parameters that are being pushed after an entry, given those before. -/
def pushesFrom (pushes : List Address) : Entry → List Address
  | pushing stream filter parameter => ⟨stream, filter, parameter⟩ :: pushes
  | pushed _ _ _ => pushes.tail
  | _ => pushes

/-- Whether an entry is about neither a push nor a subscription. -/
def isAside : Entry → Bool
  | pushing .. | pushed .. => false
  | entry => entry.subscriber?.isNone

variable {entry : Entry}

theorem subscriber?_of_ended {id : Nat} {address : Address}
    (ended : entry.ended? = some (id, address)) :
    ∃ callback delivery, entry.subscriber? = some (id, callback, delivery) ∧
      delivery.address = address := by
  unfold ended? at ended
  split at ended
  · split at ended
    · cases ended
    · cases ended
      exact ⟨_, _, rfl, rfl⟩
  · cases ended

theorem subscriber?_of_isAside (aside : entry.isAside = true) : entry.subscriber? = none := by
  unfold isAside at aside
  split at aside
  · cases aside
  · cases aside
  · exact Option.isNone_iff_eq_none.mp aside

theorem pushesFrom_of_isAside (aside : entry.isAside = true) (pushes : List Address) :
    entry.pushesFrom pushes = pushes := by
  cases entry <;> first | rfl | cases aside

theorem isAside_of_isRemark (remark : entry.isRemark = true) : entry.isAside = true := by
  cases entry <;> first | rfl | cases remark

theorem isAside_of_isOfQuery (ofQuery : entry.isOfQuery = true) : entry.isAside = true := by
  unfold isOfQuery at ofQuery
  split at ofQuery <;> first | rfl | cases ofQuery

theorem isAside_of_isOfHost (ofHost : entry.isOfHost = true) : entry.isAside = true := by
  cases entry with
  | entered call | left call => cases call <;> first | rfl | cases ofHost
  | pushing | pushed => cases ofHost
  | _ => rfl

end Entry

namespace Journal

/-- The parameters that are being pushed after some entries, the push that began last
first. -/
def underWay (entries : List Entry) : List Address := entries.foldl Entry.pushesFrom []

/-- The subscription has ended. -/
def Ended (entries : List Entry) (id : Nat) : Prop :=
  ∃ entry ∈ entries, ∃ address, entry.ended? = some (id, address)

/-- Since the subscription ended, if it has, a push of its parameter has been under
way. -/
def Lingers (entries : List Entry) (id : Nat) : Prop :=
  ∀ earlier last rest address, entries = earlier ++ last :: rest →
    last.ended? = some (id, address) → ∀ shown, shown <+: rest →
      address ∈ underWay (earlier ++ last :: shown)

variable {entries : List Entry} {entry : Entry} {id : Nat}

theorem underWay_concat :
    underWay (entries ++ [entry]) = entry.pushesFrom (underWay entries) := by
  rw [underWay, underWay, List.foldl_append]
  rfl

theorem ended_concat_iff : Ended (entries ++ [entry]) id ↔
    Ended entries id ∨ ∃ address, entry.ended? = some (id, address) := by
  simp only [Ended, List.mem_append, List.mem_singleton, or_and_right, exists_or, exists_eq_left]

theorem lingers_of_not_ended (lasts : ¬ Ended entries id) : Lingers entries id := by
  intro earlier last rest address split ended
  exact absurd ⟨last, split ▸ List.mem_append_right _ List.mem_cons_self, address, ended⟩ lasts

/-- A subscription lingers on as long as what it is subscribed to is being pushed. -/
theorem Lingers.concat (lingers : Lingers entries id)
    (pushed : ∀ last ∈ entries ++ [entry], ∀ address, last.ended? = some (id, address) →
      address ∈ underWay (entries ++ [entry])) : Lingers (entries ++ [entry]) id := by
  intro earlier last rest address split ended shown isPrefix
  rcases eq_last_or_before split with ⟨-, -, rfl⟩ | ⟨before, same, rfl⟩
  · rw [List.prefix_nil.mp isPrefix, ← split]
    exact pushed last (split ▸ List.mem_append_right _ List.mem_cons_self) address ended
  · rcases List.prefix_concat_iff.mp isPrefix with rfl | within
    · rw [← split]
      exact pushed last (split ▸ List.mem_append_right _ List.mem_cons_self) address ended
    · exact lingers earlier last before address same ended shown within

end Journal

namespace Session

open StreamControl.Action Journal

variable {σ : Type}

/-! ## The roster of subscriptions -/

/-- Pushes that are under way. -/
structure Pushes where
  /-- The parameters, the push that began last first. -/
  underWay : List Address := []
  /-- The subscriptions that they call, with the parameters. -/
  called : List (Address × Subscription) := []
  /-- The numbers of those that they have found to be over. -/
  lapsed : List Nat := []

/-- Every number of a subscription has an owner, and what has ended is on the lists of
the pushes that are under way. -/
structure Roster (owner : Nat → Address × Callback) (pushes : Pushes) (session : Session σ) :
    Prop where
  /-- These pushes are under way. -/
  underWay : Journal.underWay session.journal.toList = pushes.underWay
  /-- The subscriptions in the tree have these owners. -/
  tree : session.tree.OwnedBy owner
  /-- The subscriptions that have been called had them, too. -/
  journal : ∀ entry ∈ session.journal.toList, ∀ id callback delivery,
    entry.subscriber? = some (id, callback, delivery) →
      id < session.tree.nextSubscription ∧ owner id = (delivery.address, callback)
  /-- Those that the pushes call linger. -/
  called : ∀ address subscription, (address, subscription) ∈ pushes.called →
    address ∈ pushes.underWay ∧ subscription.id < session.tree.nextSubscription ∧
      owner subscription.id = (address, subscription.callback) ∧
        Lingers session.journal.toList subscription.id
  /-- What is in the tree although it has ended has been found to be over. -/
  ended : ∀ address subscription, subscription ∈ session.tree.subscriptionsAt address →
    Ended session.journal.toList subscription.id → subscription.id ∈ pushes.lapsed
  /-- What has been found to be over is on a list. -/
  lapsed : ∀ id ∈ pushes.lapsed, ∃ address subscription,
    (address, subscription) ∈ pushes.called ∧ subscription.id = id
  /-- Only subscriptions that linger have been called. -/
  lingers : session.journal.Throughout fun earlier entry => ∀ id callback delivery,
    entry = .entered (.callback (.subscription id) callback delivery) → Lingers earlier id

/-- A session has a roster. -/
def Orderly (pushes : Pushes) (session : Session σ) : Prop := ∃ owner, Roster owner pushes session

namespace Roster

variable {owner : Nat → Address × Callback} {pushes : Pushes} {session : Session σ}

/-- An entry is written.  Meanwhile pushes may be through, and subscriptions be found
to be over. -/
theorem write (roster : Roster owner pushes session) (entry : Entry) (after : Pushes)
    (underWay : entry.pushesFrom pushes.underWay = after.underWay)
    (about : ∀ id callback delivery, entry.subscriber? = some (id, callback, delivery) →
      id < session.tree.nextSubscription ∧ owner id = (delivery.address, callback))
    (enters : ∀ id callback delivery,
      entry = .entered (.callback (.subscription id) callback delivery) →
        Lingers session.journal.toList id)
    (called : ∀ pair ∈ after.called, pair ∈ pushes.called ∧ pair.1 ∈ after.underWay)
    (ended : ∀ id address, entry.ended? = some (id, address) → id ∈ after.lapsed)
    (still : ∀ id ∈ pushes.lapsed, id ∈ after.lapsed)
    (lapsed : ∀ id ∈ after.lapsed, ∃ address subscription,
      (address, subscription) ∈ after.called ∧ subscription.id = id) :
    Roster owner after { session with journal := session.journal.push entry } := by
  have journal : ∀ other ∈ (session.journal.push entry).toList, ∀ id callback delivery,
      other.subscriber? = some (id, callback, delivery) →
        id < session.tree.nextSubscription ∧ owner id = (delivery.address, callback) := by
    intro other member
    rw [Array.toList_push, List.mem_append, List.mem_singleton] at member
    rcases member with old | rfl
    · exact roster.journal other old
    · exact about
  have pushed : Journal.underWay (session.journal.push entry).toList = after.underWay := by
    rw [Array.toList_push, underWay_concat, roster.underWay, underWay]
  refine { underWay := pushed, tree := roster.tree, journal := journal,
           called := fun address subscription member => ?_,
           ended := fun address subscription member has => ?_, lapsed := lapsed,
           lingers := roster.lingers.push enters }
  · obtain ⟨listed, within⟩ := called _ member
    obtain ⟨_, early, owns, lingers⟩ := roster.called address subscription listed
    refine ⟨within, early, owns, ?_⟩
    dsimp only at journal ⊢
    rw [Array.toList_push] at journal pushed ⊢
    -- Whatever ended it had the same owner, whose parameter is still being pushed.
    refine lingers.concat fun last member other ends => ?_
    obtain ⟨callback, delivery, shown, rfl⟩ := Entry.subscriber?_of_ended ends
    have same := (journal last member _ callback delivery shown).2
    rw [owns, Prod.mk.injEq] at same
    rw [pushed, ← same.1]
    exact within
  · dsimp only at has
    rw [Array.toList_push, ended_concat_iff] at has
    rcases has with old | ⟨other, now⟩
    · exact still _ (roster.ended address subscription member old)
    · exact ended _ other now

/-- An entry is written that is about something else. -/
theorem push (roster : Roster owner pushes session) {entry : Entry} (aside : entry.isAside = true) :
    Roster owner pushes { session with journal := session.journal.push entry } := by
  have silent := Entry.subscriber?_of_isAside aside
  refine roster.write _ _ (Entry.pushesFrom_of_isAside aside _) ?_ ?_ ?_ ?_ (fun _ member => member)
    roster.lapsed
  · intro id callback delivery shown
    rw [silent] at shown
    cases shown
  · rintro id callback delivery rfl
    cases silent
  · exact fun pair member => ⟨member, (roster.called pair.1 pair.2 member).1⟩
  · intro id address ends
    obtain ⟨callback, delivery, shown, _⟩ := Entry.subscriber?_of_ended ends
    rw [silent] at shown
    cases shown

/-- The tree is changed, and that is noted. -/
theorem plant (roster : Roster owner pushes session) {tree : ParameterTree}
    (changed : session.tree.Resubscribed tree) :
    Orderly pushes { session with tree, journal := session.journal.push (.grown tree) } := by
  obtain ⟨further, same, owned⟩ := changed.owned owner roster.tree
  have noted : Roster owner pushes
      { session with journal := session.journal.push (.grown tree) } := roster.push rfl
  refine ⟨further, { noted with
    tree := owned, journal := fun entry member id callback delivery shown => ?_,
    called := fun address subscription member => ?_,
    ended := fun address subscription member has => ?_ }⟩
  · obtain ⟨early, owns⟩ := noted.journal entry member id callback delivery shown
    exact ⟨Nat.lt_of_lt_of_le early changed.next, (same id early).trans owns⟩
  · obtain ⟨within, early, owns, lingers⟩ := noted.called address subscription member
    exact ⟨within, Nat.lt_of_lt_of_le early changed.next, (same _ early).trans owns, lingers⟩
  · -- What has ended has been called, and so it is not new.
    obtain ⟨entry, written, other, ends⟩ := has
    obtain ⟨callback, delivery, shown, _⟩ := Entry.subscriber?_of_ended ends
    have early := (noted.journal entry written _ callback delivery shown).1
    exact noted.ended address subscription (changed.old address subscription member early)
      ⟨entry, written, other, ends⟩

/-- The subscriptions of a parameter that is being pushed are put on the list. -/
theorem call (roster : Roster owner pushes session) (address : Address)
    (within : address ∈ pushes.underWay) :
    Roster owner { pushes with called :=
        (session.tree.subscriptionsAt address).map (address, ·) ++ pushes.called } session where
  underWay := roster.underWay
  tree := roster.tree
  journal := roster.journal
  ended := roster.ended
  lingers := roster.lingers
  lapsed id member := by
    obtain ⟨other, subscription, listed, same⟩ := roster.lapsed id member
    exact ⟨other, subscription, List.mem_append_right _ listed, same⟩
  called other subscription member := by
    rcases List.mem_append.mp member with new | old
    · obtain ⟨_, there, same⟩ := List.mem_map.mp new
      cases same
      obtain ⟨early, owns⟩ := roster.tree address subscription there
      refine ⟨within, early, owns, ?_⟩
      by_cases ended : Ended session.journal.toList subscription.id
      · obtain ⟨_, same, listed, equal⟩ :=
          roster.lapsed _ (roster.ended address subscription there ended)
        exact equal ▸ (roster.called _ same listed).2.2.2
      · exact lingers_of_not_ended ended
    · exact roster.called other subscription old

section Listed

variable {pushed : List Address} {called : List (Address × Subscription)} {lapsed : List Nat}
  (roster : Roster owner ⟨pushed, called, lapsed⟩ session) {subscription : Subscription}
  {delivery : Delivery} (listed : (delivery.address, subscription) ∈ called)
include roster listed

/-- A callback on a list is entered. -/
theorem enter : Roster owner ⟨pushed, called, lapsed⟩ { session with
    journal := session.journal.push
      (.entered (.callback (.subscription subscription.id) subscription.callback delivery)) } := by
  obtain ⟨_, early, owns, lingers⟩ := roster.called _ _ listed
  refine roster.write _ _ rfl ?_ ?_ (fun pair member => ⟨member, (roster.called _ _ member).1⟩) nofun
    (fun _ member => member) roster.lapsed
  · intro id callback delivery shown
    cases shown
    exact ⟨early, owns⟩
  · intro id callback delivery same
    cases same
    exact lingers

/-- A callback on a list is left, which may end its subscription. -/
theorem leave (exit : Exit) :
    Roster owner ⟨pushed, called, lapsed ++ if exit = .succeeded then [] else [subscription.id]⟩
      { session with
        journal := session.journal.push
          (.left (.callback (.subscription subscription.id) subscription.callback delivery) exit) } := by
  obtain ⟨_, early, owns, _⟩ := roster.called _ _ listed
  refine roster.write _ _ rfl ?_ nofun (fun pair member => ⟨member, (roster.called _ _ member).1⟩) ?_
    (fun _ member => List.mem_append_left _ member) ?_
  · intro id callback delivery shown
    cases shown
    exact ⟨early, owns⟩
  · intro id address ends
    by_cases succeeded : exit = .succeeded <;> simp [Entry.ended?, succeeded] at ends ⊢
    exact .inr ends.1.symm
  · intro id member
    rcases List.mem_append.mp member with old | new
    · exact roster.lapsed id old
    · by_cases succeeded : exit = .succeeded
      · rw [if_pos succeeded] at new
        exact (List.not_mem_nil new).elim
      · rw [if_neg succeeded, List.mem_singleton] at new
        exact ⟨_, _, listed, new.symm⟩

end Listed

/-- The subscriptions that have ended are taken out of the tree. -/
theorem unsubscribe {pushed : List Address} {called : List (Address × Subscription)}
    {finished lapsed : List Nat} (roster : Roster owner ⟨pushed, called, lapsed ++ finished⟩ session)
    {address : Address}
    (listed : ∀ id ∈ finished, ∃ subscription, (address, subscription) ∈ called ∧
      subscription.id = id)
    (still : ∀ id ∈ lapsed, ∃ address subscription, (address, subscription) ∈ called ∧
      subscription.id = id) :
    Orderly ⟨pushed, called, lapsed⟩ { session with
      tree := session.tree.unsubscribe address.stream address.filter address.name finished
      journal := session.journal.push
        (.grown (session.tree.unsubscribe address.stream address.filter address.name finished)) } := by
  obtain ⟨further, planted⟩ :=
    roster.plant (ParameterTree.undisturbed_unsubscribe address.stream address.filter address.name
      finished).toResubscribed
  refine ⟨further, { planted with lapsed := still, ended := fun other subscription member has => ?_ }⟩
  rcases List.mem_append.mp (planted.ended other subscription member has) with old | now
  · exact old
  · obtain ⟨one, among, equal⟩ := listed _ now
    -- The number belongs to this parameter, where it has just been taken out.
    have same := (planted.called address one among).2.2.1
    rw [equal, (planted.tree other subscription member).2, Prod.mk.injEq] at same
    rw [same.1] at member
    exact absurd now (ParameterTree.not_mem_of_unsubscribe member)

end Roster

/-! ## User code -/

namespace Orderly

variable {pushes : Pushes} {session : Session σ}

theorem push (orderly : Orderly pushes session) {entry : Entry} (aside : entry.isAside = true) :
    Orderly pushes { session with journal := session.journal.push entry } := by
  obtain ⟨owner, roster⟩ := orderly
  exact ⟨owner, roster.push aside⟩

theorem plant (orderly : Orderly pushes session) {tree : ParameterTree}
    (changed : session.tree.Resubscribed tree) :
    Orderly pushes { session with tree, journal := session.journal.push (.grown tree) } := by
  obtain ⟨owner, roster⟩ := orderly
  exact roster.plant changed

theorem slack (pushes : Pushes) : Slack (Orderly pushes : Session σ → Prop) where
  remark isRemark orderly := orderly.push (Entry.isAside_of_isRemark isRemark)
  memory _ := fun ⟨owner, roster⟩ => ⟨owner, { roster with }⟩
  tally _ := fun ⟨owner, roster⟩ => ⟨owner, { roster with }⟩
  channel _ := fun ⟨owner, roster⟩ => ⟨owner, { roster with }⟩
  add addition orderly := orderly.plant addition.undisturbed.toResubscribed
  recordQuery ofQuery orderly := orderly.push (Entry.isAside_of_isOfQuery ofQuery)
  queue _ _ _ := fun ⟨owner, roster⟩ => ⟨owner, { roster with }⟩

/-- A push begins: the subscriptions of its parameter are put on the list. -/
theorem begin {pushed : List Address} {called : List (Address × Subscription)} {lapsed : List Nat}
    (orderly : Orderly ⟨pushed, called, lapsed⟩ session) (address : Address) {value : Value}
    {subscribers : List Subscription} {tree : ParameterTree}
    (stored : session.tree.store address.stream address.filter address.name value =
      .ok (subscribers, tree)) :
    Orderly ⟨address :: pushed, subscribers.map (address, ·) ++ called, lapsed⟩ { session with
      tree, journal := (session.journal.push (.grown tree)).push
        (.pushing address.stream address.filter address.name) } := by
  obtain ⟨owner, roster⟩ := orderly.plant (ParameterTree.resubscribed_store stored)
  have opened := roster.write (.pushing address.stream address.filter address.name)
    ⟨address :: pushed, called, lapsed⟩ rfl (fun _ _ _ shown => by cases shown)
    (fun _ _ _ same => by cases same)
    (fun pair member =>
      ⟨member, List.mem_cons_of_mem _ (roster.called pair.1 pair.2 member).1⟩)
    (fun _ _ ends => by cases ends) (fun _ member => member) roster.lapsed
  have begun := opened.call address List.mem_cons_self
  dsimp only at begun
  rw [ParameterTree.subscriptionsAt_store address stored,
    ← (ParameterTree.store_eq_ok address stored).1] at begun
  exact ⟨owner, begun⟩

/-- A push is through: what it has found to be over is taken out of the tree, and its
subscriptions are taken off the list. -/
theorem finish {pushed : List Address} {called : List (Address × Subscription)}
    {lapsed spent : List Nat} {address : Address} {subscribers : List Subscription}
    (orderly : Orderly ⟨address :: pushed, subscribers.map (address, ·) ++ called, lapsed ++ spent⟩
      session)
    (own : ∀ id ∈ spent, ∃ subscription ∈ subscribers, subscription.id = id)
    (within : ∀ pair ∈ called, pair.1 ∈ pushed)
    (still : ∀ id ∈ lapsed, ∃ address subscription,
      (address, subscription) ∈ called ∧ subscription.id = id) :
    Orderly ⟨pushed, called, lapsed⟩ { session with
      tree := session.tree.unsubscribe address.stream address.filter address.name spent
      journal := (session.journal.push (.grown
        (session.tree.unsubscribe address.stream address.filter address.name spent))).push
          (.pushed address.stream address.filter address.name) } := by
  obtain ⟨_, roster⟩ := orderly
  have listed : ∀ id ∈ spent, ∃ subscription,
      (address, subscription) ∈ subscribers.map (address, ·) ++ called ∧ subscription.id = id := by
    intro id member
    obtain ⟨subscription, listed, same⟩ := own id member
    exact ⟨subscription, List.mem_append_left _ (List.mem_map_of_mem listed), same⟩
  obtain ⟨owner, roster⟩ := roster.unsubscribe listed fun id member => by
    obtain ⟨other, subscription, listed, same⟩ := still id member
    exact ⟨other, subscription, List.mem_append_right _ listed, same⟩
  exact ⟨owner, roster.write (.pushed address.stream address.filter address.name)
    ⟨pushed, called, lapsed⟩ rfl (fun _ _ _ shown => by cases shown)
    (fun _ _ _ same => by cases same)
    (fun pair member => ⟨List.mem_append_right _ member, within pair member⟩)
    (fun _ _ ends => by cases ends) (fun _ member => member) still⟩

section Callees

variable {callees : Callees σ}
  (callbacks : ∀ (pushes : Pushes) reference delivery,
    Keeps (Orderly pushes) False True (callees.callback reference delivery))
include callbacks

/-- A value is handed to a subscriber on a list; if that ends the subscription, it is
found to be over. -/
theorem meets_dispatch {pushed : List Address} {called : List (Address × Subscription)}
    {lapsed : List Nat} (delivery : Delivery) (orderly : Orderly ⟨pushed, called, lapsed⟩ session)
    {subscription : Subscription} (listed : (delivery.address, subscription) ∈ called) :
    (dispatch callees (.subscription subscription.id) subscription.callback delivery).Meets session
      (fun outcome after => Orderly ⟨pushed, called,
        lapsed ++ if outcome.endsSubscription then [subscription.id] else []⟩ after)
      (fun _ _ => False) (fun _ _ => False) := by
  have skipped : Orderly ⟨pushed, called, lapsed ++ []⟩ session := (List.append_nil lapsed).symm ▸ orderly
  refine meets_dispatch_of (callbacks ⟨pushed, called, lapsed⟩ _ _) (fun _ => ?enter)
    (fun _ => skipped.push rfl) ?returned ?panicked fun outcome => (slack _).toPliant
  case enter =>
    obtain ⟨owner, roster⟩ := orderly
    exact ⟨owner, roster.enter listed⟩
  case returned =>
    rintro code between ⟨owner, roster⟩
    have left := roster.leave listed (if code = 0 then .succeeded else .failed)
    by_cases zero : code = 0 <;>
      exact ⟨owner, by simpa [DispatchOutcome.endsSubscription, zero] using left⟩
  case panicked =>
    rintro between ⟨owner, roster⟩
    exact ⟨owner, roster.leave listed .panicked⟩

/-- A value is pushed.  When the push is through, all is as it was before: what it has
found to be over is gone. -/
theorem keeps_publish (pushes : Pushes) (stream : StreamId) (filter name : String)
    (value : Value) :
    Keeps (Orderly pushes) True True (publish callees stream filter name value) := by
  intro session orderly
  obtain ⟨pushed, called, lapsed⟩ := pushes
  have ⟨_, roster⟩ := orderly
  let address : Address := ⟨stream, filter, name⟩
  refine keeps_publish_of (P := Orderly ⟨pushed, called, lapsed⟩)
    (R := fun waiting spent session => ∃ subscribers : List Subscription, waiting ⊆ subscribers ∧
      (∀ id ∈ spent, ∃ subscription ∈ subscribers, subscription.id = id) ∧
        Orderly ⟨address :: pushed, subscribers.map (address, ·) ++ called, lapsed ++ spent⟩ session)
    ?begin ?turn ?finish session orderly
  case begin =>
    intro session subscribers tree stored orderly
    have begun := orderly.begin address stored
    exact ⟨subscribers, List.Subset.refl _, fun _ member => (List.not_mem_nil member).elim,
      (List.append_nil lapsed).symm ▸ begun⟩
  case turn =>
    rintro subscription rest spent session ⟨subscribers, among, own, orderly⟩
    have listed := among List.mem_cons_self
    refine (meets_dispatch callbacks _ orderly (List.mem_append_left _
      (List.mem_map_of_mem listed))).imp fun outcome after orderly => ?_
    rw [List.append_assoc] at orderly
    refine ⟨subscribers, fun _ member => among (List.mem_cons_of_mem _ member), ?_, orderly⟩
    rw [List.forall_mem_append]
    refine ⟨own, fun id member => ⟨subscription, listed, ?_⟩⟩
    split at member
    · exact (List.mem_singleton.mp member).symm
    · exact (List.not_mem_nil member).elim
  case finish =>
    rintro spent session ⟨subscribers, _, own, orderly⟩
    exact orderly.finish own (fun pair member => (roster.called pair.1 pair.2 member).1) roster.lapsed

end Callees

/-- User code keeps the roster, whatever is being pushed. -/
theorem keeps_run {α : Type} (code : UserCode σ) (pushes : Pushes) (program : Program σ α) :
    Keeps (Orderly pushes) False True (code.run program) :=
  Slack.keeps_run_of code slack (fun _ => keeps_publish) pushes program

theorem keeps_drain (code : UserCode σ) (pushes : Pushes) :
    Keeps (Orderly pushes) False False (drain code.callees) :=
  Slack.keeps_drain_of code slack (fun _ => keeps_publish) pushes

end Orderly

end Session

namespace Host

open StreamControl.Action Session Journal

variable {σ : Type}

/-! ## Histories -/

/-- Between operations nothing is being pushed. -/
theorem enduring_orderly (code : UserCode σ) :
    Enduring code fun host => Orderly {} host.session := by
  intro deed before after does orderly
  cases does with
  | stir before after session =>
    rw [session]
    exact orderly
  | write _ ofHost => exact orderly.push (Entry.isAside_of_isOfHost ofHost)
  | send _ channel => exact (Orderly.slack {}).channel channel orderly
  | fail =>
    exact (Orderly.slack {}).channel _ (((orderly.push rfl).push rfl).push rfl)
  | run _ program _ ends | outside _ program ends =>
    exact (Orderly.keeps_run code {} program).of_ne_exhausted orderly ends
  | drain _ ends => exact (Orderly.keeps_drain code {}).of_ne_exhausted orderly ends
  | attach => exact orderly.plant (ParameterTree.undisturbed_addStream _).toResubscribed
  | enroll _ added => exact orderly.plant (ParameterTree.undisturbed_addFilter added).toResubscribed
  | mark _ marked => exact orderly.plant (ParameterTree.undisturbed_setStarted marked).toResubscribed
  | settle _ stream => exact orderly.plant (ParameterTree.undisturbed_dropUnkept stream).toResubscribed
  | forget _ stream => exact orderly.plant (ParameterTree.undisturbed_removeStream stream).toResubscribed
  | skip | shutDown => exact orderly
  | announce | join | leave => exact orderly.push rfl
  | discard | close =>
    obtain ⟨owner, roster⟩ := orderly
    exact ⟨owner, { roster with }⟩

theorem orderly_new (channel : Broadcast Event) (config : Config) (memory : σ) :
    Orderly {} (onChannel channel config memory).session :=
  ⟨fun _ => default,
    { underWay := rfl
      tree := fun _ _ member => (List.not_mem_nil member).elim
      journal := fun _ member => (List.not_mem_nil member).elim
      called := fun _ _ member => (List.not_mem_nil member).elim
      ended := fun _ _ member => (List.not_mem_nil member).elim
      lapsed := fun _ member => (List.not_mem_nil member).elim
      lingers := fun earlier _ _ split => by cases earlier <;> cases split }⟩

variable {code : UserCode σ} {history : History σ}

theorem History.roster (reachable : history.Reachable code) : Orderly {} history.host.session := by
  obtain ⟨config, memory, host, created, leads⟩ := reachable
  obtain ⟨channel, rfl⟩ := eq_of_create created
  exact leads.endures (enduring_orderly code) (orderly_new channel config memory)

/-- **A subscription that has ended is called again only by pushes that are under
way.**  When a callback that has ended its subscription is called on its behalf once
more, a push of its parameter has been under way all the time in between.  Between
operations nothing is being pushed and what has ended is gone, so from the operation
on in which it ended a subscription is silent. -/
theorem ended_silent (reachable : history.Reachable code) :
    underWay history.host.session.journal.toList = [] ∧
    (∀ address subscription, subscription ∈ history.host.session.tree.subscriptionsAt address →
      ¬ Ended history.host.session.journal.toList subscription.id) ∧
    (∀ earlier between later id callback again delivery repeated exit,
      history.host.session.journal.toList =
        earlier ++ .left (.callback (.subscription id) callback delivery) exit :: between ++
          .entered (.callback (.subscription id) again repeated) :: later →
      exit ≠ .succeeded →
        again = callback ∧ repeated.address = delivery.address ∧
          ∀ shown, shown <+: between → delivery.address ∈ underWay
            (earlier ++ .left (.callback (.subscription id) callback delivery) exit :: shown)) ∧
    ∀ id, Ended history.host.session.journal.toList id → ∀ later, history.Leads code later →
      ∀ entries, later.host.session.journal.toList =
          history.host.session.journal.toList ++ entries →
        ∀ callback delivery,
          .entered (.callback (.subscription id) callback delivery) ∉ entries := by
  obtain ⟨owner, roster⟩ := History.roster reachable
  refine ⟨roster.underWay, fun address subscription member ended => ?_, ?_, ?_⟩
  · exact List.not_mem_nil (roster.ended address subscription member ended)
  · intro earlier between later id callback again delivery repeated exit split fails
    have first := (roster.journal (.left (.callback (.subscription id) callback delivery) exit)
      (by simp [split]) id callback delivery rfl).2
    have second := (roster.journal (.entered (.callback (.subscription id) again repeated))
      (by simp [split]) id again repeated rfl).2
    rw [first, Prod.mk.injEq] at second
    refine ⟨second.2.symm, second.1.symm, ?_⟩
    refine roster.lingers _ _ later split id again repeated rfl earlier _ between delivery.address
      rfl ?_
    rw [Entry.ended?, if_neg fails]
  · intro id ended later leads entries written callback delivery member
    obtain ⟨owner, roster'⟩ := History.roster (reachable.leads leads)
    obtain ⟨before, after, rfl⟩ := List.append_of_mem member
    rw [← List.append_assoc] at written
    obtain ⟨last, among, address, ends⟩ := ended
    obtain ⟨earlier, rest, split⟩ := List.append_of_mem among
    have lingers := roster'.lingers _ _ after written id callback delivery rfl
    rw [split, List.append_assoc, List.cons_append] at lingers
    -- A push would have to be under way between the two operations.
    have pushed := lingers earlier last _ address rfl ends rest (List.prefix_append _ _)
    rw [← split, roster.underWay] at pushed
    cases pushed

/-- User code whose filter makes a parameter; the first callback returns a code other
than zero, and the second pushes once more. -/
def echoCode : UserCode Unit :=
  { gainCode with
    callback := fun reference delivery =>
      match reference, delivery.value with
      | 0, _ => .done 1
      | _, .bool false =>
        .ask (.push ⟨delivery.stream, delivery.filter⟩ delivery.parameter (.bool true)) fun _ =>
          .done 0
      | _, _ => .done 0
    nesting := 2 }

/-- A history in which both callbacks are subscribed to the parameter, and a value is
pushed. -/
def echoHistory : History Unit :=
  .after echoCode { episodes := [], host := freshHost }
    [.addStream (FilterGraph.empty.append "source" (some 0)),
      .outside (.ask (.subscribe ⟨1⟩ "source" (some "gain") .bool { code := 0 } {} {}) fun _ =>
        .done ()),
      .outside (.ask (.subscribe ⟨1⟩ "source" (some "gain") .bool { code := 1 } {} {}) fun _ =>
        .done ()),
      .outside (.ask (.push ⟨⟨1⟩, "source"⟩ "gain" (.bool false)) fun _ => .done ())]

theorem echoHistory_reachable : echoHistory.Reachable echoCode := by
  refine ⟨_, _, _, create_freshHost, History.leads_after _
    ⟨⟨⟨?_, ?attach⟩, ?_⟩, ⟨⟨?_, nofun⟩, ?_⟩, ⟨⟨?_, nofun⟩, ?_⟩, ⟨⟨?_, nofun⟩, ?_⟩, trivial⟩⟩
  case attach =>
    intro graph same
    cases same
    exact .add .new rfl
  all_goals decide +kernel

/-- What the callbacks are handed in the end. -/
def echoDelivery (value : Bool) : Delivery :=
  { value := .bool value, stream := ⟨1⟩, filter := "source", parameter := "gain", context := {} }

/-- The second callback pushes while the first push is under way, and so the first
callback is called again although it has ended its subscription. -/
theorem ended_silent_echo :
    ∃ earlier between later, echoHistory.host.session.journal.toList =
        earlier ++ .left (.callback (.subscription 0) { code := 0 } (echoDelivery false)) .failed ::
          between ++ .entered (.callback (.subscription 0) { code := 0 } (echoDelivery true)) :: later ∧
      (echoDelivery false).address ∈ underWay (earlier ++
        .left (.callback (.subscription 0) { code := 0 } (echoDelivery false)) .failed :: between) ∧
      underWay echoHistory.host.session.journal.toList = [] := by
  have split : echoHistory.host.session.journal.toList =
      echoHistory.host.session.journal.toList.take 12 ++
        .left (.callback (.subscription 0) { code := 0 } (echoDelivery false)) .failed ::
          (echoHistory.host.session.journal.toList.drop 13).take 6 ++
        .entered (.callback (.subscription 0) { code := 0 } (echoDelivery true)) ::
          echoHistory.host.session.journal.toList.drop 20 := by
    decide +kernel
  have silent := ended_silent echoHistory_reachable
  have repeated := silent.2.2.1 _ _ _ 0 _ _ _ _ _ split (by decide)
  exact ⟨_, _, _, split, repeated.2.2 _ List.prefix_rfl, silent.1⟩

end Host

end StreamControl
