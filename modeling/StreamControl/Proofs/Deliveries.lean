import Mathlib.Data.List.Forall2
import Mathlib.Data.List.Infix
import Mathlib.Data.List.Nodup
import StreamControl.Proofs.Silence

/-!
# What subscribers are handed last

A push stores its value and then hands it to the subscribers one after the other.  A
callback may push in turn: the inner push is through before the outer one goes on, and
so the subscribers that the outer push has yet to call are handed the newer value
first and the older one last.  Only they are: whoever was subscribed when the outermost
push began is in the end left with the current value, unless the callback of an earlier
subscriber was being called when the last push of the parameter began, and then with
what the outermost such call was handing over (`Host.last_handed`).

`Session.Agenda` is the invariant.  It foretells what a subscription will have been
handed last when the pushes under way are through (`Round.foretold`): a step that hands
something over makes one of the foretold deliveries and leaves what is foretold as it
was.
-/

set_option autoImplicit false

namespace StreamControl

/-! ## What the journal says of deliveries -/

namespace Entry

/-- The parameter whose push begins. -/
def pushes? : Entry → Option Address
  | pushing stream filter parameter => some ⟨stream, filter, parameter⟩
  | _ => none

/-- The calls of subscribers' callbacks that are under way after an entry, given those
before. -/
def callsFrom (calls : List (Nat × Delivery)) : Entry → List (Nat × Delivery)
  | entered (.callback (.subscription id) _ delivery) => (id, delivery) :: calls
  | left (.callback (.subscription _) _ _) _ => calls.tail
  | _ => calls

/-- The value that the callback of a subscription is handed. -/
def handedTo? (id : Nat) : Entry → Option Value
  | entered (.callback (.subscription other) _ delivery) =>
    if other = id then some delivery.value else none
  | _ => none

variable {entry : Entry}

theorem pushes?_of_isAside (aside : entry.isAside = true) : entry.pushes? = none := by
  cases entry <;> first | rfl | cases aside

theorem callsFrom_of_isAside (aside : entry.isAside = true) (calls : List (Nat × Delivery)) :
    entry.callsFrom calls = calls := by
  have silent := subscriber?_of_isAside aside
  unfold callsFrom
  split <;> first | rfl | cases silent

theorem handedTo?_of_isAside (aside : entry.isAside = true) (id : Nat) :
    entry.handedTo? id = none := by
  have silent := subscriber?_of_isAside aside
  unfold handedTo?
  split <;> first | rfl | cases silent

end Entry

namespace Journal

/-- The calls of subscribers' callbacks that are under way after some entries, with the
numbers of the subscriptions, the call that began last first. -/
def calls (entries : List Entry) : List (Nat × Delivery) := entries.foldl Entry.callsFrom []

/-- The value that the callback of a subscription was handed last. -/
def lastHanded (entries : List Entry) (id : Nat) : Option Value :=
  (entries.filterMap (Entry.handedTo? id)).getLast?

/-- What was there before the outermost push under way began: everything, if no push is
under way. -/
def outset (entries : List Entry) : List Entry :=
  (entries.inits.reverse.find? fun shown => underWay shown = []).getD []

/-- The last push of a parameter began right after some of the entries. -/
def LastPushed (entries earlier : List Entry) (address : Address) : Prop :=
  ∃ entry later, entries = earlier ++ entry :: later ∧ entry.pushes? = some address ∧
    ∀ other ∈ later, other.pushes? ≠ some address

/-- Whether a call is one of an earlier subscriber to a parameter. -/
def Precedes (address : Address) (id : Nat) (call : Nat × Delivery) : Prop :=
  call.2.address = address ∧ call.1 < id

instance (address : Address) (id : Nat) (call : Nat × Delivery) :
    Decidable (Precedes address id call) :=
  inferInstanceAs (Decidable (call.2.address = address ∧ call.1 < id))

/-- What the outermost call of an earlier subscriber hands over, or another value if
there is no such call. -/
def overruled (address : Address) (id : Nat) (value : Value) (calls : List (Nat × Delivery)) :
    Value :=
  calls.foldl (fun value call => if Precedes address id call then call.2.value else value) value

/-- A moment at which nothing is being pushed.  A push that begins has already stored its
value. -/
def AtRest (journal : Journal) (moment : List Entry) : Prop :=
  underWay moment = [] ∧ ∃ later, journal.toList = moment ++ later ∧
    ∀ entry, later.head? = some entry → entry.pushes? = none

/-- A subscription to a parameter whose last push began after the earlier entries, and
which was there when the outermost push around it began. -/
structure Attended (moment earlier : List Entry) (address : Address) (parameter : Parameter)
    (subscription : Subscription) : Prop where
  /-- The last push of the parameter began then. -/
  pushed : LastPushed moment earlier address
  /-- The parameter is there. -/
  found : (treeAfter moment).parameter? address = some parameter
  /-- It has the subscription. -/
  among : subscription ∈ parameter.subscriptions
  /-- The callback can be called. -/
  wellFormed : subscription.callback.isWellFormed = true
  /-- The parameter had the subscription at the outset. -/
  registered : subscription ∈ (treeAfter (outset earlier)).subscriptionsAt address

/-- Such subscriptions have been handed last what the outermost call of an earlier
subscriber was handing over when the last push began, or else the current value. -/
def Settled (moment : List Entry) : Prop :=
  ∀ earlier address parameter subscription,
    Attended moment earlier address parameter subscription →
      lastHanded moment subscription.id =
        some (overruled address subscription.id parameter.value (calls earlier))

variable {entries earlier : List Entry} {entry : Entry} {address : Address} {id : Nat}

theorem calls_concat : calls (entries ++ [entry]) = entry.callsFrom (calls entries) := by
  rw [calls, calls, List.foldl_append]
  rfl

theorem lastHanded_concat :
    lastHanded (entries ++ [entry]) id = (entry.handedTo? id).or (lastHanded entries id) := by
  rw [lastHanded, lastHanded, List.filterMap_append, List.getLast?_append]
  cases shown : entry.handedTo? id <;> simp [shown]

theorem outset_concat : outset (entries ++ [entry]) =
    if underWay (entries ++ [entry]) = [] then entries ++ [entry] else outset entries := by
  rw [outset, outset, List.inits_append]
  simp only [List.inits, List.tail_cons, List.map_cons, List.map_nil, List.reverse_append,
    List.reverse_cons, List.reverse_nil, List.nil_append, List.singleton_append, List.find?_cons]
  by_cases quiet : underWay (entries ++ [entry]) = [] <;> simp [quiet]

theorem isPrefix_outset (entries : List Entry) : outset entries <+: entries := by
  rw [outset]
  cases found : entries.inits.reverse.find? fun shown => underWay shown = [] with
  | none => exact List.nil_prefix
  | some shown => exact (List.mem_inits _ _).mp (List.mem_reverse.mp (List.mem_of_find?_eq_some found))

theorem lastPushed_concat (pushed : LastPushed (entries ++ [entry]) earlier address) :
    (entry.pushes? = some address ∧ earlier = entries) ∨
      entry.pushes? ≠ some address ∧ LastPushed entries earlier address := by
  obtain ⟨first, later, split, pushes, none⟩ := pushed
  rcases eq_last_or_before split with ⟨rfl, rfl, -⟩ | ⟨before, same, rfl⟩
  · exact .inl ⟨pushes, rfl⟩
  · rw [List.forall_mem_append, List.forall_mem_singleton] at none
    exact .inr ⟨none.2, first, before, same, pushes, none.1⟩

theorem LastPushed.isPrefix (pushed : LastPushed entries earlier address) : earlier <+: entries := by
  obtain ⟨entry, later, split, _⟩ := pushed
  exact ⟨entry :: later, split.symm⟩

theorem overruled_of_forall {calls : List (Nat × Delivery)} {value : Value}
    (none : ∀ call ∈ calls, ¬ Precedes address id call) :
    overruled address id value calls = value := by
  induction calls with
  | nil => rfl
  | cons call rest ih =>
    rw [overruled, List.foldl_cons, if_neg (none call List.mem_cons_self)]
    exact ih fun other member => none other (List.mem_cons_of_mem _ member)

theorem overruled_of_split {inner outer : List (Nat × Delivery)} {call : Nat × Delivery}
    {value : Value} (precedes : Precedes address id call)
    (none : ∀ call ∈ outer, ¬ Precedes address id call) :
    overruled address id value (inner ++ call :: outer) = call.2.value := by
  rw [overruled, List.foldl_append, List.foldl_cons, if_pos precedes]
  exact overruled_of_forall none

end Journal

/-! ## Rounds -/

open Journal

/-- A push that is under way. -/
structure Round where
  /-- The parameter. -/
  address : Address
  /-- The value that is handed over. -/
  value : Value
  /-- Subscriptions with smaller numbers have had it. -/
  reached : Nat
  /-- The subscriptions that have yet to be handed it, in order. -/
  waiting : List Subscription

namespace Round

/-- Whether a call is the one that the push is making. -/
def Makes (round : Round) (call : Nat × Delivery) : Prop :=
  call.2.address = round.address ∧ call.2.value = round.value ∧ call.1 + 1 = round.reached

/-- What a subscription will have been handed last when the pushes are through, of which
the one that began last goes on first. -/
def foretold (subscription : Subscription) (handed : Option Value) (rounds : List Round) :
    Option Value :=
  rounds.foldl
    (fun value round => if subscription ∈ round.waiting then some round.value else value) handed

/-- A push of a parameter goes through the subscriptions in order, and passes over none
that was there at the outset. -/
structure Serves (round : Round) (start tree : ParameterTree) : Prop where
  /-- The numbers of those that wait go up. -/
  inOrder : round.waiting.Pairwise fun one two => one.id < two.id
  /-- Their turn is still to come. -/
  ahead : ∀ subscription ∈ round.waiting, round.reached ≤ subscription.id
  /-- They have been numbered. -/
  numbered : ∀ subscription ∈ round.waiting, subscription.id < tree.nextSubscription
  /-- Nothing else in the tree has the number of one that waits. -/
  alone : ∀ subscription ∈ round.waiting, ∀ address other,
    other ∈ tree.subscriptionsAt address → other.id = subscription.id →
      address = round.address ∧ other = subscription
  /-- Those that do not wait have had their turn. -/
  all : ∀ subscription ∈ tree.subscriptionsAt round.address,
    subscription ∈ start.subscriptionsAt round.address →
      subscription ∈ round.waiting ∨ subscription.id < round.reached

variable {round : Round} {start tree after : ParameterTree} {subscription : Subscription}
  {address : Address} {rest : List Subscription}

theorem Serves.change (serves : round.Serves start tree) (changed : tree.Resubscribed after)
    (early : ∀ subscription ∈ start.subscriptionsAt round.address,
      subscription.id < tree.nextSubscription) : round.Serves start after where
  inOrder := serves.inOrder
  ahead := serves.ahead
  numbered _ member := Nat.lt_of_lt_of_le (serves.numbered _ member) changed.next
  alone _ member address other there same :=
    serves.alone _ member address other
      (changed.old address other there (same ▸ serves.numbered _ member)) same
  all subscription there was :=
    serves.all _ (changed.old _ _ there (early subscription was)) was

/-- A push that begins has all subscriptions of its parameter wait. -/
theorem serves_begin (numbered : tree.Numbered) (start : ParameterTree) (address : Address)
    (value : Value) :
    Serves { address, value, reached := 0, waiting := tree.subscriptionsAt address } start tree where
  inOrder := numbered.inOrder address
  ahead _ _ := Nat.zero_le _
  numbered := numbered.below address
  all _ there _ := .inl there
  alone := numbered.alone address

/-- The first of those that wait has its turn. -/
theorem Serves.next (serves : Serves { round with waiting := subscription :: rest } start tree) :
    Serves { round with reached := subscription.id + 1, waiting := rest } start tree where
  inOrder := (List.pairwise_cons.mp serves.inOrder).2
  ahead other member := (List.pairwise_cons.mp serves.inOrder).1 other member
  numbered other member := serves.numbered other (List.mem_cons_of_mem _ member)
  alone other member := serves.alone other (List.mem_cons_of_mem _ member)
  all other there was := by
    dsimp only
    rcases serves.all other there was with waits | passed
    · rcases List.mem_cons.mp waits with rfl | later
      · exact .inr (Nat.lt_succ_self _)
      · exact .inl later
    · exact .inr (Nat.lt_succ_of_lt
        (Nat.lt_of_lt_of_le passed (serves.ahead subscription List.mem_cons_self)))

/-- A subscription waits for a push that is making a call if the call is one of an
earlier subscriber to its parameter. -/
theorem Serves.mem_waiting_iff (serves : round.Serves start tree) {call : Nat × Delivery}
    (makes : round.Makes call) (there : subscription ∈ tree.subscriptionsAt address)
    (was : subscription ∈ start.subscriptionsAt address) :
    subscription ∈ round.waiting ↔ Precedes address subscription.id call := by
  obtain ⟨here, _, reached⟩ := makes
  constructor
  · intro waits
    have same := (serves.alone subscription waits address subscription there rfl).1
    have ahead := serves.ahead subscription waits
    exact ⟨here.trans same.symm, by omega⟩
  · rintro ⟨same, before⟩
    have same : round.address = address := here.symm.trans same
    rcases serves.all subscription (same ▸ there) (same ▸ was) with waits | passed
    · exact waits
    · omega

/-- What the pushes that are making calls have yet to hand over is what the calls of
earlier subscribers hand over. -/
theorem foretold_eq_overruled {calls : List (Nat × Delivery)} {rounds : List Round}
    (makes : List.Forall₂ (fun call round => round.Makes call) calls rounds)
    (serves : ∀ round ∈ rounds, round.Serves start tree)
    (there : subscription ∈ tree.subscriptionsAt address)
    (was : subscription ∈ start.subscriptionsAt address) (value : Value) :
    foretold subscription (some value) rounds =
      some (overruled address subscription.id value calls) := by
  induction makes generalizing value with
  | nil => rfl
  | @cons call round calls rounds makes _ ih =>
    have waits := (serves round List.mem_cons_self).mem_waiting_iff makes there was
    have further := ih fun other member => serves other (List.mem_cons_of_mem _ member)
    rw [foretold, List.foldl_cons, overruled, List.foldl_cons]
    by_cases precedes : Precedes address subscription.id call
    · rw [if_pos (waits.mpr precedes), if_pos precedes, ← makes.2.1]
      exact further call.2.value
    · rw [if_neg fun member => precedes (waits.mp member), if_neg precedes]
      exact further value

end Round

namespace Session

open StreamControl.Action

variable {σ : Type}

/-! ## The agenda of the pushes under way -/

/-- How far the pushes that are under way have come, of which some are making calls. -/
structure Progress (rounds calling : List Round) (session : Session σ) : Prop where
  /-- The journal shows the tree. -/
  tree : session.tree = treeAfter session.journal.toList
  /-- Subscriptions have owners. -/
  owned : ∃ owner, session.tree.OwnedBy owner
  /-- They are in order. -/
  inOrder : session.tree.InOrder
  /-- Those that there have ever been have been numbered. -/
  early : ∀ earlier, earlier <+: session.journal.toList → ∀ address subscription,
    subscription ∈ (treeAfter earlier).subscriptionsAt address →
      subscription.id < session.tree.nextSubscription
  /-- These pushes are under way. -/
  underWay : Journal.underWay session.journal.toList = rounds.map (·.address)
  /-- These calls are. -/
  calls : List.Forall₂ (fun call round => Round.Makes round call)
    (Journal.calls session.journal.toList) calling
  /-- The pushes go through the subscriptions in order. -/
  serves : ∀ round ∈ rounds, round.Serves (treeAfter (outset session.journal.toList)) session.tree
  /-- Whenever nothing was being pushed, it was settled what had been handed over. -/
  past : session.journal.Throughout fun moment entry =>
    entry.pushes? = none → Journal.underWay moment = [] → Settled moment

/-- How far the pushes have come, and what they will have handed over when they are
through. -/
structure Agenda (rounds calling : List Round) (session : Session σ) : Prop extends
    Progress rounds calling session where
  /-- It is settled what a subscription will have been handed last. -/
  foretold : ∀ earlier address parameter subscription,
    Attended session.journal.toList earlier address parameter subscription →
      Round.foretold subscription (lastHanded session.journal.toList subscription.id) rounds =
        some (overruled address subscription.id parameter.value (Journal.calls earlier))

/-- When nothing is being pushed, what was foretold has come true. -/
theorem Agenda.present {rounds calling : List Round} {session : Session σ}
    (agenda : Agenda rounds calling session)
    (quiet : Journal.underWay session.journal.toList = []) : Settled session.journal.toList := by
  rw [agenda.underWay, List.map_eq_nil_iff] at quiet
  subst quiet
  exact agenda.foretold

section Steps

variable {rounds calling rounds' calling' : List Round} {session : Session σ} {entry : Entry}
  {after : ParameterTree}

/-- An entry is written, and the tree may be changed. -/
theorem Progress.write (progress : Progress rounds calling session)
    (grows : entry.treeFrom session.tree = after) (changed : session.tree.Resubscribed after)
    (inOrder : after.InOrder)
    (underWay : entry.pushesFrom (rounds.map (·.address)) = rounds'.map (·.address))
    (calls : List.Forall₂ (fun call round => Round.Makes round call)
      (entry.callsFrom (Journal.calls session.journal.toList)) calling')
    (serves : ∀ round ∈ rounds',
      round.Serves (treeAfter (outset session.journal.toList)) session.tree)
    (settled : entry.pushes? = none → Journal.underWay session.journal.toList = [] →
      Settled session.journal.toList) :
    Progress rounds' calling' { session with
      tree := after, journal := session.journal.push entry } := by
  have tree : treeAfter (session.journal.toList ++ [entry]) = after := by
    rw [treeAfter_concat, ← progress.tree, grows]
  have pushed : Journal.underWay (session.journal.toList ++ [entry]) = rounds'.map (·.address) := by
    rw [underWay_concat, progress.underWay, underWay]
  obtain ⟨owner, owned⟩ := progress.owned
  obtain ⟨further, _, owned'⟩ := changed.owned owner owned
  refine { tree := ?tree, owned := ⟨further, owned'⟩, inOrder := inOrder, early := ?early,
           underWay := ?underWay, calls := ?calls, serves := ?serves,
           past := progress.past.push settled } <;> dsimp only <;> rw [Array.toList_push]
  case tree => exact tree.symm
  case early =>
    intro earlier isPrefix address subscription member
    rcases List.prefix_concat_iff.mp isPrefix with rfl | before
    · exact (owned' address subscription (tree ▸ member)).1
    · exact Nat.lt_of_lt_of_le (progress.early earlier before address subscription member)
        changed.next
  case underWay => exact pushed
  case calls =>
    rw [calls_concat]
    exact calls
  case serves =>
    intro round member
    -- As long as something is being pushed, the outset is the same.
    rw [outset_concat, pushed, if_neg fun none =>
      List.ne_nil_of_mem member (List.map_eq_nil_iff.mp none)]
    exact (serves round member).change changed fun subscription was =>
      progress.early _ (isPrefix_outset _) _ subscription was

/-- Whatever the pushes do when an entry is written that begins none of them, what is
foretold stays the same. -/
theorem Agenda.note (agenda : Agenda rounds calling session) (begins : entry.pushes? = none)
    (grows : entry.treeFrom session.tree = after) (undisturbed : session.tree.Undisturbed after)
    (underWay : entry.pushesFrom (rounds.map (·.address)) = rounds'.map (·.address))
    (calls : List.Forall₂ (fun call round => Round.Makes round call)
      (entry.callsFrom (Journal.calls session.journal.toList)) calling')
    (serves : ∀ round ∈ rounds',
      round.Serves (treeAfter (outset session.journal.toList)) session.tree)
    (foretold : ∀ address subscription, subscription ∈ session.tree.subscriptionsAt address →
      subscription.callback.isWellFormed = true →
        Round.foretold subscription
            ((entry.handedTo? subscription.id).or
              (lastHanded session.journal.toList subscription.id)) rounds' =
          Round.foretold subscription (lastHanded session.journal.toList subscription.id) rounds) :
    Agenda rounds' calling' { session with
      tree := after, journal := session.journal.push entry } := by
  obtain ⟨owner, owned⟩ := agenda.owned
  refine { agenda.toProgress.write grows undisturbed.toResubscribed
    (undisturbed.inOrder owner owned agenda.inOrder) underWay calls serves
      fun _ => agenda.present with foretold := ?_ }
  intro earlier address parameter subscription attended
  dsimp only at attended ⊢
  rw [Array.toList_push] at attended ⊢
  obtain ⟨last, found, among, wellFormed, registered⟩ := attended
  rw [treeAfter_concat, ← agenda.tree, grows] at found
  rcases lastPushed_concat last with ⟨pushes, _⟩ | ⟨_, last⟩
  · rw [begins] at pushes
    cases pushes
  · obtain ⟨old, there, same, among'⟩ := undisturbed.found found among
      (agenda.early _ ((isPrefix_outset _).trans last.isPrefix) _ subscription registered)
    have was := agenda.foretold earlier address old subscription
      ⟨last, agenda.tree ▸ there, among', wellFormed, registered⟩
    rw [lastHanded_concat, ← same, ← was]
    exact foretold address subscription
      (ParameterTree.mem_subscriptionsAt.mpr ⟨old, there, among'⟩) wellFormed

end Steps

namespace Agenda

variable {rounds calling : List Round} {session : Session σ}

/-- An entry is written that is about neither a push nor a subscription. -/
theorem beside (agenda : Agenda rounds calling session) {entry : Entry} {after : ParameterTree}
    (aside : entry.isAside = true) (grows : entry.treeFrom session.tree = after)
    (undisturbed : session.tree.Undisturbed after) :
    Agenda rounds calling { session with tree := after, journal := session.journal.push entry } :=
  agenda.note (Entry.pushes?_of_isAside aside) grows undisturbed
    (Entry.pushesFrom_of_isAside aside _)
    (by rw [Entry.callsFrom_of_isAside aside]; exact agenda.calls) agenda.serves
    fun _ _ _ _ => by rw [Entry.handedTo?_of_isAside aside, Option.none_or]

theorem write (agenda : Agenda rounds calling session) {entry : Entry}
    (aside : entry.isAside = true) (grows : entry.treeFrom session.tree = session.tree) :
    Agenda rounds calling { session with journal := session.journal.push entry } :=
  agenda.beside aside grows (.refl _)

/-- The tree is changed, but for a value, and that is noted. -/
theorem plant (agenda : Agenda rounds calling session) {tree : ParameterTree}
    (undisturbed : session.tree.Undisturbed tree) :
    Agenda rounds calling
      { session with tree, journal := session.journal.push (.grown tree) } :=
  agenda.beside rfl rfl undisturbed

/-- When a push begins, its value is foretold to the subscriptions of the parameter unless
a push that is making a call to an earlier one has yet to come to them; what is foretold to
all others stays the same. -/
theorem foretold_begin (agenda : Agenda rounds rounds session) {address : Address} {value : Value}
    {subscribers : List Subscription} {tree : ParameterTree}
    (stored : session.tree.store address.stream address.filter address.name value =
      .ok (subscribers, tree))
    (serves : ∀ round ∈ rounds,
      round.Serves (treeAfter (outset (session.journal.toList ++ [.grown tree]))) tree)
    (waits : Round.Serves ⟨address, value, 0, subscribers⟩ tree tree) {earlier : List Entry}
    {other : Address} {parameter : Parameter} {subscription : Subscription}
    (attended : Attended (session.journal.toList ++ [.grown tree] ++
      [.pushing address.stream address.filter address.name]) earlier other parameter subscription) :
    Round.foretold subscription
        (lastHanded (session.journal.toList ++ [.grown tree] ++
          [.pushing address.stream address.filter address.name]) subscription.id)
        (⟨address, value, 0, subscribers⟩ :: rounds) =
      some (overruled other subscription.id parameter.value (Journal.calls earlier)) := by
  obtain ⟨same, _, stores⟩ := ParameterTree.store_eq_ok address stored
  obtain ⟨last, found, among, wellFormed, registered⟩ := attended
  have found : tree.parameter? other = some parameter := by
    rw [treeAfter_concat, treeAfter_concat] at found
    exact found
  have member : subscription ∈ tree.subscriptionsAt other :=
    ParameterTree.mem_subscriptionsAt.mpr ⟨parameter, found, among⟩
  rw [stores] at found
  rw [lastHanded_concat, lastHanded_concat, Round.foretold, List.foldl_cons]
  rcases lastPushed_concat last with ⟨pushes, rfl⟩ | ⟨others, last⟩
  · cases pushes
    rw [if_pos rfl, Option.map_eq_some_iff] at found
    obtain ⟨old, _, rfl⟩ := found
    rw [if_pos (same ▸ ParameterTree.subscriptionsAt_store address stored address ▸ member),
      calls_concat]
    exact Round.foretold_eq_overruled agenda.calls serves member registered value
  · rcases lastPushed_concat last with ⟨pushes, _⟩ | ⟨_, last⟩
    · cases pushes
    · have away : other ≠ address := fun here => others (here ▸ rfl)
      rw [if_neg away] at found
      rw [if_neg fun waiting =>
        away (waits.alone subscription waiting other subscription member rfl).1]
      exact agenda.foretold earlier other parameter subscription
        ⟨last, agenda.tree ▸ found, among, wellFormed, registered⟩

/-- A push begins: all subscriptions of the parameter wait for the value that has been
stored. -/
theorem begin (agenda : Agenda rounds rounds session) (address : Address) {value : Value}
    {subscribers : List Subscription} {tree : ParameterTree}
    (stored : session.tree.store address.stream address.filter address.name value =
      .ok (subscribers, tree)) :
    Agenda (⟨address, value, 0, subscribers⟩ :: rounds) rounds { session with
      tree, journal := (session.journal.push (.grown tree)).push
        (.pushing address.stream address.filter address.name) } := by
  have there := ParameterTree.subscriptionsAt_store address stored
  have inOrder : tree.InOrder := fun other => there other ▸ agenda.inOrder other
  -- In between the value has been stored and nobody waits for it yet.
  have noted : Progress rounds rounds { session with
      tree, journal := session.journal.push (.grown tree) } :=
    agenda.toProgress.write rfl (ParameterTree.resubscribed_store stored) inOrder rfl agenda.calls
      agenda.serves fun _ => agenda.present
  obtain ⟨owner, owned⟩ := noted.owned
  have waits : ∀ start, Round.Serves ⟨address, value, 0, subscribers⟩ start tree := by
    rw [(ParameterTree.store_eq_ok address stored).1, ← there]
    exact fun start => Round.serves_begin (owned.numbered inOrder) start address value
  have begun : Progress (⟨address, value, 0, subscribers⟩ :: rounds) rounds { session with
      tree, journal := (session.journal.push (.grown tree)).push
        (.pushing address.stream address.filter address.name) } :=
    noted.write rfl (ParameterTree.Undisturbed.refl tree).toResubscribed inOrder rfl noted.calls
      (List.forall_mem_cons.mpr ⟨waits _, noted.serves⟩) fun none => by cases none
  have serves := noted.serves
  rw [Array.toList_push] at serves
  refine { begun with foretold := fun earlier other parameter subscription attended => ?_ }
  dsimp only at attended ⊢
  rw [Array.toList_push, Array.toList_push] at attended ⊢
  exact agenda.foretold_begin stored serves (waits tree) attended

section Turn

variable {round : Round} {subscription : Subscription} {rest : List Subscription}

/-- The first of those that wait has its turn, and the other pushes stay as they are. -/
theorem serves_next
    (agenda : Agenda ({ round with waiting := subscription :: rest } :: rounds) calling session) :
    ∀ other ∈ { round with reached := subscription.id + 1, waiting := rest } :: rounds,
      other.Serves (treeAfter (outset session.journal.toList)) session.tree := by
  have serves := List.forall_mem_cons.mp agenda.serves
  exact List.forall_mem_cons.mpr ⟨serves.1.next, serves.2⟩

/-- A subscriber is handed the value: what has been foretold of it from that push has come
true. -/
theorem enter (agenda : Agenda ({ round with waiting := subscription :: rest } :: rounds) rounds
      session) {delivery : Delivery} (address : delivery.address = round.address)
    (value : delivery.value = round.value) :
    Agenda ({ round with reached := subscription.id + 1, waiting := rest } :: rounds)
      ({ round with reached := subscription.id + 1, waiting := rest } :: rounds) { session with
        journal := session.journal.push
          (.entered (.callback (.subscription subscription.id) subscription.callback delivery)) } := by
  have serves := agenda.serves _ List.mem_cons_self
  refine agenda.note rfl rfl (.refl _) rfl (.cons ⟨address, value, rfl⟩ agenda.calls)
    agenda.serves_next ?_
  intro other one there _
  rw [Round.foretold, Round.foretold, List.foldl_cons, List.foldl_cons]
  by_cases turn : one = subscription
  · have passed : subscription ∉ rest := fun waits =>
      Nat.lt_irrefl _ ((List.pairwise_cons.mp serves.inOrder).1 subscription waits)
    rw [turn, if_neg passed, if_pos List.mem_cons_self, Entry.handedTo?, if_pos rfl, value]
    rfl
  · have different : subscription.id ≠ one.id := fun same =>
      turn (serves.alone subscription List.mem_cons_self other one there same.symm).2
    simp only [Entry.handedTo?, different, if_false, Option.none_or, List.mem_cons, turn, false_or]

/-- A subscriber that cannot be called is passed over. -/
theorem skip (agenda : Agenda ({ round with waiting := subscription :: rest } :: rounds) rounds
      session) {delivery : Delivery} (malformed : subscription.callback.isWellFormed = false) :
    Agenda ({ round with reached := subscription.id + 1, waiting := rest } :: rounds) rounds
      { session with
        journal := session.journal.push
          (.skipped (.subscription subscription.id) subscription.callback delivery) } := by
  refine agenda.note rfl rfl (.refl _) rfl agenda.calls agenda.serves_next ?_
  intro other one there wellFormed
  have different : one ≠ subscription := fun same => by
    rw [same, malformed] at wellFormed
    cases wellFormed
  rw [Round.foretold, Round.foretold, List.foldl_cons, List.foldl_cons]
  simp only [Entry.handedTo?, Option.none_or, List.mem_cons, different, false_or]

end Turn

/-- The call that a push was making has ended. -/
theorem leave {round : Round} (agenda : Agenda rounds (round :: calling) session) (id : Nat)
    (callback : Callback) (delivery : Delivery) (exit : Exit) :
    Agenda rounds calling { session with
      journal := session.journal.push
        (.left (.callback (.subscription id) callback delivery) exit) } := by
  have calls := agenda.calls
  refine agenda.note rfl rfl (.refl _) rfl ?_ agenda.serves fun _ _ _ _ => rfl
  cases under : Journal.calls session.journal.toList with
  | nil =>
    rw [under] at calls
    cases calls
  | cons call others =>
    rw [under] at calls
    exact (List.forall₂_cons.mp calls).2

/-- A push is through. -/
theorem finish {round : Round} (agenda : Agenda (round :: rounds) calling session)
    (through : round.waiting = []) (stream : StreamId) (filter name : String) :
    Agenda rounds calling { session with
      journal := session.journal.push (.pushed stream filter name) } := by
  refine agenda.note rfl rfl (.refl _) rfl agenda.calls
    (fun other member => agenda.serves other (List.mem_cons_of_mem _ member)) fun _ one _ _ => ?_
  rw [Round.foretold, Round.foretold, List.foldl_cons, through, if_neg List.not_mem_nil]
  rfl

/-! ## User code -/

theorem slack (rounds calling : List Round) :
    Slack (Agenda rounds calling : Session σ → Prop) where
  remark isRemark agenda :=
    agenda.write (Entry.isAside_of_isRemark isRemark) (Entry.treeFrom_of_isRemark isRemark _)
  memory _ agenda := { agenda with }
  tally _ agenda := { agenda with }
  channel _ agenda := { agenda with }
  add addition agenda := agenda.plant addition.undisturbed
  recordQuery ofQuery agenda :=
    agenda.write (Entry.isAside_of_isOfQuery ofQuery) (Entry.treeFrom_of_isOfQuery ofQuery _)
  queue _ _ _ agenda := { agenda with }

section Callees

variable {callees : Callees σ}
  (callbacks : ∀ (rounds : List Round) reference delivery,
    Keeps (Agenda rounds rounds) False True (callees.callback reference delivery))
include callbacks

/-- A push hands its value to the next subscriber. -/
theorem meets_dispatch (delivery : Delivery) (round : Round) {subscription : Subscription}
    {rest : List Subscription}
    (agenda : Agenda ({ round with waiting := subscription :: rest } :: rounds) rounds session)
    (address : delivery.address = round.address)
    (value : delivery.value = round.value) :
    (dispatch callees (.subscription subscription.id) subscription.callback delivery).Meets session
      (fun _ => Agenda ({ round with reached := subscription.id + 1, waiting := rest } :: rounds)
        rounds) (fun _ _ => False) (fun _ _ => False) :=
  meets_dispatch_of (callbacks _ _ _) (fun _ => agenda.enter address value) agenda.skip
    (fun _ _ agenda => agenda.leave _ _ _ _) (fun _ agenda => agenda.leave _ _ _ _)
    fun _ => (slack _ _).toPliant

/-- When a push is through, only those are under way that were before. -/
theorem keeps_publish (rounds : List Round) (stream : StreamId) (filter name : String)
    (value : Value) :
    Keeps (Agenda rounds rounds) True True (publish callees stream filter name value) := by
  refine keeps_publish_of (R := fun waiting _ session => ∃ reached,
    Agenda (⟨⟨stream, filter, name⟩, value, reached, waiting⟩ :: rounds) rounds session) ?_ ?_ ?_
  · exact fun session _ tree stored agenda => ⟨0, agenda.begin ⟨stream, filter, name⟩ stored⟩
  · rintro subscription rest _ session ⟨reached, agenda⟩
    exact (meets_dispatch callbacks _ ⟨_, value, reached, subscription :: rest⟩ agenda rfl rfl).imp
      fun _ _ agenda => ⟨_, agenda⟩
  · rintro spent session ⟨reached, agenda⟩
    exact (agenda.plant (ParameterTree.undisturbed_unsubscribe _ _ _ _)).finish rfl _ _ _

end Callees

/-- User code keeps the agenda, whatever is being pushed. -/
theorem keeps_run {α : Type} (code : UserCode σ) (rounds : List Round) (program : Program σ α) :
    Keeps (Agenda rounds rounds) False True (code.run program) :=
  Slack.keeps_run_of code (fun rounds => slack rounds rounds) (fun _ => keeps_publish) rounds program

theorem keeps_drain (code : UserCode σ) (rounds : List Round) :
    Keeps (Agenda rounds rounds) False False (drain code.callees) :=
  Slack.keeps_drain_of code (fun rounds => slack rounds rounds) (fun _ => keeps_publish) rounds

end Agenda

end Session

namespace Host

open StreamControl.Action Session

variable {σ : Type}

/-! ## Histories -/

theorem enduring_agenda (code : UserCode σ) :
    Enduring code fun host => Agenda [] [] host.session := by
  intro deed before after does agenda
  cases does with
  | stir before after session =>
    rw [session]
    exact agenda
  | write _ ofHost =>
    exact agenda.write (Entry.isAside_of_isOfHost ofHost) ((Ledger.silent_of_isOfHost ofHost).2.2 _)
  | send => exact { agenda with }
  | fail =>
    exact failing_of (P := Agenda [] []) (fun _ _ agenda => { agenda with })
      (fun _ _ _ _ agenda => agenda.write rfl rfl) (fun _ _ _ agenda => agenda.write rfl rfl)
      (fun _ agenda => agenda.write rfl rfl) agenda
  | run _ program _ ends | outside _ program ends =>
    exact (Agenda.keeps_run code [] program).of_ne_exhausted agenda ends
  | drain _ ends => exact (Agenda.keeps_drain code []).of_ne_exhausted agenda ends
  | attach => exact agenda.plant (ParameterTree.undisturbed_addStream _)
  | enroll _ added => exact agenda.plant (ParameterTree.undisturbed_addFilter added)
  | mark _ marked => exact agenda.plant (ParameterTree.undisturbed_setStarted marked)
  | settle _ stream => exact agenda.plant (ParameterTree.undisturbed_dropUnkept stream)
  | forget _ stream => exact agenda.plant (ParameterTree.undisturbed_removeStream stream)
  | skip | shutDown => exact agenda
  | announce | join | leave => exact agenda.write rfl rfl
  | discard | close => exact { agenda with }

theorem agenda_new (channel : Broadcast Event) (config : Config) (memory : σ) :
    Agenda [] [] (onChannel channel config memory).session where
  tree := rfl
  owned := ⟨fun _ => default, fun _ _ member => (List.not_mem_nil member).elim⟩
  inOrder _ := List.Pairwise.nil
  early earlier isPrefix _ _ member := by
    rw [List.prefix_nil.mp isPrefix] at member
    cases member
  underWay := rfl
  calls := .nil
  serves _ member := (List.not_mem_nil member).elim
  foretold earlier _ _ _ attended := by
    obtain ⟨_, _, split, _⟩ := attended.pushed
    cases earlier <;> cases split
  past earlier _ _ split := by cases earlier <;> cases split

variable {code : UserCode σ} {history : History σ}

theorem History.agenda (reachable : history.Reachable code) : Agenda [] [] history.host.session := by
  obtain ⟨config, memory, host, created, leads⟩ := reachable
  obtain ⟨channel, rfl⟩ := eq_of_create created
  exact leads.endures (enduring_agenda code) (agenda_new channel config memory)

/-- Between operations nothing is being pushed. -/
theorem History.atRest (reachable : history.Reachable code) :
    AtRest history.host.session.journal history.host.session.journal.toList :=
  ⟨(History.agenda reachable).underWay, [], (List.append_nil _).symm, fun _ none => by cases none⟩

theorem History.settled (reachable : history.Reachable code) {moment : List Entry}
    (rest : AtRest history.host.session.journal moment) : Settled moment := by
  have agenda := History.agenda reachable
  obtain ⟨quiet, later, split, begins⟩ := rest
  cases later with
  | nil =>
    rw [List.append_nil] at split
    exact split ▸ agenda.present (split ▸ quiet)
  | cons entry later => exact agenda.past moment entry later split (begins entry rfl) quiet

/-- **Subscribers end up with the current value, unless an earlier subscriber pushes.**
Whenever nothing is being pushed, as is the case between operations, a subscription that
was there when the outermost push around the last push of its parameter began has been
handed the current value last, if that last push did not begin while the callback of an
earlier subscriber to the parameter was being called.  If it did, the subscription has
been handed last what the outermost of those calls was handing over. -/
theorem last_handed (reachable : history.Reachable code) :
    history.host.session.tree = treeAfter history.host.session.journal.toList ∧
    AtRest history.host.session.journal history.host.session.journal.toList ∧
    ∀ moment, AtRest history.host.session.journal moment →
      ∀ earlier address parameter subscription,
        Attended moment earlier address parameter subscription →
          ((∀ call ∈ Journal.calls earlier, ¬ Precedes address subscription.id call) →
            lastHanded moment subscription.id = some parameter.value) ∧
          ∀ inner call outer, Journal.calls earlier = inner ++ call :: outer →
            Precedes address subscription.id call →
            (∀ other ∈ outer, ¬ Precedes address subscription.id other) →
              lastHanded moment subscription.id = some call.2.value := by
  refine ⟨(History.agenda reachable).tree, History.atRest reachable, ?_⟩
  intro moment rest earlier address parameter subscription attended
  have handed := History.settled reachable rest earlier address parameter subscription attended
  refine ⟨fun none => ?_, fun inner call outer split precedes none => ?_⟩
  · rw [handed, overruled_of_forall none]
  · rw [handed, split, overruled_of_split precedes none]

/-- User code whose filter makes a parameter; the first callback pushes once more. -/
def relayCode : UserCode Unit :=
  { gainCode with
    callback := fun reference delivery =>
      match reference, delivery.value with
      | 0, .bool false =>
        .ask (.push ⟨delivery.stream, delivery.filter⟩ delivery.parameter (.bool true)) fun _ =>
          .done 0
      | _, _ => .done 0
    nesting := 2 }

/-- A history in which two callbacks are subscribed to the parameter, and a value is
pushed. -/
def relayHistory : History Unit :=
  .after relayCode { episodes := [], host := freshHost }
    [.addStream (FilterGraph.empty.append "source" (some 0)),
      .outside (.ask (.subscribe ⟨1⟩ "source" (some "gain") .bool { code := 0 } {} {}) fun _ =>
        .done ()),
      .outside (.ask (.subscribe ⟨1⟩ "source" (some "gain") .bool { code := 1 } {} {}) fun _ =>
        .done ()),
      .outside (.ask (.push ⟨⟨1⟩, "source"⟩ "gain" (.bool false)) fun _ => .done ())]

theorem relayHistory_reachable : relayHistory.Reachable relayCode := by
  refine ⟨_, _, _, create_freshHost, History.leads_after _
    ⟨⟨⟨?_, ?attach⟩, ?_⟩, ⟨⟨?_, nofun⟩, ?_⟩, ⟨⟨?_, nofun⟩, ?_⟩, ⟨⟨?_, nofun⟩, ?_⟩, trivial⟩⟩
  case attach =>
    intro graph same
    cases same
    exact .add .new rfl
  all_goals decide +kernel

/-- One of the two subscriptions, which have the numbers of their callbacks. -/
def relaySubscription (number : Nat) : Subscription :=
  { id := number, callback := { code := number }, context := {}, keptAtRestart := false }

/-- The parameter in the end. -/
def relayParameter : Parameter :=
  { type := .bool, value := .bool true, setter := none,
    subscriptions := [relaySubscription 0, relaySubscription 1] }

/-- The second push is the last. -/
theorem relayHistory_attended {number : Nat} (one : number = 0 ∨ number = 1) :
    Attended relayHistory.host.session.journal.toList
      (relayHistory.host.session.journal.toList.take 13) (echoDelivery true).address
        relayParameter (relaySubscription number) where
  pushed := ⟨.pushing ⟨1⟩ "source" "gain", relayHistory.host.session.journal.toList.drop 14,
    by decide +kernel, rfl, by decide +kernel⟩
  found := by decide +kernel
  among := by rcases one with rfl | rfl <;> decide
  wellFormed := rfl
  registered := by rcases one with rfl | rfl <;> decide +kernel

/-- The first callback pushes while it is handed the first value, and so the second
subscription is handed the new value first and the old one last. -/
theorem last_handed_relay :
    lastHanded relayHistory.host.session.journal.toList 0 = some (.bool true) ∧
      lastHanded relayHistory.host.session.journal.toList 1 = some (.bool false) := by
  have calls : Journal.calls (relayHistory.host.session.journal.toList.take 13) =
      [(0, echoDelivery false)] := by
    decide +kernel
  obtain ⟨_, rest, handed⟩ := last_handed relayHistory_reachable
  refine ⟨?_, ?_⟩
  · refine (handed _ rest _ _ _ _ (relayHistory_attended (.inl rfl))).1 fun call member => ?_
    rw [calls] at member
    rw [List.mem_singleton.mp member]
    decide
  · exact (handed _ rest _ _ _ _ (relayHistory_attended (.inr rfl))).2 [] (0, echoDelivery false) []
      calls (by decide) fun _ member => by cases member

/-- Not everyone is handed the current value last. -/
theorem not_last_handed_current : ¬ ∀ (σ : Type) (code : UserCode σ) (history : History σ),
    history.Reachable code → ∀ moment, AtRest history.host.session.journal moment →
      ∀ earlier address parameter subscription,
        Attended moment earlier address parameter subscription →
          lastHanded moment subscription.id = some parameter.value := by
  intro current
  have handed := current Unit relayCode relayHistory relayHistory_reachable _
    (History.atRest relayHistory_reachable) _ _ _ _ (relayHistory_attended (.inr rfl))
  exact absurd handed (by decide +kernel)

end Host

end StreamControl
