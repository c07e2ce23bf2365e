import Mathlib.Data.List.Flatten
import StreamControl.Proofs.Changes
import StreamControl.Proofs.LateAnswers

/-!
# How long subscriptions stay

A subscription is made by a request to subscribe, under a number that no subscription
had before, and from then on it stays with its parameter, in the order of the numbers,
until one of three things happens (`Journal.Ends`): a push of the parameter is through
that called its callback and saw it fail, its stream stops and it is not one that stays,
or its stream is forgotten.

Every change of the tree is gone through once (`Journal.Change.ends_iff`), and what
holds of one change holds between any two moments (`Host.tenure`).

A stop removes subscriptions after its last hook and before it looks through the queue:
no query that had waited has been answered by then.  A callback that is called for such a
query may subscribe after that, and what is subscribed from then on outlasts the stop, unless
a push ends it (`Journal.Lasting`).
-/

set_option autoImplicit false

namespace StreamControl

namespace ParameterTree

variable {tree after : ParameterTree} {address other : Address} {subscription : Subscription}

/-! ## Subscriptions after each removal -/

theorem subscriptionsAt_congr (same : after.parameter? address = tree.parameter? address) :
    after.subscriptionsAt address = tree.subscriptionsAt address := by
  rw [subscriptionsAt, subscriptionsAt, same]

theorem subscriptionsAt_unsubscribe (finished : List Nat) :
    (tree.unsubscribe address.stream address.filter address.name finished).subscriptionsAt other =
      if other = address then
        (tree.subscriptionsAt other).filter fun subscription => subscription.id ∉ finished
      else tree.subscriptionsAt other := by
  rw [subscriptionsAt, parameter?_unsubscribe, subscriptionsAt]
  split
  · cases tree.parameter? other <;> rfl
  · rfl

theorem subscriptionsAt_dropUnkept (stream : StreamId) :
    (tree.dropUnkept stream).2.subscriptionsAt address =
      if address.stream = stream then (tree.subscriptionsAt address).filter (·.keptAtRestart)
      else tree.subscriptionsAt address := by
  rw [subscriptionsAt, parameter?_dropUnkept, subscriptionsAt]
  split
  · cases tree.parameter? address <;> rfl
  · rfl

/-- What is added takes nothing out. -/
theorem Addition.stays (addition : tree.Addition after)
    (there : subscription ∈ tree.subscriptionsAt address) :
    subscription ∈ after.subscriptionsAt address := by
  obtain ⟨parameter, old, among⟩ := mem_subscriptionsAt.mp there
  cases addition with
  | @create stream filter name _ _ _ created =>
    obtain ⟨_, free, _, _, changed⟩ := create_eq_ok ⟨stream, filter, name⟩ created
    refine mem_subscriptionsAt.mpr ⟨parameter, (changed address).trans ?_, among⟩
    rw [if_neg fun here => ?_, old]
    rw [here, free] at old
    cases old
  | subscribe subscribed =>
    obtain ⟨new, found, _⟩ := (subscribed_subscribe subscribed).parameter address
    rw [old, Option.map_some] at found
    exact mem_subscriptionsAt.mpr ⟨_, found, List.mem_append_left _ among⟩

theorem knows_of_mem (member : subscription ∈ tree.subscriptionsAt address) :
    tree.Knows address.stream := by
  obtain ⟨parameter, found, _⟩ := mem_subscriptionsAt.mp member
  exact knows_of_parameter? found

/-- What a stop removes and what it leaves make up what was there. -/
theorem dropUnkept_add (tree : ParameterTree) (stream : StreamId) :
    (tree.dropUnkept stream).1 + (tree.dropUnkept stream).2.subscriptionsOf stream =
      tree.subscriptionsOf stream := by
  have found := find?_dropUnkept tree stream stream
  rw [if_pos rfl] at found
  suffices fewer : (tree.dropUnkept stream).2.subscriptionsOf stream ≤ tree.subscriptionsOf stream from
    Nat.sub_add_cancel fewer
  rw [subscriptionsOf, subscriptionsOf, found]
  cases tree.streams.find? stream with
  | none => exact Nat.le_refl 0
  | some filters =>
    -- Filter by filter and parameter by parameter, what is left is a part of what was there.
    simp only [Option.map_some, OrderedMap.values, OrderedMap.mapValues, List.map_map,
      List.flatMap_map]
    refine (List.Sublist.flatMap_right _ fun filter _ => ?_).length_le
    simp only [Function.comp_apply, List.flatMap_map]
    exact List.Sublist.flatMap_right _ fun parameter _ => List.filter_sublist

end ParameterTree

namespace Journal

open ParameterTree

variable {earlier later entries shown moment : List Entry} {tree : ParameterTree} {address : Address}
  {subscription : Subscription} {owed : Option StreamId}

/-! ## Beginnings and ends -/

/-- Why a subscription is over when one tree follows upon another. -/
inductive Ends (earlier later : List Entry) (after : ParameterTree) (address : Address)
    (subscription : Subscription) : Prop where
  /-- A push of the parameter is through, and has found the subscription to be over. -/
  | pushed {spent : List Nat} {outer : List (Address × List Nat)}
      (reckoned : reckonings earlier = (address, spent) :: outer) (failed : subscription.id ∈ spent)
      (removed : after =
        (treeAfter earlier).unsubscribe address.stream address.filter address.name spent)
      (through : later.head? = some (.pushed address.stream address.filter address.name))
  /-- The stream stops, and the subscription is not one that stays. -/
  | stopped (unkept : subscription.keptAtRestart = false)
      (removed : after = ((treeAfter earlier).dropUnkept address.stream).2)
      (announced : later.find? Entry.isNews = some (.sent (.streamStopped address.stream)))
  /-- The stream is forgotten. -/
  | forgotten (knew : (treeAfter earlier).Knows address.stream)
      (forgets : ¬ after.Knows address.stream)

/-- A subscription is made by a request to subscribe, under a new number. -/
def Begins (before after : ParameterTree) (subscription : Subscription) : Prop :=
  ∃ stream filter name type flags made,
    before.subscribe stream filter name type subscription.callback subscription.context flags =
      .ok (made, after) ∧
    subscription.keptAtRestart = flags.keepAtRestart ∧
    before.nextSubscription ≤ subscription.id

/-- A subscription is over by some moment, for what happened since an earlier one. -/
def Over (entries shown moment : List Entry) (address : Address) (subscription : Subscription) :
    Prop :=
  ∃ earlier tree later, entries = earlier ++ .grown tree :: later ∧ shown <+: earlier ∧
    earlier ++ [.grown tree] <+: moment ∧ Ends earlier later tree address subscription

/-- What is over is gone. -/
theorem Ends.not_mem (ends : Ends earlier later tree address subscription) :
    subscription ∉ tree.subscriptionsAt address := by
  intro member
  cases ends with
  | pushed _ failed removed =>
    rw [removed] at member
    exact not_mem_of_unsubscribe member failed
  | stopped unkept removed =>
    rw [removed, subscriptionsAt_dropUnkept, if_pos rfl] at member
    have kept := (List.mem_filter.mp member).2
    rw [unkept] at kept
    cases kept
  | forgotten _ forgets => exact forgets (knows_of_mem member)

/-- **A change takes out what it ends**, and nothing else. -/
theorem Change.ends_iff (change : Change none earlier later tree)
    (there : subscription ∈ (treeAfter earlier).subscriptionsAt address) :
    subscription ∈ tree.subscriptionsAt address ↔ ¬ Ends earlier later tree address subscription := by
  refine ⟨fun stays ends => ends.not_mem stays, fun lasts => ?_⟩
  have same (found : tree.parameter? address = (treeAfter earlier).parameter? address) :
      subscription ∈ tree.subscriptionsAt address := subscriptionsAt_congr found ▸ there
  cases change with
  | add addition => exact addition.stays there
  | store other stored => exact subscriptionsAt_store other stored address ▸ there
  | lapse other reckoned through =>
    rw [subscriptionsAt_unsubscribe]
    split
    · rename_i here
      subst here
      refine List.mem_filter.mpr ⟨there, decide_eq_true fun failed => lasts ?_⟩
      exact .pushed reckoned failed rfl through
    · exact there
  | attach stream => exact same (parameter?_addStream stream)
  | enroll added => exact same (parameter?_addFilter added)
  | mark marked => exact same (parameter?_setStarted marked)
  | settle stream announces =>
    rw [subscriptionsAt_dropUnkept]
    split
    · rename_i here
      subst here
      refine List.mem_filter.mpr ⟨there, ?_⟩
      by_contra unkept
      exact lasts (.stopped ((Bool.not_eq_true _).mp unkept) rfl
        (announces.resolve_right fun owes => by cases owes.1))
    · exact there
  | forget stream =>
    refine same ((parameter?_removeStream stream).trans (if_neg fun here => lasts ?_))
    exact .forgotten (knows_of_mem there) fun knows => ((knows_removeStream _ _ _).mp knows).1 here

/-- A subscription that was not there has been made just now. -/
theorem Change.begins (change : Change owed earlier later tree)
    (member : subscription ∈ tree.subscriptionsAt address)
    (new : subscription ∉ (treeAfter earlier).subscriptionsAt address) :
    Begins (treeAfter earlier) tree subscription := by
  have same (found : tree.parameter? address = (treeAfter earlier).parameter? address) :
      subscription ∈ (treeAfter earlier).subscriptionsAt address :=
    subscriptionsAt_congr found ▸ member
  cases change with
  | add addition =>
    cases addition with
    | @create stream filter name _ _ _ created =>
      obtain ⟨_, _, _, _, changed⟩ := create_eq_ok ⟨stream, filter, name⟩ created
      have found := changed address
      split at found
      · rw [subscriptionsAt, found] at member
        cases member
      · exact absurd (same found) new
    | @subscribe stream filter name type _ _ flags made subscribed =>
      obtain ⟨further, found, all⟩ := (subscribed_subscribe subscribed).parameter address
      obtain ⟨parameter, there, among⟩ := mem_subscriptionsAt.mp member
      rw [there] at found
      obtain ⟨old, was, rfl⟩ := Option.map_eq_some_iff.mp found.symm
      rcases List.mem_append.mp among with before | last
      · exact absurd (mem_subscriptionsAt.mpr ⟨old, was, before⟩) new
      · obtain ⟨late, rfl, rfl, kept⟩ := all subscription last
        exact ⟨stream, filter, name, type, flags, made, subscribed, kept, late⟩
  | store other stored => exact absurd (subscriptionsAt_store other stored address ▸ member) new
  | lapse other =>
    rw [subscriptionsAt_unsubscribe] at member
    split at member
    · exact absurd (List.mem_of_mem_filter member) new
    · exact absurd member new
  | attach stream => exact absurd (same (parameter?_addStream stream)) new
  | enroll added => exact absurd (same (parameter?_addFilter added)) new
  | mark marked => exact absurd (same (parameter?_setStarted marked)) new
  | settle stream =>
    rw [subscriptionsAt_dropUnkept] at member
    split at member
    · exact absurd (List.mem_of_mem_filter member) new
    · exact absurd member new
  | forget stream =>
    have found := @parameter?_removeStream (treeAfter earlier) address stream
    split at found
    · rw [subscriptionsAt, found] at member
      cases member
    · exact absurd (same found) new

/-! ## Numbers -/

/-- Apart from storing a value, a change disturbs nothing. -/
theorem Change.undisturbed (change : Change owed earlier later tree) :
    (tree.nextSubscription = (treeAfter earlier).nextSubscription ∧
      ∀ address, tree.subscriptionsAt address = (treeAfter earlier).subscriptionsAt address) ∨
    Undisturbed (treeAfter earlier) tree := by
  cases change with
  | add addition => exact .inr addition.undisturbed
  | store address stored =>
    exact .inl ⟨(store_eq_ok address stored).2.1, subscriptionsAt_store address stored⟩
  | lapse => exact .inr (undisturbed_unsubscribe _ _ _ _)
  | attach => exact .inr (undisturbed_addStream _)
  | enroll added => exact .inr (undisturbed_addFilter added)
  | mark marked => exact .inr (undisturbed_setStarted marked)
  | settle => exact .inr (undisturbed_dropUnkept _)
  | forget => exact .inr (undisturbed_removeStream _)

theorem Change.resubscribed (change : Change owed earlier later tree) :
    Resubscribed (treeAfter earlier) tree := by
  rcases change.undisturbed with ⟨next, same⟩ | undisturbed
  · exact .of_subset next fun address => same address ▸ List.Subset.refl _
  · exact undisturbed.toResubscribed

/-- The numbers are in order at all times. -/
theorem Changes.numbered (changes : Changes owed entries) (isPrefix : shown <+: entries) :
    (treeAfter shown).Numbered := by
  suffices both : (∃ owner, (treeAfter shown).OwnedBy owner) ∧ (treeAfter shown).InOrder by
    obtain ⟨⟨owner, owned⟩, inOrder⟩ := both
    exact owned.numbered inOrder
  refine prefix_induction (P := fun shown =>
    (∃ owner, (treeAfter shown).OwnedBy owner) ∧ (treeAfter shown).InOrder) ?_ ?_ isPrefix
  · exact ⟨⟨fun _ => default, fun _ _ member => (List.not_mem_nil member).elim⟩,
      fun _ => List.Pairwise.nil⟩
  · rintro earlier entry later split ⟨⟨owner, owned⟩, inOrder⟩
    rw [treeAfter_concat]
    cases entry with
    | grown tree =>
      have change := changes earlier tree later split
      obtain ⟨further, _, owned'⟩ := change.resubscribed.owned owner owned
      refine ⟨⟨further, owned'⟩, ?_⟩
      rcases change.undisturbed with ⟨_, same⟩ | undisturbed
      · exact fun address => same address ▸ inOrder address
      · exact undisturbed.inOrder owner owned inOrder
    | _ => exact ⟨⟨owner, owned⟩, inOrder⟩

/-! ## Between two moments -/

/-- One more entry may end a subscription only if it notes a tree. -/
theorem over_concat_iff {entry : Entry} (split : entries = moment ++ entry :: later)
    (before : shown <+: moment) :
    Over entries shown (moment ++ [entry]) address subscription ↔
      Over entries shown moment address subscription ∨
        ∃ tree, entry = .grown tree ∧ Ends moment later tree address subscription := by
  constructor
  · rintro ⟨earlier, tree, rest, parts, since, isPrefix, ends⟩
    rcases List.prefix_concat_iff.mp isPrefix with same | within
    · obtain ⟨rfl, one⟩ := List.append_inj' same rfl
      cases one
      rw [split, List.append_cancel_left_eq, List.cons.injEq] at parts
      exact .inr ⟨tree, rfl, parts.2 ▸ ends⟩
    · exact .inl ⟨earlier, tree, rest, parts, since, within, ends⟩
  · rintro (⟨earlier, tree, rest, parts, since, isPrefix, ends⟩ | ⟨tree, rfl, ends⟩)
    · exact ⟨earlier, tree, rest, parts, since, isPrefix.trans (List.prefix_append _ _), ends⟩
    · exact ⟨moment, tree, later, split, before, List.prefix_rfl, ends⟩

/-- **A subscription stays until it is over**, and does not come back. -/
theorem Changes.stays_iff (changes : Changes none entries) (since : shown <+: moment)
    (isPrefix : moment <+: entries) (there : subscription ∈ (treeAfter shown).subscriptionsAt address) :
    subscription ∈ (treeAfter moment).subscriptionsAt address ↔
      ¬ Over entries shown moment address subscription := by
  have numbered := (changes.numbered (since.trans isPrefix)).below address subscription there
  obtain ⟨between, rfl⟩ := since
  -- The numbers that are given out later are larger.
  suffices both : subscription.id < (treeAfter (shown ++ between)).nextSubscription ∧
      (subscription ∈ (treeAfter (shown ++ between)).subscriptionsAt address ↔
        ¬ Over entries shown (shown ++ between) address subscription) from both.2
  refine since_induction (P := fun moment => subscription.id < (treeAfter moment).nextSubscription ∧
    (subscription ∈ (treeAfter moment).subscriptionsAt address ↔
      ¬ Over entries shown moment address subscription)) ?now ?step isPrefix
  case now =>
    refine ⟨numbered, fun _ => ?_, fun _ => there⟩
    rintro ⟨earlier, tree, _, _, since, within, _⟩
    have long := (within.trans since).length_le
    rw [List.length_append, List.length_singleton] at long
    omega
  case step =>
    rintro earlier entry later split ⟨early, stays⟩
    rw [treeAfter_concat, over_concat_iff split (List.prefix_append _ _)]
    cases entry with
    | grown tree =>
      have change := changes _ tree later split
      refine ⟨Nat.lt_of_lt_of_le early change.resubscribed.next, ?_⟩
      simp only [Entry.treeFrom, Entry.grown.injEq, exists_eq_left', not_or, ← stays]
      constructor
      · intro member
        have old := change.resubscribed.old address subscription member early
        exact ⟨old, (change.ends_iff old).mp member⟩
      · exact fun both => (change.ends_iff both.1).mpr both.2
    | _ => exact ⟨early, by simpa [Entry.treeFrom] using stays⟩

/-! ## What lasts -/

/-- A subscription is over since some moment, for a push of its parameter has found it to be. -/
def Spent (entries shown : List Entry) (address : Address) (subscription : Subscription) : Prop :=
  ∃ earlier spent outer later, entries = earlier ++
      .grown ((treeAfter earlier).unsubscribe address.stream address.filter address.name spent) ::
        .pushed address.stream address.filter address.name :: later ∧
    shown <+: earlier ∧ reckonings earlier = (address, spent) :: outer ∧ subscription.id ∈ spent

theorem Spent.concat (ended : Spent entries shown address subscription) (entry : Entry) :
    Spent (entries ++ [entry]) shown address subscription := by
  obtain ⟨earlier, spent, outer, later, split, since, reckoned, failed⟩ := ended
  refine ⟨earlier, spent, outer, later ++ [entry], ?_, since, reckoned, failed⟩
  rw [split, List.append_assoc]
  rfl

/-- Whatever has been subscribed at a moment, from some first one on, is still there, unless a
push has ended it. -/
def Lasting (origin entries : List Entry) : Prop :=
  ∀ shown, origin <+: shown → shown <+: entries → ∀ address,
    ∀ subscription ∈ (treeAfter shown).subscriptionsAt address,
      subscription ∈ (treeAfter entries).subscriptionsAt address ∨
        Spent entries shown address subscription

theorem Lasting.refl (entries : List Entry) : Lasting entries entries := by
  intro shown since isPrefix address subscription member
  rw [since.eq_of_length (Nat.le_antisymm since.length_le isPrefix.length_le)]
  exact .inl member

/-- Nothing is taken out with one more entry. -/
theorem Lasting.concat {origin : List Entry} {entry : Entry} (lasting : Lasting origin entries)
    (stays : ∀ address, ∀ subscription ∈ (treeAfter entries).subscriptionsAt address,
      subscription ∈ (treeAfter (entries ++ [entry])).subscriptionsAt address) :
    Lasting origin (entries ++ [entry]) := by
  intro shown since isPrefix address subscription member
  rcases List.prefix_concat_iff.mp isPrefix with rfl | before
  · exact .inl member
  · exact (lasting shown since before address subscription member).imp (stays address subscription)
      fun ended => ended.concat entry

theorem Lasting.note {origin : List Entry} {entry : Entry} (lasting : Lasting origin entries)
    (still : entry.isGrown = false) : Lasting origin (entries ++ [entry]) := by
  refine lasting.concat fun address subscription member => ?_
  rwa [treeAfter_concat, Entry.treeFrom_of_not_isGrown still]

/-- A push that is through takes out what it has found to be over. -/
theorem Lasting.lapse {origin : List Entry} {spent : List Nat}
    {outer : List (Address × List Nat)} (lasting : Lasting origin entries)
    (reckoned : reckonings entries = (address, spent) :: outer) :
    Lasting origin (entries ++ [.grown ((treeAfter entries).unsubscribe address.stream
      address.filter address.name spent)] ++
        [.pushed address.stream address.filter address.name]) := by
  intro shown since isPrefix other subscription member
  have last : treeAfter (entries ++ [.grown ((treeAfter entries).unsubscribe address.stream
      address.filter address.name spent)] ++ [.pushed address.stream address.filter address.name]) =
        (treeAfter entries).unsubscribe address.stream address.filter address.name spent := by
    rw [treeAfter_concat, treeAfter_concat]
    rfl
  rw [last]
  rcases List.prefix_concat_iff.mp isPrefix with rfl | within
  · exact .inl (last ▸ member)
  rcases List.prefix_concat_iff.mp within with rfl | before
  · rw [treeAfter_concat] at member
    exact .inl member
  · rcases lasting shown since before other subscription member with there | ended
    · by_cases ends : other = address ∧ subscription.id ∈ spent
      · obtain ⟨rfl, failed⟩ := ends
        refine .inr ⟨entries, spent, outer, [], ?_, before, reckoned, failed⟩
        rw [List.append_assoc]
        rfl
      · refine .inl ?_
        rw [subscriptionsAt_unsubscribe]
        split
        · rename_i here
          exact List.mem_filter.mpr ⟨there, decide_eq_true fun failed => ends ⟨here, failed⟩⟩
        · exact there
    · exact .inr ((ended.concat _).concat _)

/-! ## What a stop removes -/

/-- A stop has come to where it removes subscriptions, and gone on with user code and
messages, up to some last entries. -/
structure Clearing (prior : List Entry) (stream : StreamId) (removed : Nat)
    (opening between last entries : List Entry) : Prop where
  /-- What has been written. -/
  written : entries = prior ++ opening ++
    .grown ((treeAfter (prior ++ opening)).dropUnkept stream).2 :: between ++ last
  /-- No query that had waited has been answered before. -/
  early : countLate none opening = 0
  /-- Nothing but user code and messages follows. -/
  inner : ∀ entry ∈ between, entry.isInner = true
  /-- So many subscriptions have been removed. -/
  count : removed = ((treeAfter (prior ++ opening)).dropUnkept stream).1
  /-- What is there since then lasts. -/
  lasting : Lasting
    (prior ++ opening ++ [.grown ((treeAfter (prior ++ opening)).dropUnkept stream).2]) entries

namespace Clearing

variable {prior opening between : List Entry} {stream : StreamId} {removed : Nat}

theorem begin (early : countLate none opening = 0) :
    Clearing prior stream ((treeAfter (prior ++ opening)).dropUnkept stream).1 opening [] []
      (prior ++ opening ++ [.grown ((treeAfter (prior ++ opening)).dropUnkept stream).2]) :=
  ⟨(List.append_nil _).symm, early, fun _ member => (List.not_mem_nil member).elim, rfl, .refl _⟩

theorem append (clearing : Clearing prior stream removed opening between [] entries)
    {more : List Entry} (inner : ∀ entry ∈ more, entry.isInner = true)
    (lasting : Lasting (prior ++ opening ++
      [.grown ((treeAfter (prior ++ opening)).dropUnkept stream).2]) (entries ++ more)) :
    Clearing prior stream removed opening (between ++ more) [] (entries ++ more) := by
  refine ⟨?_, clearing.early, List.forall_mem_append.mpr ⟨clearing.inner, inner⟩, clearing.count,
    lasting⟩
  rw [clearing.written]
  simp only [List.append_nil, List.append_assoc, List.cons_append]

theorem last (clearing : Clearing prior stream removed opening between [] entries) {entry : Entry}
    (still : entry.isGrown = false) :
    Clearing prior stream removed opening between [entry] (entries ++ [entry]) := by
  refine ⟨?_, clearing.early, clearing.inner, clearing.count, clearing.lasting.note still⟩
  rw [clearing.written, List.append_nil]

end Clearing

end Journal

namespace Session

open StreamControl.Action Journal ParameterTree

variable {σ : Type}

/-- A session is traced, and what has been subscribed since some moment lasts. -/
structure TracedSince (origin : List Entry) (number : UInt32) (owed : Option StreamId)
    (pushes : List (Address × List Nat)) (session : Session σ) : Prop extends
    Traced number owed pushes session where
  /-- Nothing but pushes has ended it. -/
  lasting : Lasting origin session.journal.toList

namespace TracedSince

variable {origin : List Entry} {number : UInt32} {owed : Option StreamId}
  {pushes : List (Address × List Nat)} {session : Session σ}

/-- A change of the tree that takes nothing out. -/
theorem keeping (since : TracedSince origin number owed pushes session) {tree : ParameterTree}
    (stays : ∀ address, ∀ subscription ∈ session.tree.subscriptionsAt address,
      subscription ∈ tree.subscriptionsAt address) :
    Lasting origin (session.journal.push (.grown tree)).toList := by
  rw [Array.toList_push]
  refine since.lasting.concat fun address subscription member => ?_
  rw [treeAfter_concat]
  exact stays address subscription (since.tree ▸ member)

/-- An entry that shows no change of the tree. -/
theorem noting (since : TracedSince origin number owed pushes session) {entry : Entry}
    (still : entry.isGrown = false) : Lasting origin (session.journal.push entry).toList := by
  rw [Array.toList_push]
  exact since.lasting.note still

theorem slack (origin : List Entry) (number : UInt32) (owed : Option StreamId)
    (pushes : List (Address × List Nat)) :
    Slack (TracedSince origin number owed pushes : Session σ → Prop) where
  remark isRemark since :=
    ⟨(Traced.slack _ _ _).remark isRemark since.toTraced,
      since.noting (Entry.isGrown_of_isRemark isRemark)⟩
  memory _ since := { since with }
  tally _ since := { since with }
  channel _ since := { since with }
  add addition since :=
    ⟨(Traced.slack _ _ _).add addition since.toTraced, since.keeping fun _ _ => addition.stays⟩
  recordQuery ofQuery since :=
    ⟨(Traced.slack _ _ _).recordQuery ofQuery since.toTraced,
      since.noting (Entry.isGrown_of_isOfQuery ofQuery)⟩
  queue _ _ _ since := { since with }

section Callees

variable {callees : Callees σ}
  (callbacks : ∀ (pushes : List (Address × List Nat)) reference delivery,
    Keeps (TracedSince origin number owed pushes) False True (callees.callback reference delivery))
include callbacks

theorem keeps_publish (pushes : List (Address × List Nat)) (stream : StreamId)
    (filter name : String) (value : Value) :
    Keeps (TracedSince origin number owed pushes) True True
      (publish callees stream filter name value) := by
  refine keeps_publish_reckoning callbacks (fun _ => (slack _ _ _ _).toPliant) ?write
    ⟨stream, filter, name⟩ ?begin ?finish
  case write =>
    intro pushes session entry still old closes since
    exact ⟨since.toTraced.write still (fun _ => old) rfl closes, since.noting still⟩
  case begin =>
    intro session subscribers tree stored since
    refine ⟨since.toTraced.begin ⟨stream, filter, name⟩ stored, ?_⟩
    have same := subscriptionsAt_store ⟨stream, filter, name⟩ stored
    have planted := since.keeping fun address subscription member => (same address).symm ▸ member
    rw [Array.toList_push]
    exact planted.note rfl
  case finish =>
    intro session spent since
    refine ⟨since.toTraced.finish, ?_⟩
    rw [Array.toList_push, Array.toList_push, since.tree]
    exact since.lasting.lapse since.reckoned

end Callees

/-- A drain ends no subscription otherwise than by a push. -/
theorem keeps_drain (code : UserCode σ) (pushes : List (Address × List Nat)) :
    Keeps (TracedSince origin number owed pushes) False False (drain code.callees) :=
  Slack.keeps_drain_of code (slack origin number owed) (fun _ => keeps_publish) pushes

end TracedSince

end Session

namespace Host

open StreamControl.Action Session Journal ParameterTree

variable {σ : Type}

/-- A stop has come to where it removes subscriptions; that it will be announced is owed. -/
def Clears (prior : List Entry) (stream : StreamId) (removed : Nat) (host : Host σ) : Prop :=
  Traced host.nextStream (some stream) [] host.session ∧
    ∃ opening between, Clearing prior stream removed opening between [] host.session.journal.toList

/-- What a stop reports is what it has removed, after its last hook and before it has answered
any query that had waited. -/
theorem meets_stop_removes (code : UserCode σ) (stream : StreamId) {host : Host σ}
    (traced : Traced host.nextStream none [] host.session) :
    (stop code stream).Meets host
      (fun report after => ∃ opening between, Clearing host.session.journal.toList stream
        report.subscriptionsRemoved opening between [.sent (.streamStopped stream)]
          after.session.journal.toList)
      (fun _ _ => True) fun _ _ => True := by
  have survives (deed : Deed) (other : deed.isOfStop = false) :
      Survives code (fun after => Traced after.nextStream none [] after.session) deed :=
    survives_traced code other fun _ => rfl
  have patient : Patient code fun after => Traced after.nextStream none [] after.session :=
    ⟨⟨survives _ rfl, survives _ rfl, survives _ rfl⟩, survives _ rfl⟩
  have counted := patient_counted code host.session.journal.toList 0
  have marked := survives_counted code host.session.journal.toList 0
    (nofun : Deed.mark stream false ≠ .drain)
  have going (removed : Nat) :
      Mute (Clears host.session.journal.toList stream removed : Host σ → Prop) := by
    refine ⟨fun level text clears => ?_, fun _ clears => ⟨{ clears.1 with }, clears.2⟩⟩
    obtain ⟨traced, opening, between, clearing⟩ := clears
    refine ⟨traced.note rfl rfl rfl, opening, between ++ [.message level text], ?_⟩
    rw [writing, Array.toList_push]
    exact clearing.append (List.forall_mem_singleton.mpr rfl) (clearing.lasting.note rfl)
  refine (meets_stop_by (R := Clears host.session.journal.toList stream)
    (Q := Clears host.session.journal.toList stream)
    (S := fun removed after => ∃ opening between, Clearing host.session.journal.toList stream
      removed opening between [.sent (.streamStopped stream)] after.session.journal.toList)
    (counted.and patient).stepping (marked.and (survives _ rfl)) ?settle ?drain going ?announce
    ⟨Counted.refl _, traced⟩).mono (fun _ _ clearing => clearing) (fun _ _ _ => trivial)
      fun _ _ _ => trivial
  case settle =>
    rintro after ⟨⟨opening, written, early, -⟩, traced⟩
    refine ⟨traced.settle stream, opening, [], ?_⟩
    have tree := traced.tree
    rw [written] at tree
    rw [planting, Array.toList_push, written, tree]
    exact .begin early
  case drain =>
    rintro removed before after does ⟨traced, opening, between, clearing⟩
    cases does with
    | drain _ ends =>
      have lax := kept_lax before.session
      have kept : Keeps (Session.Kept before.session) False False (Session.drain code.callees) :=
        lax.keeps_drain (lax.keeps_callback code)
      obtain ⟨⟨more, journal, inner⟩, _, _⟩ := kept.of_ne_exhausted (.refl _) ends
      have since := (TracedSince.keeps_drain code []).of_ne_exhausted
        ⟨traced, clearing.lasting⟩ ends
      refine ⟨since.toTraced, opening, between ++ more, ?_⟩
      have lasting := since.lasting
      rw [journal] at lasting ⊢
      exact clearing.append inner lasting
  case announce =>
    rintro removed before after does ⟨-, opening, between, clearing⟩
    cases does with
    | announce =>
      rw [writing, Array.toList_push]
      exact ⟨opening, between, clearing.last rfl⟩

variable {code : UserCode σ} {history : History σ}

/-- **How long subscriptions stay.**  At every moment the numbers of the subscriptions are
distinct and below the next one, and they go up along each parameter.  A subscription that
was not there before has been made by a request to subscribe.  Between any two moments it
stays with its parameter exactly if nothing ends it: a push of the parameter that saw its
callback fail, a stop of its stream, or its stream's being forgotten.  Every push that is
through, and every stop that is announced, has removed what it ends.  A stop does so when no
query that had waited has been answered yet, and nothing but user code that is called for such
queries follows; it reports how many subscriptions it has removed, and what is subscribed from
then on outlasts it, unless a push ends it. -/
theorem tenure (reachable : history.Reachable code) :
    history.host.session.tree = treeAfter history.host.session.journal.toList ∧
    (∀ shown, shown <+: history.host.session.journal.toList → (treeAfter shown).Numbered) ∧
    (∀ earlier after later, history.host.session.journal.toList =
      earlier ++ .grown after :: later → ∀ address, ∀ subscription ∈ after.subscriptionsAt address,
        subscription ∈ (treeAfter earlier).subscriptionsAt address ∨
          Begins (treeAfter earlier) after subscription) ∧
    (∀ shown moment, shown <+: moment → moment <+: history.host.session.journal.toList →
      ∀ address, ∀ subscription ∈ (treeAfter shown).subscriptionsAt address,
        (subscription ∈ (treeAfter moment).subscriptionsAt address ↔
          ¬ Over history.host.session.journal.toList shown moment address subscription)) ∧
    history.host.session.journal.Throughout Entry.IsThrough ∧
    history.host.session.journal.Throughout Entry.IsDue ∧
    ∀ stream report, (stop code stream history.host).1 = .returned report →
      ∃ opening before between, before = history.host.session.journal.toList ++ opening ∧
        (stop code stream history.host).2.session.journal.toList =
          before ++ .grown ((treeAfter before).dropUnkept stream).2 :: between ++
            [.sent (.streamStopped stream)] ∧
        countLate none opening = 0 ∧
        (∀ entry ∈ between, entry.isInner = true) ∧
        Lasting (before ++ [.grown ((treeAfter before).dropUnkept stream).2])
          (stop code stream history.host).2.session.journal.toList ∧
        report.subscriptionsRemoved +
            ((treeAfter before).dropUnkept stream).2.subscriptionsOf stream =
          (treeAfter before).subscriptionsOf stream ∧
        ∀ address, address.stream ≠ stream →
          ((treeAfter before).dropUnkept stream).2.parameter? address =
            (treeAfter before).parameter? address := by
  have traced := History.traced reachable
  have changes := traced.changes
  refine ⟨traced.tree, fun _ => changes.numbered, ?begins, ?stays, traced.through, traced.due, ?stops⟩
  case begins =>
    intro earlier after later split address subscription member
    by_cases old : subscription ∈ (treeAfter earlier).subscriptionsAt address
    · exact .inl old
    · exact .inr ((changes earlier after later split).begins member old)
  case stays =>
    exact fun shown moment since isPrefix address subscription there =>
      changes.stays_iff since isPrefix there
  case stops =>
    intro stream report returned
    have run : stop code stream history.host =
        (.returned report, (stop code stream history.host).2) := Prod.ext returned rfl
    obtain ⟨opening, between, clearing⟩ := (meets_stop_removes code stream traced).of_returned run
    refine ⟨opening, _, between, rfl, clearing.written, clearing.early, clearing.inner,
      clearing.lasting, ?_, fun address other => ?_⟩
    · rw [clearing.count]
      exact dropUnkept_add _ _
    · rw [parameter?_dropUnkept, if_neg other]

/-- One of two subscriptions that have the numbers of their callbacks. -/
def echoSubscription (number : Nat) : Subscription :=
  { id := number, callback := { code := number }, context := {}, keptAtRestart := false }

/-- The first subscription has ended when the push is through, and the second goes on. -/
theorem tenure_echo :
    Over echoHistory.host.session.journal.toList (echoHistory.host.session.journal.toList.take 9)
      echoHistory.host.session.journal.toList (echoDelivery true).address (echoSubscription 0) ∧
    ¬ Over echoHistory.host.session.journal.toList (echoHistory.host.session.journal.toList.take 9)
      echoHistory.host.session.journal.toList (echoDelivery true).address (echoSubscription 1) := by
  have made : (treeAfter (echoHistory.host.session.journal.toList.take 9)).subscriptionsAt
      (echoDelivery true).address = [echoSubscription 0, echoSubscription 1] := by
    decide +kernel
  have left : (treeAfter echoHistory.host.session.journal.toList).subscriptionsAt
      (echoDelivery true).address = [echoSubscription 1] := by
    decide +kernel
  obtain ⟨_, _, _, stays, _⟩ := tenure echoHistory_reachable
  have stays := stays (echoHistory.host.session.journal.toList.take 9) _ (List.take_prefix _ _)
    List.prefix_rfl (echoDelivery true).address
  rw [made, left] at stays
  constructor
  · by_contra lasts
    exact absurd ((stays _ (by simp)).mpr lasts) (by decide)
  · exact (stays _ (by simp)).mp List.mem_cons_self

/-- User code of three filters.  The second asks for its own parameter when it is
constructed, with a callback that subscribes to a parameter of the first; the third panics
when it is started. -/
def tardyCode : UserCode Unit :=
  { gainCode with
    callback := fun _ _ =>
      .ask (.subscribe ⟨1⟩ "source" (some "gain") .any { code := 1 } {} {}) fun _ => .done 0
    filter := fun reference function context =>
      match reference, function with
      | 1, .construct =>
        .ask (.create context "gain" .bool (.bool true) none) fun _ =>
          .ask (.query (gainQuery context.stream)) fun _ => .done (.ok ())
      | 2, .start => .panic "no signal"
      | _, _ => gainCode.filter reference function context }

/-- A history in which one stream has been started, and the start of another has broken off
after its first filter was started. -/
def tardyHistory : History Unit :=
  .after tardyCode { episodes := [], host := freshHost }
    [.addStream (FilterGraph.empty.append "source" (some 0)),
      .addStream ((FilterGraph.empty.append "source" (some 1)).append "sink" (some 2)),
      .start ⟨1⟩, .start ⟨2⟩]

theorem tardyHistory_reachable : tardyHistory.Reachable tardyCode := by
  refine ⟨_, _, _, create_freshHost, History.leads_after _
    ⟨⟨⟨?_, ?attach⟩, ?_⟩, ⟨⟨?_, ?attach'⟩, ?_⟩, ⟨⟨?_, nofun⟩, ?_⟩, ⟨⟨?_, nofun⟩, ?_⟩, trivial⟩⟩
  case attach =>
    intro graph same
    cases same
    exact .add .new rfl
  case attach' =>
    intro graph same
    cases same
    exact (History.Loose.append .new rfl).append rfl
  all_goals decide +kernel

/-- A subscription that is not one that stays can be there when a stop of its stream is
over, for it can be made while the stop looks through the queue. -/
theorem not_settled_after_stop : ¬ ∀ (σ : Type) (code : UserCode σ) (history : History σ),
    history.Reachable code → ∀ stream report, (stop code stream history.host).1 = .returned report →
      ∀ address, address.stream = stream →
        ∀ subscription ∈ (stop code stream history.host).2.session.tree.subscriptionsAt address,
          subscription.keptAtRestart = true := by
  intro settled
  have returned : (stop tardyCode ⟨1⟩ tardyHistory.host).1 =
      .returned { stopped := ["source"], failed := [], subscriptionsRemoved := 0,
                  hookFailures := 0 } := by
    decide +kernel
  have there : (stop tardyCode ⟨1⟩ tardyHistory.host).2.session.tree.subscriptionsAt
      (echoDelivery true).address =
        [{ id := 0, callback := { code := 1 }, context := {}, keptAtRestart := false }] := by
    decide +kernel
  have kept := settled Unit tardyCode tardyHistory tardyHistory_reachable ⟨1⟩ _ returned
    (echoDelivery true).address rfl _ (there ▸ List.mem_cons_self)
  cases kept

end Host

end StreamControl
