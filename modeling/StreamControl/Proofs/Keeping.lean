import StreamControl.Proofs.Distribution
import StreamControl.Proofs.Typing

/-!
# Subscriptions that stay when a stream stops

A request to subscribe may ask that the subscription stays when the stream stops, and it may
ask that the same callback is not subscribed to a parameter twice.  A subscription that is
made and stays is reached by every push that begins from then on, however often the stream
stops in between, until its callback fails (`Journal.Changes.remains`, `Journal.Reached`).

A request that asks for both, and finds its callback subscribed, makes no subscription.  Then
it depends on those that are there whether the callback goes on being called when the stream
has stopped: the request does not make them stay (`Host.keeps_at_restart`).
-/

set_option autoImplicit false

namespace StreamControl

namespace ParameterTree

variable {tree after : ParameterTree} {address : Address} {type : ValueType} {callback : Callback}
  {context : UserContext} {flags : SubscribeFlags} {made : Nat}

/-- What comes of a request to subscribe to one parameter: one subscription more, under the
next number, or none, if the callback is there and must not be there twice. -/
theorem subscribe_one
    (subscribed : tree.subscribe address.stream address.filter (some address.name) type callback
      context flags = .ok (made, after)) :
    (made = 1 ∧ after.subscriptionsAt address = tree.subscriptionsAt address ++
      [{ id := tree.nextSubscription, callback, context, keptAtRestart := flags.keepAtRestart }]) ∨
    (made = 0 ∧ flags.keepOne = true ∧
      after.subscriptionsAt address = tree.subscriptionsAt address ∧
      ∃ older ∈ tree.subscriptionsAt address, older.callback.same callback = true) := by
  simp only [subscribe, bind, Except.bind] at subscribed
  split at subscribed
  · cases subscribed
  rename_i entry filtered
  split at subscribed
  · cases subscribed
  rename_i parameter named
  split at subscribed
  case isFalse => cases subscribed
  obtain ⟨filters, known, there⟩ := filterAt_eq_ok_iff.mp filtered
  have found : tree.parameter? address = some parameter := by
    simp [parameter?, known, there, named]
  have here : tree.subscriptionsAt address = parameter.subscriptions := by
    rw [subscriptionsAt, found, Option.map_some, Option.getD_some]
  have changed (changed : Parameter) (number : Nat) : subscriptionsAt
      { tree.modifyParameter address.stream address.filter address.name fun _ => changed with
        nextSubscription := number } address = changed.subscriptions := by
    have there := @parameter?_modifyParameter tree address address fun _ => changed
    rw [if_pos rfl, found, Option.map_some] at there
    exact congrArg (fun found => (found.map (·.subscriptions)).getD []) there
  simp only [subscribeAll, parameterAt_eq_ok_iff.mpr found, Except.ok.injEq, Prod.mk.injEq]
    at subscribed
  obtain ⟨rfl, rfl⟩ := subscribed
  rw [changed, here, Parameter.subscribe]
  split
  · rename_i twice
    rw [Bool.and_eq_true, List.any_eq_true] at twice
    exact .inr ⟨rfl, twice.1, rfl, twice.2⟩
  · exact .inl ⟨rfl, rfl⟩

end ParameterTree

/-- Whether an entry shows that the callback of a subscription has failed. -/
def Entry.isFault (id : Nat) : Entry → Bool
  | left (.callback (.subscription other) _ _) exit => other = id && exit ≠ .succeeded
  | _ => false

namespace Journal

open ParameterTree

variable {entries earlier later opening rest shown between moment body closing : List Entry}
  {tree : ParameterTree} {address : Address} {subscription : Subscription} {value : Value}
  {results : List (Subscription × DispatchOutcome)}

/-! ## What ends a subscription that stays -/

/-- A push finds only those subscriptions to be over whose callbacks have failed. -/
theorem fault_of_reckoned {spent : List Nat} {id : Nat}
    (reckoned : (address, spent) ∈ reckonings entries) (ended : id ∈ spent) :
    ∃ entry ∈ entries, entry.isFault id = true := by
  induction entries using List.reverseRecOn generalizing spent with
  | nil => cases reckoned
  | append_singleton earlier entry ih =>
    have old {spent : List Nat} (reckoned : (address, spent) ∈ reckonings earlier)
        (ended : id ∈ spent) : ∃ fault ∈ earlier ++ [entry], fault.isFault id = true := by
      obtain ⟨fault, among, failed⟩ := ih reckoned ended
      exact ⟨fault, List.mem_append_left _ among, failed⟩
    rw [reckonings_concat] at reckoned
    unfold Entry.reckonedFrom at reckoned
    split at reckoned
    · rcases List.mem_cons.mp reckoned with new | outer
      · cases new
        cases ended
      · exact old outer ended
    · exact old (List.mem_of_mem_tail reckoned) ended
    · rename_i other callback delivery exit
      split at reckoned
      · cases reckoned
      · rename_i inner before outer under
        rcases List.mem_cons.mp reckoned with new | outside
        · -- The push that began last may have found one more.
          cases new
          rcases List.mem_append.mp ended with before | last
          · exact old (under ▸ List.mem_cons_self) before
          · split at last
            · cases last
            · rename_i failed
              cases List.mem_singleton.mp last
              exact ⟨_, List.mem_append_right _ List.mem_cons_self, by simp [Entry.isFault, failed]⟩
        · exact old (under ▸ List.mem_cons_of_mem _ outside) ended
    · exact old reckoned ended

/-- A stream that is forgotten stays so. -/
theorem Changes.stays_forgotten (changes : Changes none entries) {stream : StreamId}
    (knew : (treeAfter shown).Knows stream) (forgot : ¬ (treeAfter (shown ++ between)).Knows stream)
    (isPrefix : shown ++ between ++ later <+: entries) :
    ¬ (treeAfter (shown ++ between ++ later)).Knows stream := by
  refine since_induction (P := fun moment => ¬ (treeAfter moment).Knows stream) forgot ?_ isPrefix
  intro earlier entry rest split ih
  rw [treeAfter_concat]
  cases entry with
  | grown tree =>
    intro knows
    rcases (changes _ tree rest split).knows knows with before | never
    · exact ih before
    · exact never shown ((List.prefix_append _ _).trans (List.prefix_append _ _)) knew
  | _ => exact ih

/-- **A subscription that stays remains there** until its callback fails, as long as the stream
is known. -/
theorem Changes.remains (changes : Changes none entries) (since : shown <+: moment)
    (isPrefix : moment <+: entries)
    (there : subscription ∈ (treeAfter shown).subscriptionsAt address)
    (keeps : subscription.keptAtRestart = true)
    (succeeds : ∀ entry ∈ moment, entry.isFault subscription.id = false)
    (known : (treeAfter moment).Knows address.stream) :
    subscription ∈ (treeAfter moment).subscriptionsAt address := by
  refine (changes.stays_iff since isPrefix there).mpr ?_
  rintro ⟨earlier, tree, later, split, -, ⟨more, rfl⟩, ends⟩
  cases ends with
  | pushed reckoned failed =>
    obtain ⟨fault, among, shows⟩ := fault_of_reckoned (reckoned ▸ List.mem_cons_self) failed
    rw [succeeds fault (by simp [among])] at shows
    cases shows
  | stopped unkept =>
    rw [keeps] at unkept
    cases unkept
  | forgotten knew forgets =>
    refine changes.stays_forgotten knew ?_ isPrefix known
    rwa [treeAfter_concat]

/-- What is over stays so. -/
theorem Over.mono {later : List Entry} (ended : Over entries shown moment address subscription)
    (isPrefix : moment <+: later) : Over entries shown later address subscription := by
  obtain ⟨earlier, tree, rest, split, since, within, ends⟩ := ended
  exact ⟨earlier, tree, rest, split, since, within.trans isPrefix, ends⟩

/-- A subscription that does not stay is gone for good once its stream has stopped. -/
theorem Changes.not_mem_of_stopped (changes : Changes none entries) {before : List Entry}
    (there : subscription ∈ (treeAfter shown).subscriptionsAt address)
    (unkept : subscription.keptAtRestart = false)
    (since : shown <+: before)
    (settled : before ++ [.grown ((treeAfter before).dropUnkept address.stream).2] <+: moment)
    (isPrefix : moment <+: entries) :
    subscription ∉ (treeAfter moment).subscriptionsAt address := by
  have since := since.trans (List.prefix_append before
    [.grown ((treeAfter before).dropUnkept address.stream).2])
  have ended : Over entries shown (before ++ [.grown ((treeAfter before).dropUnkept
      address.stream).2]) address subscription := by
    by_contra lasts
    have still := (changes.stays_iff since (settled.trans isPrefix) there).mpr lasts
    rw [treeAfter_concat, Entry.treeFrom, subscriptionsAt_dropUnkept, if_pos rfl] at still
    have kept := (List.mem_filter.mp still).2
    rw [unkept] at kept
    cases kept
  exact fun still => (changes.stays_iff (since.trans settled) isPrefix there).mp still
    (ended.mono settled)

/-! ## Whom pushes reach -/

/-- A push that begins after some entries calls the callback of a subscription while it is
under way, with the value that it has stored and the subscription's own context. -/
def Reaches (opening : List Entry) (address : Address) (rest : List Entry)
    (subscription : Subscription) : Prop :=
  ∃ value results body closing, Through opening address value results body closing rest ∧
    .entered (.callback (.subscription subscription.id) subscription.callback
      (address.delivery value subscription.context)) ∈ ownTurns body

/-- From some moment on every push of a parameter reaches a subscription, as long as its
callback has not failed. -/
def Reached (entries since : List Entry) (address : Address) (subscription : Subscription) :
    Prop :=
  ∀ opening rest, entries =
      opening ++ .pushing address.stream address.filter address.name :: rest →
    since <+: opening → (∀ entry ∈ opening, entry.isFault subscription.id = false) →
      Reaches opening address rest subscription

/-- A push reaches those who are there when it begins. -/
theorem Through.reaches (through : Through opening address value results body closing rest)
    (there : subscription ∈ (treeAfter opening).subscriptionsAt address)
    (wellFormed : subscription.callback.isWellFormed = true) :
    Reaches opening address rest subscription := by
  refine ⟨value, results, body, closing, through, ?_⟩
  rw [← through.distributed.subscribers, List.mem_map] at there
  obtain ⟨⟨_, outcome⟩, among, rfl⟩ := there
  have allowed := through.distributed.allowed _ among
  rw [through.distributed.turns, List.mem_flatMap]
  refine ⟨_, among, ?_⟩
  cases outcome with
  | invoked code => exact List.mem_cons_self
  | panicked => exact List.mem_cons_self
  | mismatched found =>
    rw [Session.Allows, wellFormed] at allowed
    cases allowed.1

/-- **A subscription that stays is reached by every later push.** -/
theorem Changes.reached (changes : Changes none entries) (bracketed : Bracketed [] entries)
    (there : subscription ∈ (treeAfter shown).subscriptionsAt address)
    (keeps : subscription.keptAtRestart = true)
    (wellFormed : subscription.callback.isWellFormed = true) :
    Reached entries shown address subscription := by
  intro opening rest split since succeeds
  obtain ⟨value, results, body, closing, through⟩ := bracketed.through split
  rw [List.nil_append] at through
  -- The stream is known, since a value of its parameter has been stored.
  obtain ⟨parameter, found, -⟩ := through.distributed.stored
  exact through.reaches (changes.remains since ⟨_, split.symm⟩ there keeps succeeds
    (knows_of_parameter? found)) wellFormed

end Journal

namespace Host

open Session Journal

variable {σ : Type} {code : UserCode σ} {history : History σ}

/-- **Whether a callback that is to stay is called after a stop.**  A request to subscribe a
callback to a parameter, so that it stays when the stream stops, makes a subscription that
every push beginning later reaches, whatever stops and starts lie in between, until the
callback fails.  Only if the callback must not be there twice, and is there, no subscription
is made, and those that are there stay or go as they did: one that was made to stay is
reached, and one that was not is gone with the next stop. -/
theorem keeps_at_restart (reachable : history.Reachable code) {earlier : List Entry}
    {after : ParameterTree} {address : Address} {type : ValueType} {callback : Callback}
    {context : UserContext} {flags : SubscribeFlags} {made : Nat}
    (subscribed : (treeAfter earlier).subscribe address.stream address.filter (some address.name)
      type callback context flags = .ok (made, after))
    (wellFormed : callback.isWellFormed = true) (keeps : flags.keepAtRestart = true) :
    (made = 1 ∧ ∃ new ∈ after.subscriptionsAt address,
      (treeAfter earlier).nextSubscription ≤ new.id ∧ new.callback = callback ∧
        new.context = context ∧
          Reached history.host.session.journal.toList (earlier ++ [.grown after]) address new) ∨
    (made = 0 ∧ flags.keepOne = true ∧
      after.subscriptionsAt address = (treeAfter earlier).subscriptionsAt address ∧
      (∃ older ∈ after.subscriptionsAt address, older.callback.same callback = true) ∧
      ∀ older ∈ after.subscriptionsAt address,
        (older.keptAtRestart = true → older.callback.isWellFormed = true →
          Reached history.host.session.journal.toList (earlier ++ [.grown after]) address older) ∧
        (older.keptAtRestart = false → ∀ before moment, earlier ++ [.grown after] <+: before →
          before ++ [.grown ((treeAfter before).dropUnkept address.stream).2] <+: moment →
            moment <+: history.host.session.journal.toList →
              older ∉ (treeAfter moment).subscriptionsAt address)) := by
  have changes := (History.traced reachable).changes
  have bracketed := History.bracketed reachable
  have last : treeAfter (earlier ++ [.grown after]) = after := treeAfter_concat
  rcases ParameterTree.subscribe_one subscribed with ⟨made, added⟩ | ⟨none, one, same, older⟩
  · have there : (⟨(treeAfter earlier).nextSubscription, callback, context,
        flags.keepAtRestart⟩ : Subscription) ∈ after.subscriptionsAt address := by
      rw [added]
      exact List.mem_append_right _ List.mem_cons_self
    exact .inl ⟨made, _, there, Nat.le_refl _, rfl, rfl,
      changes.reached bracketed (last.symm ▸ there) keeps wellFormed⟩
  · refine .inr ⟨none, one, same, same ▸ older, fun older there => ⟨fun kept callable => ?kept,
      fun unkept before moment since settled isPrefix => ?unkept⟩⟩
    case kept => exact changes.reached bracketed (last.symm ▸ there) kept callable
    case unkept =>
      exact changes.not_mem_of_stopped (last.symm ▸ there) unkept since settled isPrefix

/-- A history in which a callback is subscribed so that it goes when the stream stops, and again
so that it stays and is not there twice; another is subscribed so that it stays.  The stream
is started and stopped, and then a value is pushed. -/
def stayingHistory : History Unit :=
  .after gainCode { episodes := [], host := freshHost }
    [.addStream (FilterGraph.empty.append "source" (some 0)),
      .outside (.ask (.subscribe ⟨1⟩ "source" (some "gain") .bool { code := 0 } {} {}) fun _ =>
        .done ()),
      .outside (.ask (.subscribe ⟨1⟩ "source" (some "gain") .bool { code := 0 } {}
        { keepAtRestart := true, keepOne := true }) fun _ => .done ()),
      .outside (.ask (.subscribe ⟨1⟩ "source" (some "gain") .bool { code := 1 } {}
        { keepAtRestart := true }) fun _ => .done ()),
      .start ⟨1⟩, .stop ⟨1⟩,
      .outside (.ask (.push ⟨⟨1⟩, "source"⟩ "gain" (.bool false)) fun _ => .done ())]

theorem stayingHistory_reachable : stayingHistory.Reachable gainCode := by
  refine ⟨_, _, _, create_freshHost, History.leads_after _
    ⟨⟨⟨?_, ?attach⟩, ?_⟩, ⟨⟨?_, nofun⟩, ?_⟩, ⟨⟨?_, nofun⟩, ?_⟩, ⟨⟨?_, nofun⟩, ?_⟩,
      ⟨⟨?_, nofun⟩, ?_⟩, ⟨⟨?_, nofun⟩, ?_⟩, ⟨⟨?_, nofun⟩, ?_⟩, trivial⟩⟩
  case attach =>
    intro graph same
    cases same
    exact .add .new rfl
  all_goals decide +kernel

/-- What has been written after so many entries. -/
def stayingJournal (count : Nat) : List Entry :=
  stayingHistory.host.session.journal.toList.take count

theorem stayingJournal_succ :
    stayingJournal 9 = stayingJournal 8 ++ [.grown (treeAfter (stayingJournal 9))] ∧
    stayingJournal 10 = stayingJournal 9 ++ [.grown (treeAfter (stayingJournal 10))] ∧
    stayingJournal 24 = stayingJournal 23 ++
      [.grown ((treeAfter (stayingJournal 23)).dropUnkept ⟨1⟩).2] := by
  decide +kernel

theorem stayingJournal_prefix {count limit : Nat} (le : count ≤ limit) :
    stayingJournal count <+: stayingJournal limit :=
  List.take_prefix_take_left le

/-- The push after the stop reaches the second callback; the first is gone, although it was
asked for that it stays. -/
theorem keeps_at_restart_staying :
    (∃ staying ∈ (treeAfter (stayingJournal 10)).subscriptionsAt echoAddress,
      staying.callback = { code := 1 } ∧ Reaches (stayingJournal 27) echoAddress
        (stayingHistory.host.session.journal.toList.drop 28) staying) ∧
    echoSubscription 0 ∉
      (treeAfter stayingHistory.host.session.journal.toList).subscriptionsAt echoAddress := by
  obtain ⟨second, third, stopped⟩ := stayingJournal_succ
  have subscriptions : (treeAfter (stayingJournal 10)).subscriptionsAt echoAddress =
      [echoSubscription 0, { echoSubscription 1 with keptAtRestart := true }] := by
    decide +kernel
  constructor
  · have made : (treeAfter (stayingJournal 9)).subscribe echoAddress.stream echoAddress.filter
        (some echoAddress.name) .bool { code := 1 } {} { keepAtRestart := true } =
          .ok (1, treeAfter (stayingJournal 10)) := by
      decide +kernel
    have split : stayingHistory.host.session.journal.toList = stayingJournal 27 ++
        .pushing ⟨1⟩ "source" "gain" :: stayingHistory.host.session.journal.toList.drop 28 := by
      decide +kernel
    rcases keeps_at_restart stayingHistory_reachable made rfl rfl with
      ⟨-, new, there, -, same, -, reached⟩ | ⟨none, -⟩
    · have number : new.id = 1 := by
        rw [subscriptions, List.mem_cons, List.mem_singleton] at there
        rcases there with rfl | rfl
        · cases same
        · rfl
      refine ⟨new, there, same, reached _ _ split ?_ ?_⟩
      · rw [← third]
        exact stayingJournal_prefix (by decide)
      · rw [number]
        decide +kernel
    · cases none
  · have none : (treeAfter (stayingJournal 8)).subscribe echoAddress.stream echoAddress.filter
        (some echoAddress.name) .bool { code := 0 } {}
          { keepAtRestart := true, keepOne := true } = .ok (0, treeAfter (stayingJournal 9)) := by
      decide +kernel
    have there : echoSubscription 0 ∈
        (treeAfter (stayingJournal 9)).subscriptionsAt echoAddress := by
      decide +kernel
    rcases keeps_at_restart stayingHistory_reachable none rfl rfl with
      ⟨one, -⟩ | ⟨-, -, -, -, older⟩
    · cases one
    · refine (older _ there).2 rfl (stayingJournal 23) _ ?_ ?_ List.prefix_rfl
      · rw [← second]
        exact stayingJournal_prefix (by decide)
      · exact stopped ▸ List.take_prefix 24 _

end Host

end StreamControl
