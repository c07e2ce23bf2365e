import Mathlib.Data.List.Nodup
import StreamControl.Proofs.TreeShape

/-!
# Subscriptions in the tree

A subscription has a number of its own and belongs to one parameter for as long as
it lasts.  `ParameterTree.OwnedBy` says so by an owner for every number; changes of
the tree let go of subscriptions or make new ones under new numbers, so the owners
of earlier numbers stay what they are (`ParameterTree.Resubscribed`).

Only storing a value disturbs what is subscribed to: every other change leaves the
values of parameters that have subscriptions alone, and the subscriptions of each
parameter in the order of their numbers (`ParameterTree.Undisturbed`).
-/

set_option autoImplicit false

namespace StreamControl

theorem Address.eq_of_parts {one other : Address} (stream : one.stream = other.stream)
    (filter : one.filter = other.filter) (name : one.name = other.name) : one = other := by
  cases one
  cases other
  simp_all

/-- A subscription of a callback can be made, unless it is not to be there twice and is there. -/
def Parameter.Takes (parameter : Parameter) (callback : Callback) (flags : SubscribeFlags) : Prop :=
  flags.keepOne = true → ∀ subscription ∈ parameter.subscriptions,
    subscription.callback.same callback = false

namespace ParameterTree

/-! ## Parameters by address -/

/-- The parameter at an address. -/
def parameter? (tree : ParameterTree) (address : Address) : Option Parameter :=
  (tree.streams.find? address.stream).bind fun filters =>
    (filters.find? address.filter).bind fun entry => entry.parameters.find? address.name

/-- The subscriptions of the parameter at an address. -/
def subscriptionsAt (tree : ParameterTree) (address : Address) : List Subscription :=
  ((tree.parameter? address).map (·.subscriptions)).getD []

variable {tree after : ParameterTree} {address other : Address} {subscription : Subscription}

theorem mem_subscriptionsAt : subscription ∈ tree.subscriptionsAt address ↔
    ∃ parameter, tree.parameter? address = some parameter ∧
      subscription ∈ parameter.subscriptions := by
  rw [subscriptionsAt]
  cases tree.parameter? address <;> simp

theorem knows_of_parameter? {parameter : Parameter}
    (found : tree.parameter? address = some parameter) : tree.Knows address.stream := by
  obtain ⟨filters, known, _⟩ := Option.bind_eq_some_iff.mp found
  rw [Knows, known]
  rfl

theorem parameterAt_eq_ok_iff {parameter : Parameter} :
    tree.parameterAt address.stream address.filter address.name = .ok parameter ↔
      tree.parameter? address = some parameter := by
  rw [parameterAt_eq_locate, parameter?]
  cases located : tree.locate address.stream address.filter address.name with
  | error fault =>
    refine ⟨nofun, fun found => ?_⟩
    simp only [Option.bind_eq_some_iff] at found
    obtain ⟨filters, hstream, entry, hfilter, hname⟩ := found
    rw [locate_eq_ok_iff.mpr ⟨filters, hstream, hfilter, hname⟩] at located
    cases located
  | ok found =>
    obtain ⟨filters, hstream, hfilter, hname⟩ := locate_eq_ok_iff.mp located
    simp [hstream, hfilter, hname, Except.mapError]

theorem parameter?_modifyFilter (stream : StreamId) (filter : String)
    (change : FilterEntry → FilterEntry) :
    (tree.modifyFilter stream filter change).parameter? address =
      if address.stream = stream ∧ address.filter = filter then
        (tree.streams.find? stream).bind fun filters =>
          (filters.find? filter).bind fun entry => (change entry).parameters.find? address.name
      else tree.parameter? address := by
  rw [parameter?, parameter?, find?_modifyFilter]
  by_cases here : address.stream = stream
  · subst here
    rw [if_pos rfl]
    cases tree.streams.find? address.stream with
    | none => simp
    | some filters =>
      simp only [Option.map_some, Option.bind_some, OrderedMap.find?_modify, true_and]
      by_cases same : address.filter = filter
      · subst same
        simp only [if_true]
        cases filters.find? address.filter <;> rfl
      · simp only [same, if_false]
  · rw [if_neg here, if_neg fun both => here both.1]

theorem parameter?_modifyParameter (other : Address) (change : Parameter → Parameter) :
    (tree.modifyParameter other.stream other.filter other.name change).parameter? address =
      if address = other then (tree.parameter? address).map change
      else tree.parameter? address := by
  rw [modifyParameter, parameter?_modifyFilter]
  by_cases here : address.stream = other.stream ∧ address.filter = other.filter
  · rw [if_pos here, parameter?, here.1, here.2]
    cases tree.streams.find? other.stream with
    | none => simp
    | some filters =>
      simp only [Option.bind_some]
      cases filters.find? other.filter with
      | none => simp
      | some entry =>
        simp only [Option.bind_some, OrderedMap.find?_modify]
        by_cases same : address.name = other.name
        · have equal : address = other := by
            cases address
            cases other
            simp_all
          rw [if_pos same, if_pos equal]
        · rw [if_neg same, if_neg fun equal => same (congrArg Address.name equal)]
  · rw [if_neg here, if_neg fun equal =>
      here ⟨congrArg Address.stream equal, congrArg Address.filter equal⟩]

/-! ## Parameters after each change -/

theorem checkType_eq_ok {filter name : String} {declared : ValueType} {value : Value}
    (checked : checkType filter name declared value = .ok ()) : value.fits declared = true := by
  rw [checkType] at checked
  split at checked
  · assumption
  · cases checked

/-- A filter of a known stream gets a parameter that it did not have, with a value that may
be stored. -/
theorem create_eq_ok (address : Address) {type : ValueType} {initial : Value}
    {setter : Option CodeRef}
    (created : tree.create address.stream address.filter address.name type initial setter =
      .ok after) :
    initial.fits type = true ∧ tree.parameter? address = none ∧ tree.Knows address.stream ∧
      after.nextSubscription = tree.nextSubscription ∧
      ∀ other, after.parameter? other = if other = address then
        some { type, value := initial, setter }
      else tree.parameter? other := by
  simp only [create, bind, Except.bind] at created
  split at created
  · cases created
  · rename_i entry found
    split at created
    · cases created
    · split at created
      · cases created
      · rename_i free
        split at created
        · cases created
        · rename_i fits
          cases created
          obtain ⟨filters, hstream, hfilter⟩ := filterAt_eq_ok_iff.mp found
          have free : entry.parameters.find? address.name = none :=
            Option.not_isSome_iff_eq_none.mp free
          refine ⟨checkType_eq_ok fits, ?_, by rw [Knows, hstream]; rfl, rfl, fun other => ?_⟩
          · rw [parameter?, hstream, Option.bind_some, hfilter, Option.bind_some, free]
          · rw [parameter?_modifyFilter]
            by_cases here : other.stream = address.stream ∧ other.filter = address.filter
            · rw [if_pos here, hstream, Option.bind_some, hfilter, Option.bind_some,
                OrderedMap.find?_insert, parameter?, here.1, hstream, Option.bind_some, here.2,
                hfilter, Option.bind_some]
              by_cases same : other.name = address.name
              · rw [if_pos same, if_pos (Address.eq_of_parts here.1 here.2 same)]
              · rw [if_neg same, if_neg fun equal => same (congrArg Address.name equal)]
            · rw [if_neg here, if_neg fun equal =>
                here ⟨congrArg Address.stream equal, congrArg Address.filter equal⟩]

/-- A value is stored with a parameter that is there; the subscriptions that are told of
it are those that the parameter has. -/
theorem store_eq_ok (address : Address) {value : Value} {subscribers : List Subscription}
    (stored : tree.store address.stream address.filter address.name value =
      .ok (subscribers, after)) :
    subscribers = tree.subscriptionsAt address ∧
      after.nextSubscription = tree.nextSubscription ∧
      ∀ other, after.parameter? other = if other = address then
        (tree.parameter? other).map fun parameter => { parameter with value }
      else tree.parameter? other := by
  simp only [store, bind, Except.bind] at stored
  split at stored
  · cases stored
  · rename_i parameter found
    split at stored
    · cases stored
    · cases stored
      rw [parameterAt_eq_ok_iff] at found
      refine ⟨?_, rfl, fun other => parameter?_modifyParameter _ _⟩
      rw [subscriptionsAt, found, Option.map_some, Option.getD_some]

/-- Storing a value changes no subscriptions. -/
theorem subscriptionsAt_store (address : Address) {value : Value}
    {subscribers : List Subscription} (stored : tree.store address.stream address.filter address.name value =
      .ok (subscribers, after)) (other : Address) :
    after.subscriptionsAt other = tree.subscriptionsAt other := by
  rw [subscriptionsAt, subscriptionsAt, (store_eq_ok address stored).2.2]
  split
  · rw [Option.map_map]
    rfl
  · rfl

/-- Only what may be stored under the declared type is stored. -/
theorem fits_of_store (address : Address) {value : Value} {subscribers : List Subscription}
    (stored : tree.store address.stream address.filter address.name value =
      .ok (subscribers, after)) :
    ∃ parameter, tree.parameter? address = some parameter ∧ value.fits parameter.type = true := by
  simp only [store, bind, Except.bind] at stored
  split at stored
  · cases stored
  · rename_i parameter found
    split at stored
    · cases stored
    · rename_i fits
      exact ⟨parameter, parameterAt_eq_ok_iff.mp found, checkType_eq_ok fits⟩

theorem parameter?_unsubscribe (address : Address) (finished : List Nat) :
    (tree.unsubscribe address.stream address.filter address.name finished).parameter? other =
      if other = address then (tree.parameter? other).map fun parameter =>
        { parameter with subscriptions := parameter.subscriptions.filter fun subscription =>
            subscription.id ∉ finished }
      else tree.parameter? other := parameter?_modifyParameter _ _

theorem parameter?_addStream (stream : StreamId) :
    (tree.addStream stream).parameter? address = tree.parameter? address := by
  rw [parameter?, parameter?, find?_addStream]
  split
  · rename_i here
    rw [here]
    cases tree.streams.find? stream <;> rfl
  · rfl

theorem nextSubscription_addFilter {stream : StreamId} {filter : String}
    (added : tree.addFilter stream filter = .ok after) :
    after.nextSubscription = tree.nextSubscription := by
  simp only [addFilter, bind, Except.bind] at added
  repeat (split at added; cases added)
  cases added
  rfl

theorem parameter?_addFilter {stream : StreamId} {filter : String}
    (added : tree.addFilter stream filter = .ok after) :
    after.parameter? address = tree.parameter? address := by
  obtain ⟨filters, hstream, free, same⟩ := addFilter_eq_ok added
  rw [parameter?, parameter?, same, OrderedMap.find?_insert]
  split
  · rename_i here
    rw [here, hstream, Option.bind_some, Option.bind_some, OrderedMap.find?_insert]
    split
    · rename_i here
      rw [here, free]
      rfl
    · rfl
  · rfl

theorem nextSubscription_setStarted {stream : StreamId} {filter : String} {started : Bool}
    (marked : tree.setStarted stream filter started = .ok after) :
    after.nextSubscription = tree.nextSubscription := by
  simp only [setStarted, bind, Except.bind] at marked
  split at marked
  · cases marked
  · cases marked
    rfl

theorem parameter?_setStarted {stream : StreamId} {filter : String} {started : Bool}
    (marked : tree.setStarted stream filter started = .ok after) :
    after.parameter? address = tree.parameter? address := by
  simp only [setStarted, bind, Except.bind] at marked
  split at marked
  · cases marked
  · cases marked
    rw [parameter?_modifyFilter]
    split
    · rename_i here
      rw [parameter?, here.1, here.2]
    · rfl

theorem parameter?_removeStream (stream : StreamId) :
    (tree.removeStream stream).parameter? address =
      if address.stream = stream then none else tree.parameter? address := by
  rw [parameter?, removeStream, OrderedMap.find?_erase]
  split <;> rfl

theorem parameter?_dropUnkept (stream : StreamId) :
    (tree.dropUnkept stream).2.parameter? address =
      if address.stream = stream then (tree.parameter? address).map Parameter.stopped
      else tree.parameter? address := by
  rw [parameter?, find?_dropUnkept, parameter?]
  split
  · cases tree.streams.find? address.stream with
    | none => rfl
    | some filters =>
      rw [Option.map_some, Option.bind_some, Option.bind_some, OrderedMap.find?_mapValues]
      cases filters.find? address.filter with
      | none => rfl
      | some entry =>
        rw [Option.map_some, Option.bind_some, Option.bind_some, OrderedMap.find?_mapValues]
  · rfl

/-! ## Owners of subscriptions -/

/-- Every subscription has a number below the next one, which tells the parameter and
the callback. -/
def OwnedBy (tree : ParameterTree) (owner : Nat → Address × Callback) : Prop :=
  ∀ address subscription, subscription ∈ tree.subscriptionsAt address →
    subscription.id < tree.nextSubscription ∧
      owner subscription.id = (address, subscription.callback)

/-- One tree has the subscriptions of another, apart from some that are over and some
that are new. -/
structure Resubscribed (before after : ParameterTree) : Prop where
  /-- Numbers are used once. -/
  next : before.nextSubscription ≤ after.nextSubscription
  /-- Subscriptions with earlier numbers were there before. -/
  old : ∀ address subscription, subscription ∈ after.subscriptionsAt address →
    subscription.id < before.nextSubscription → subscription ∈ before.subscriptionsAt address
  /-- New numbers have owners, too. -/
  owned : ∀ owner, before.OwnedBy owner →
    ∃ further, (∀ id, id < before.nextSubscription → further id = owner id) ∧ after.OwnedBy further

/-- The numbers of the subscriptions of a parameter go up. -/
def InOrder (tree : ParameterTree) : Prop :=
  ∀ address, (tree.subscriptionsAt address).Pairwise fun one two => one.id < two.id

/-- Every subscription has a number of its own, below the next one, and a parameter has its
subscriptions in the order of their numbers. -/
structure Numbered (tree : ParameterTree) : Prop where
  /-- Numbers are given out in order. -/
  below : ∀ address, ∀ subscription ∈ tree.subscriptionsAt address,
    subscription.id < tree.nextSubscription
  /-- No number is given out twice. -/
  alone : ∀ address, ∀ subscription ∈ tree.subscriptionsAt address,
    ∀ other, ∀ one ∈ tree.subscriptionsAt other, one.id = subscription.id →
      other = address ∧ one = subscription
  /-- The numbers go up. -/
  inOrder : tree.InOrder

theorem OwnedBy.numbered {owner : Nat → Address × Callback} (owned : tree.OwnedBy owner)
    (inOrder : tree.InOrder) : tree.Numbered where
  below address subscription member := (owned address subscription member).1
  inOrder := inOrder
  alone address subscription member other one there same := by
    have here : other = address := by
      have owns := (owned other one there).2
      rw [same, (owned address subscription member).2, Prod.mk.injEq] at owns
      exact owns.1.symm
    have distinct : ((tree.subscriptionsAt address).map (·.id)).Nodup :=
      List.pairwise_map.mpr ((inOrder address).imp Nat.ne_of_lt)
    exact ⟨here, List.inj_on_of_nodup_map distinct (here ▸ there) member same⟩

/-- One tree has the subscriptions of another in the same sense, and the parameters that
they are of have kept their values. -/
structure Undisturbed (before after : ParameterTree) : Prop extends
    Resubscribed before after where
  /-- A parameter with an earlier subscription has the value that it had. -/
  value : ∀ address parameter subscription, after.parameter? address = some parameter →
    subscription ∈ parameter.subscriptions → subscription.id < before.nextSubscription →
      ∃ old, before.parameter? address = some old ∧ old.value = parameter.value
  /-- Subscriptions stay in order. -/
  inOrder : ∀ owner, before.OwnedBy owner → before.InOrder → after.InOrder

variable {before between : ParameterTree}

namespace Resubscribed

theorem of_subset (next : after.nextSubscription = before.nextSubscription)
    (subset : ∀ address, after.subscriptionsAt address ⊆ before.subscriptionsAt address) :
    Resubscribed before after where
  next := Nat.le_of_eq next.symm
  old address _ member _ := subset address member
  owned owner owned :=
    ⟨owner, fun _ _ => rfl, fun address _ member => next ▸ owned address _ (subset address member)⟩

theorem trans (one : Resubscribed before between) (two : Resubscribed between after) :
    Resubscribed before after where
  next := Nat.le_trans one.next two.next
  old address subscription member early :=
    one.old address subscription
      (two.old address subscription member (Nat.lt_of_lt_of_le early one.next)) early
  owned owner owned := by
    obtain ⟨further, same, owned⟩ := one.owned owner owned
    obtain ⟨last, same', owned⟩ := two.owned further owned
    exact ⟨last, fun id early =>
      (same' id (Nat.lt_of_lt_of_le early one.next)).trans (same id early), owned⟩

end Resubscribed

namespace Undisturbed

/-- A parameter with an earlier subscription had that subscription and its value
before. -/
theorem found (undisturbed : Undisturbed before after) {parameter : Parameter}
    (found : after.parameter? address = some parameter)
    (among : subscription ∈ parameter.subscriptions)
    (early : subscription.id < before.nextSubscription) :
    ∃ old, before.parameter? address = some old ∧ old.value = parameter.value ∧
      subscription ∈ old.subscriptions := by
  obtain ⟨old, there, same⟩ := undisturbed.value address parameter subscription found among early
  obtain ⟨old', there', among'⟩ := mem_subscriptionsAt.mp
    (undisturbed.old address subscription (mem_subscriptionsAt.mpr ⟨parameter, found, among⟩) early)
  rw [there, Option.some.injEq] at there'
  exact ⟨old, there, same, there' ▸ among'⟩

/-- Where parameters are found they were there before, with the same values and at
least the same subscriptions, or they have no subscriptions. -/
theorem of_sublist (next : after.nextSubscription = before.nextSubscription)
    (found : ∀ address parameter, after.parameter? address = some parameter →
      parameter.subscriptions = [] ∨ ∃ old, before.parameter? address = some old ∧
        old.value = parameter.value ∧ parameter.subscriptions.Sublist old.subscriptions) :
    Undisturbed before after := by
  have sublist : ∀ address,
      (after.subscriptionsAt address).Sublist (before.subscriptionsAt address) := by
    intro address
    rw [subscriptionsAt]
    cases there : after.parameter? address with
    | none => exact List.nil_sublist _
    | some parameter =>
      rcases found address parameter there with none | ⟨old, was, _, fewer⟩
      · rw [Option.map_some, Option.getD_some, none]
        exact List.nil_sublist _
      · rwa [subscriptionsAt, was]
  refine { Resubscribed.of_subset next fun address => (sublist address).subset with
    value := fun address parameter subscription there among _ => ?_
    inOrder := fun _ _ inOrder address => (inOrder address).sublist (sublist address) }
  rcases found address parameter there with none | ⟨old, was, same, _⟩
  · rw [none] at among
    cases among
  · exact ⟨old, was, same⟩

/-- Where parameters are found that were not there before, they have no
subscriptions. -/
theorem of_parameters (next : after.nextSubscription = before.nextSubscription)
    (found : ∀ address parameter, after.parameter? address = some parameter →
      before.parameter? address = some parameter ∨ parameter.subscriptions = []) :
    Undisturbed before after :=
  of_sublist next fun address parameter there =>
    (found address parameter there).symm.imp id fun same =>
      ⟨parameter, same, rfl, List.Sublist.refl _⟩

theorem refl (tree : ParameterTree) : Undisturbed tree tree :=
  of_parameters rfl fun _ _ found => .inl found

theorem trans (one : Undisturbed before between) (two : Undisturbed between after) :
    Undisturbed before after where
  toResubscribed := one.toResubscribed.trans two.toResubscribed
  value address parameter subscription there among early := by
    obtain ⟨middle, was, same, among'⟩ :=
      two.found there among (Nat.lt_of_lt_of_le early one.next)
    obtain ⟨old, first, same', _⟩ := one.found was among' early
    exact ⟨old, first, same'.trans same⟩
  inOrder owner owned inOrder := by
    obtain ⟨further, _, owned'⟩ := one.owned owner owned
    exact two.inOrder further owned' (one.inOrder owner owned inOrder)

end Undisturbed

/-! ## Changes that user code can bring about -/

theorem resubscribed_store {stream : StreamId} {filter name : String} {value : Value}
    {subscribers : List Subscription}
    (stored : tree.store stream filter name value = .ok (subscribers, after)) :
    Resubscribed tree after :=
  .of_subset (store_eq_ok ⟨stream, filter, name⟩ stored).2.1 fun other =>
    (subscriptionsAt_store ⟨stream, filter, name⟩ stored other ▸ List.Subset.refl _)

theorem undisturbed_create {stream : StreamId} {filter name : String} {type : ValueType}
    {initial : Value} {setter : Option CodeRef}
    (created : tree.create stream filter name type initial setter = .ok after) :
    Undisturbed tree after := by
  obtain ⟨_, _, _, next, changed⟩ := create_eq_ok ⟨stream, filter, name⟩ created
  refine .of_parameters next fun address parameter found => ?_
  rw [changed] at found
  split at found
  · cases found
    exact .inr rfl
  · exact .inl found

theorem undisturbed_unsubscribe (stream : StreamId) (filter name : String) (finished : List Nat) :
    Undisturbed tree (tree.unsubscribe stream filter name finished) := by
  refine .of_sublist rfl fun address parameter found => .inr ?_
  rw [parameter?_unsubscribe ⟨stream, filter, name⟩] at found
  split at found
  · obtain ⟨old, there, rfl⟩ := Option.map_eq_some_iff.mp found
    exact ⟨old, there, rfl, List.filter_sublist⟩
  · exact ⟨parameter, found, rfl, List.Sublist.refl _⟩

/-- A subscription that is finished is gone. -/
theorem not_mem_of_unsubscribe {finished : List Nat}
    (member : subscription ∈ (tree.unsubscribe address.stream address.filter address.name
      finished).subscriptionsAt address) : subscription.id ∉ finished := by
  obtain ⟨parameter, found, among⟩ := mem_subscriptionsAt.mp member
  rw [parameter?_unsubscribe, if_pos rfl] at found
  obtain ⟨old, _, rfl⟩ := Option.map_eq_some_iff.mp found
  simpa using (List.mem_filter.mp among).2

/-- A parameter takes a subscription under the next number, or none. -/
theorem subscribe_cases (parameter : Parameter) (callback : Callback) (context : UserContext)
    (flags : SubscribeFlags) (number : Nat) :
    parameter.subscribe callback context flags number = (0, number, parameter) ∨
      parameter.Takes callback flags ∧
      parameter.subscribe callback context flags number = (1, number + 1, { parameter with
        subscriptions := parameter.subscriptions ++
          [{ id := number, callback, context, keptAtRestart := flags.keepAtRestart }] }) := by
  rw [Parameter.subscribe]
  split
  · exact .inl rfl
  · rename_i free
    refine .inr ⟨fun once subscription member => ?_, rfl⟩
    simp only [once, Bool.true_and, List.any_eq_true, not_exists, not_and, Bool.not_eq_true] at free
    exact free subscription member

/-- A parameter has one more subscription, under the next number. -/
theorem undisturbed_one {parameter : Parameter} (found : tree.parameter? other = some parameter)
    {new : Subscription} (number : new.id = tree.nextSubscription)
    (next : after.nextSubscription = tree.nextSubscription + 1)
    (changed : ∀ address, after.parameter? address = if address = other then
      some { parameter with subscriptions := parameter.subscriptions ++ [new] }
    else tree.parameter? address) : Undisturbed tree after := by
  have same : ∀ address, after.subscriptionsAt address = tree.subscriptionsAt address ∨
      address = other ∧ after.subscriptionsAt address = tree.subscriptionsAt address ++ [new] := by
    intro address
    rw [subscriptionsAt, subscriptionsAt, changed]
    split
    · rename_i here
      exact .inr ⟨here, by rw [here, found]; rfl⟩
    · exact .inl rfl
  -- Whatever subscriptions there are now, there were before, but for the new one.
  have only : ∀ address subscription, subscription ∈ after.subscriptionsAt address →
      subscription ∈ tree.subscriptionsAt address ∨ address = other ∧ subscription = new := by
    intro address subscription member
    rcases same address with same | ⟨here, added⟩
    · exact .inl (same ▸ member)
    · rw [added, List.mem_append, List.mem_singleton] at member
      exact member.imp id fun last => ⟨here, last⟩
  refine { next := by omega, old := fun address subscription member early => ?_,
           owned := fun owner owned => ?_, value := fun address final subscription there _ _ => ?_,
           inOrder := fun owner owned inOrder address => ?_ }
  · rcases only address subscription member with old | ⟨_, rfl⟩
    · exact old
    · omega
  · refine ⟨fun id => if id = tree.nextSubscription then (other, new.callback) else owner id,
      fun id early => if_neg (by omega), fun address subscription member => ?_⟩
    rcases only address subscription member with old | ⟨rfl, rfl⟩
    · obtain ⟨early, owns⟩ := owned address subscription old
      exact ⟨by omega, (if_neg (by omega)).trans owns⟩
    · exact ⟨by omega, if_pos number⟩
  · rw [changed] at there
    split at there
    · rename_i here
      rw [Option.some.injEq] at there
      exact ⟨parameter, here ▸ found, there ▸ rfl⟩
    · exact ⟨final, there, rfl⟩
  · rcases same address with same | ⟨_, added⟩
    · exact same ▸ inOrder address
    · rw [added, List.pairwise_append]
      refine ⟨inOrder address, List.pairwise_singleton _ _, fun one member two last => ?_⟩
      rw [List.mem_singleton.mp last, number]
      exact (owned address one member).1

section Subscribe

variable {callback : Callback} {context : UserContext} {flags : SubscribeFlags}

/-- What holds when a parameter has one more subscription, or when nothing changes, holds
when a callback is subscribed to parameters one after the other. -/
theorem subscribeAll_induction {R : ParameterTree → ParameterTree → Prop}
    (same : ∀ tree after : ParameterTree, after.nextSubscription = tree.nextSubscription →
      (∀ address, after.parameter? address = tree.parameter? address) → R tree after)
    (trans : ∀ before between after : ParameterTree, R before between → R between after →
      R before after)
    (one : ∀ (tree after : ParameterTree) (other : Address) (parameter : Parameter),
      tree.parameter? other = some parameter → parameter.Takes callback flags →
      after.nextSubscription = tree.nextSubscription + 1 →
      (∀ address, after.parameter? address = if address = other then
        some { parameter with subscriptions := parameter.subscriptions ++
          [{ id := tree.nextSubscription, callback, context,
             keptAtRestart := flags.keepAtRestart }] }
      else tree.parameter? address) → R tree after)
    (stream : StreamId) (filter : String) (names : List String) :
    ∀ tree : ParameterTree,
      R tree (tree.subscribeAll stream filter callback context flags names).2 := by
  induction names with
  | nil => exact fun tree => same tree tree rfl fun _ => rfl
  | cons name rest ih =>
    intro tree
    rw [subscribeAll]
    cases found : tree.parameterAt stream filter name with
    | error fault => exact ih tree
    | ok parameter =>
      have there : tree.parameter? ⟨stream, filter, name⟩ = some parameter :=
        parameterAt_eq_ok_iff.mp found
      have changed : ∀ address changed, _ := fun address changed =>
        @parameter?_modifyParameter tree address ⟨stream, filter, name⟩ fun _ => changed
      dsimp only
      refine trans _ _ _ ?_ (ih _)
      rcases subscribe_cases parameter callback context flags tree.nextSubscription with
        made | ⟨takes, made⟩
      · rw [made]
        refine same _ _ rfl fun address => (changed address _).trans ?_
        split
        · rename_i here
          rw [here, there, Option.map_some]
        · rfl
      · rw [made]
        refine one _ _ _ parameter there takes rfl fun address => (changed address _).trans ?_
        split
        · rename_i here
          rw [here, there, Option.map_some]
        · rfl

theorem undisturbed_subscribe {stream : StreamId} {filter : String} {name : Option String}
    {type : ValueType} {made : Nat}
    (subscribed : tree.subscribe stream filter name type callback context flags =
      .ok (made, after)) : Undisturbed tree after := by
  obtain ⟨names, all⟩ := subscribe_eq_ok subscribed
  have undisturbed : Undisturbed tree (tree.subscribeAll stream filter callback context flags
      names).2 := by
    refine subscribeAll_induction (fun tree after next found => ?_)
      (fun _ _ _ one two => one.trans two)
      (fun tree after other parameter there _ next found => ?_) stream filter names tree
    · exact .of_parameters next fun address parameter there => .inl (found address ▸ there)
    · exact undisturbed_one there rfl next found
  rwa [all] at undisturbed

/-- A tree has the parameters of another, with further subscriptions of one callback under
numbers that are new. -/
structure Subscribed (callback : Callback) (context : UserContext) (flags : SubscribeFlags)
    (before after : ParameterTree) : Prop where
  /-- Numbers are used once. -/
  next : before.nextSubscription ≤ after.nextSubscription
  /-- Further subscriptions come last. -/
  parameter : ∀ address, ∃ new : List Subscription,
    after.parameter? address = (before.parameter? address).map (fun parameter =>
      { parameter with subscriptions := parameter.subscriptions ++ new }) ∧
    ∀ subscription ∈ new, before.nextSubscription ≤ subscription.id ∧
      subscription.callback = callback ∧ subscription.context = context ∧
        subscription.keptAtRestart = flags.keepAtRestart

theorem Subscribed.trans {before between after : ParameterTree}
    (one : Subscribed callback context flags before between)
    (two : Subscribed callback context flags between after) :
    Subscribed callback context flags before after where
  next := Nat.le_trans one.next two.next
  parameter address := by
    obtain ⟨first, found, firstNew⟩ := one.parameter address
    obtain ⟨second, found', secondNew⟩ := two.parameter address
    refine ⟨first ++ second, ?_, List.forall_mem_append.mpr ⟨firstNew, ?_⟩⟩
    · rw [found', found, Option.map_map]
      simp only [Function.comp_def, List.append_assoc]
    · intro subscription member
      obtain ⟨late, rest⟩ := secondNew subscription member
      exact ⟨Nat.le_trans one.next late, rest⟩

theorem subscribed_subscribe {stream : StreamId} {filter : String} {name : Option String}
    {type : ValueType} {made : Nat}
    (subscribed : tree.subscribe stream filter name type callback context flags =
      .ok (made, after)) : Subscribed callback context flags tree after := by
  obtain ⟨names, all⟩ := subscribe_eq_ok subscribed
  have added : Subscribed callback context flags tree
      (tree.subscribeAll stream filter callback context flags names).2 := by
    refine subscribeAll_induction (fun tree after next found => ?_)
      (fun _ _ _ one two => one.trans two)
      (fun tree after other parameter there _ next found => ?_) stream filter names tree
    · refine ⟨Nat.le_of_eq next.symm, fun address => ⟨[], ?_, fun _ none => nomatch none⟩⟩
      simp [found]
    · refine ⟨next ▸ Nat.le_succ _, fun address => ?_⟩
      rw [found]
      split
      · rename_i here
        refine ⟨_, by rw [here, there, Option.map_some], ?_⟩
        exact List.forall_mem_singleton.mpr ⟨Nat.le_refl _, rfl, rfl, rfl⟩
      · exact ⟨[], by simp, fun _ none => nomatch none⟩
  rwa [all] at added

end Subscribe

/-- Additions leave what is there alone. -/
theorem Addition.undisturbed (addition : tree.Addition after) : Undisturbed tree after := by
  cases addition with
  | create created => exact undisturbed_create created
  | subscribe subscribed => exact undisturbed_subscribe subscribed

/-! ## Changes that only a host makes -/

theorem undisturbed_addStream (stream : StreamId) : Undisturbed tree (tree.addStream stream) :=
  .of_parameters (by rw [addStream]; split <;> rfl) fun _ _ found =>
    .inl (parameter?_addStream stream ▸ found)

theorem undisturbed_addFilter {stream : StreamId} {filter : String}
    (added : tree.addFilter stream filter = .ok after) : Undisturbed tree after :=
  .of_parameters (nextSubscription_addFilter added) fun _ _ found =>
    .inl (parameter?_addFilter added ▸ found)

theorem undisturbed_setStarted {stream : StreamId} {filter : String} {started : Bool}
    (marked : tree.setStarted stream filter started = .ok after) : Undisturbed tree after :=
  .of_parameters (nextSubscription_setStarted marked) fun _ _ found =>
    .inl (parameter?_setStarted marked ▸ found)

theorem undisturbed_removeStream (stream : StreamId) :
    Undisturbed tree (tree.removeStream stream) := by
  refine .of_parameters rfl fun address parameter found => .inl ?_
  rw [parameter?_removeStream] at found
  split at found
  · cases found
  · exact found

theorem undisturbed_dropUnkept (stream : StreamId) :
    Undisturbed tree (tree.dropUnkept stream).2 := by
  refine .of_sublist rfl fun address parameter found => .inr ?_
  rw [parameter?_dropUnkept] at found
  split at found
  · obtain ⟨old, there, rfl⟩ := Option.map_eq_some_iff.mp found
    exact ⟨old, there, rfl, List.filter_sublist⟩
  · exact ⟨parameter, found, rfl, List.Sublist.refl _⟩

end ParameterTree

end StreamControl
