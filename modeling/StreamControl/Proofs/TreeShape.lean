import StreamControl.ParameterTree

/-!
# The shape of the parameter tree

Which streams, filters and parameters a tree knows, and which of its filters
are marked as started, is its shape.  User code changes values, setters and
subscriptions and adds parameters, but it neither makes a stream or a filter
known nor forgets one, it marks no filter, and it takes no parameter away.
`ParameterTree.Kept` states this of two trees; it is reflexive and transitive,
and one lemma for each change shows that the change keeps the shape.  Each change
also concerns one stream only, and the other streams are as they were
(`ParameterTree.SameBut`).

The changes that only a host makes are described by what can be looked up
afterwards.
-/

set_option autoImplicit false

namespace StreamControl

/-! ## Changes of maps -/

namespace OrderedMap

variable {κ υ : Type} [LT κ]

@[simp] theorem mapValues_mapValues {ω ξ : Type} (f : κ → υ → ω) (g : κ → ω → ξ)
    (m : OrderedMap κ υ) :
    (m.mapValues f).mapValues g = m.mapValues fun key value => g key (f key value) :=
  OrderedMap.ext (List.map_map ..)

theorem mapValues_id (m : OrderedMap κ υ) : m.mapValues (fun _ value => value) = m :=
  OrderedMap.ext (List.map_id' _)

variable [DecidableEq κ]

theorem modify_id (m : OrderedMap κ υ) (key : κ) : m.modify key (fun value => value) = m := by
  simp only [modify, ite_self, mapValues_id]

@[simp] theorem modify_modify (m : OrderedMap κ υ) (key : κ) (f g : υ → υ) :
    (m.modify key f).modify key g = m.modify key fun value => g (f value) := by
  rw [modify, modify, mapValues_mapValues]
  refine congrArg (fun change => m.mapValues change) (funext fun other => funext fun value => ?_)
  by_cases here : other = key <;> simp [here]

theorem find?_modify (m : OrderedMap κ υ) (key other : κ) (f : υ → υ) :
    (m.modify key f).find? other =
      if other = key then (m.find? other).map f else m.find? other := by
  by_cases same : other = key
  · subst same
    rw [if_pos rfl, find?_modify_self]
  · rw [if_neg same, find?_modify_of_ne m (Ne.symm same)]

theorem find?_erase (m : OrderedMap κ υ) (key other : κ) :
    (m.erase key).find? other = if other = key then none else m.find? other := by
  by_cases same : other = key
  · subst same
    rw [if_pos rfl, find?_erase_self]
  · rw [if_neg same, find?_erase_of_ne m (Ne.symm same)]

variable [LE κ] [Std.IsLinearOrder κ] [Std.LawfulOrderLT κ]

theorem find?_insert [DecidableLT κ] (m : OrderedMap κ υ) (key other : κ) (value : υ) :
    (m.insert key value).find? other = if other = key then some value else m.find? other := by
  by_cases same : other = key
  · subst same
    rw [if_pos rfl, find?_insert_self]
  · rw [if_neg same, find?_insert_of_ne m (Ne.symm same)]

theorem mapValues_congr {f g : κ → υ → υ} {m : OrderedMap κ υ}
    (same : ∀ key value, m.find? key = some value → f key value = g key value) :
    m.mapValues f = m.mapValues g := by
  refine ext_find? fun key => ?_
  rw [find?_mapValues, find?_mapValues]
  cases found : m.find? key with
  | none => rfl
  | some value => rw [Option.map_some, Option.map_some, same key value found]

/-- What the change of one value makes of it is all that matters. -/
theorem modify_congr {f g : υ → υ} {m : OrderedMap κ υ} {key : κ}
    (same : ∀ value, m.find? key = some value → f value = g value) :
    m.modify key f = m.modify key g :=
  mapValues_congr fun other value found => by
    split
    · rename_i here
      exact same value (here ▸ found)
    · rfl

end OrderedMap

namespace ParameterTree

/-! ## Looking at the shape -/

/-- Whether a stream is known. -/
def Knows (tree : ParameterTree) (stream : StreamId) : Prop :=
  (tree.streams.find? stream).isSome = true

/-- Whether a filter is marked as started; nothing if it is not known. -/
def mark? (tree : ParameterTree) (stream : StreamId) (filter : String) : Option Bool :=
  (tree.streams.find? stream).bind fun filters => (filters.find? filter).map (·.started)

/-- Whether a parameter is there. -/
def Has (tree : ParameterTree) (stream : StreamId) (filter name : String) : Prop :=
  ∃ found, tree.locate stream filter name = .ok found

theorem has_iff {tree : ParameterTree} {stream : StreamId} {filter name : String} :
    tree.Has stream filter name ↔
      ∃ filters, tree.streams.find? stream = some filters ∧
        ∃ entry, filters.find? filter = some entry ∧
          (entry.parameters.find? name).isSome = true := by
  constructor
  · rintro ⟨⟨entry, parameter⟩, found⟩
    obtain ⟨filters, hstream, hfilter, hname⟩ := locate_eq_ok_iff.mp found
    exact ⟨filters, hstream, entry, hfilter, by rw [hname]; rfl⟩
  · rintro ⟨filters, hstream, entry, hfilter, hname⟩
    obtain ⟨parameter, hname⟩ := Option.isSome_iff_exists.mp hname
    exact ⟨(entry, parameter), locate_eq_ok_iff.mpr ⟨filters, hstream, hfilter, hname⟩⟩

theorem Has.knows {tree : ParameterTree} {stream : StreamId} {filter name : String}
    (has : tree.Has stream filter name) : tree.Knows stream := by
  obtain ⟨filters, hstream, _⟩ := has_iff.mp has
  rw [Knows, hstream]
  rfl

theorem filterAt_eq_ok_iff {tree : ParameterTree} {stream : StreamId} {filter : String}
    {entry : FilterEntry} :
    tree.filterAt stream filter = .ok entry ↔
      ∃ filters, tree.streams.find? stream = some filters ∧ filters.find? filter = some entry := by
  simp only [filterAt, filtersOf]
  cases hstream : tree.streams.find? stream with
  | none => simp [bind, Except.bind]
  | some filters =>
    cases hfilter : filters.find? filter <;> simp [bind, Except.bind, hfilter]

/-- A filter is marked exactly when it can be found. -/
theorem mark?_isSome_iff {tree : ParameterTree} {stream : StreamId} {filter : String} :
    (tree.mark? stream filter).isSome = true ↔ ∃ entry, tree.filterAt stream filter = .ok entry := by
  simp only [filterAt_eq_ok_iff, mark?]
  cases hstream : tree.streams.find? stream with
  | none => simp
  | some filters => cases hfilter : filters.find? filter <;> simp [hfilter]

/-! ## Changes that keep the shape -/

/-- One tree has the shape of another, and at least its parameters. -/
structure Kept (before after : ParameterTree) : Prop where
  /-- The same streams are known. -/
  knows : ∀ stream, after.Knows stream ↔ before.Knows stream
  /-- The same filters are known, with the same marks. -/
  mark : ∀ stream filter, after.mark? stream filter = before.mark? stream filter
  /-- No parameter is gone. -/
  has : ∀ stream filter name, before.Has stream filter name → after.Has stream filter name

namespace Kept

theorem refl (tree : ParameterTree) : tree.Kept tree :=
  ⟨fun _ => Iff.rfl, fun _ _ => rfl, fun _ _ _ h => h⟩

theorem trans {first second third : ParameterTree} (one : first.Kept second)
    (two : second.Kept third) : first.Kept third where
  knows stream := (two.knows stream).trans (one.knows stream)
  mark stream filter := (two.mark stream filter).trans (one.mark stream filter)
  has stream filter name h := two.has stream filter name (one.has stream filter name h)

/-- The number of the next subscription is not part of the shape. -/
theorem of_streams_eq {before after : ParameterTree} (same : after.streams = before.streams) :
    before.Kept after where
  knows stream := by rw [Knows, Knows, same]
  mark stream filter := by rw [mark?, mark?, same]
  has stream filter name h := by
    rw [has_iff] at h ⊢
    rwa [same]

end Kept

/-- One tree knows what another knows, and has at least its parameters; filters
may be marked differently. -/
structure SameFilters (before after : ParameterTree) : Prop where
  /-- The same streams are known. -/
  knows : ∀ stream, after.Knows stream ↔ before.Knows stream
  /-- The same filters are known. -/
  filters : ∀ stream filter,
    (after.mark? stream filter).isSome = (before.mark? stream filter).isSome
  /-- No parameter is gone. -/
  has : ∀ stream filter name, before.Has stream filter name → after.Has stream filter name

namespace SameFilters

theorem refl (tree : ParameterTree) : tree.SameFilters tree :=
  ⟨fun _ => Iff.rfl, fun _ _ => rfl, fun _ _ _ h => h⟩

theorem trans {first second third : ParameterTree} (one : first.SameFilters second)
    (two : second.SameFilters third) : first.SameFilters third where
  knows stream := (two.knows stream).trans (one.knows stream)
  filters stream filter := (two.filters stream filter).trans (one.filters stream filter)
  has stream filter name h := two.has stream filter name (one.has stream filter name h)

end SameFilters

theorem Kept.sameFilters {before after : ParameterTree} (kept : before.Kept after) :
    before.SameFilters after :=
  ⟨kept.knows, fun stream filter => by rw [kept.mark], kept.has⟩

/-- A change of filter entries that keeps marks and parameters. -/
structure EntryKept (change : FilterEntry → FilterEntry) : Prop where
  /-- The mark is the same. -/
  started : ∀ entry, (change entry).started = entry.started
  /-- No parameter is gone. -/
  parameters : ∀ entry name, (entry.parameters.find? name).isSome = true →
    ((change entry).parameters.find? name).isSome = true

/-- Changing the entries of one stream in a way that keeps each of them keeps
the shape of the tree. -/
theorem kept_of_entries {before after : ParameterTree} (stream : StreamId)
    (change : String → FilterEntry → FilterEntry) (keeps : ∀ filter, EntryKept (change filter))
    (same : ∀ other, other ≠ stream → after.streams.find? other = before.streams.find? other)
    (known : (after.streams.find? stream).isSome = (before.streams.find? stream).isSome)
    (changed : ∀ filters, before.streams.find? stream = some filters →
      ∃ filters', after.streams.find? stream = some filters' ∧
        ∀ filter, filters'.find? filter = (filters.find? filter).map (change filter)) :
    before.Kept after where
  knows other := by
    by_cases here : other = stream
    · subst here
      rw [Knows, Knows, known]
    · rw [Knows, Knows, same other here]
  mark other filter := by
    by_cases here : other = stream
    · subst here
      cases hstream : before.streams.find? other with
      | none =>
        rw [hstream, Option.isSome_none, Option.isSome_eq_false_iff, Option.isNone_iff_eq_none]
          at known
        rw [mark?, mark?, known, hstream]
      | some filters =>
        obtain ⟨filters', hstream', hfilters⟩ := changed filters hstream
        rw [mark?, mark?, hstream', hstream, Option.bind_some, Option.bind_some, hfilters,
          Option.map_map]
        exact congrArg (fun f => (filters.find? filter).map f) (funext (keeps filter).started)
    · rw [mark?, mark?, same other here]
  has other filter name h := by
    rw [has_iff] at h ⊢
    obtain ⟨filters, hstream, entry, hfilter, hname⟩ := h
    by_cases here : other = stream
    · subst here
      obtain ⟨filters', hstream', hfilters⟩ := changed filters hstream
      exact ⟨filters', hstream', change filter entry, by rw [hfilters, hfilter, Option.map_some],
        (keeps filter).parameters entry name hname⟩
    · exact ⟨filters, by rw [same other here, hstream], entry, hfilter, hname⟩

theorem find?_modifyFilter (tree : ParameterTree) (stream other : StreamId) (filter : String)
    (change : FilterEntry → FilterEntry) :
    (tree.modifyFilter stream filter change).streams.find? other =
      if other = stream then (tree.streams.find? other).map (·.modify filter change)
      else tree.streams.find? other := by
  rw [modifyFilter, OrderedMap.find?_modify]

/-- A change of one filter's entry that keeps it keeps the shape. -/
theorem kept_modifyFilter (tree : ParameterTree) (stream : StreamId) (filter : String)
    {change : FilterEntry → FilterEntry} (keeps : EntryKept change) :
    tree.Kept (tree.modifyFilter stream filter change) := by
  refine kept_of_entries stream (fun other => if other = filter then change else id)
    ?_ ?_ ?_ ?_
  · intro other
    by_cases here : other = filter
    · rw [if_pos here]
      exact keeps
    · rw [if_neg here]
      exact ⟨fun _ => rfl, fun _ _ h => h⟩
  · intro other away
    rw [find?_modifyFilter, if_neg away]
  · rw [find?_modifyFilter, if_pos rfl, Option.isSome_map]
  · intro filters hstream
    refine ⟨filters.modify filter change, ?_, fun other => ?_⟩
    · rw [find?_modifyFilter, if_pos rfl, hstream, Option.map_some]
    · rw [OrderedMap.find?_modify]
      by_cases here : other = filter
      · rw [if_pos here, if_pos here]
      · rw [if_neg here, if_neg here, Option.map_id_fun, id]

theorem kept_modifyParameter (tree : ParameterTree) (stream : StreamId) (filter name : String)
    (change : Parameter → Parameter) :
    tree.Kept (tree.modifyParameter stream filter name change) :=
  kept_modifyFilter tree stream filter
    { started := fun _ => rfl
      parameters := fun entry other present => by
        rw [OrderedMap.find?_modify]
        split
        · rwa [Option.isSome_map]
        · exact present }

theorem kept_store {tree after : ParameterTree} {stream : StreamId} {filter name : String}
    {value : Value} {subscribers : List Subscription}
    (stored : tree.store stream filter name value = .ok (subscribers, after)) : tree.Kept after := by
  simp only [store, bind, Except.bind] at stored
  split at stored
  · cases stored
  · split at stored
    · cases stored
    · cases stored
      exact kept_modifyParameter tree stream filter name _

theorem kept_create {tree after : ParameterTree} {stream : StreamId} {filter name : String}
    {type : ValueType} {initial : Value} {setter : Option CodeRef}
    (created : tree.create stream filter name type initial setter = .ok after) :
    tree.Kept after := by
  simp only [create, bind, Except.bind] at created
  split at created
  · cases created
  · split at created
    · cases created
    · split at created
      · cases created
      · split at created
        · cases created
        · cases created
          refine kept_modifyFilter tree stream filter ⟨fun _ => rfl, fun entry other present => ?_⟩
          rw [OrderedMap.find?_insert]
          split
          · rfl
          · exact present

theorem kept_unsubscribe (tree : ParameterTree) (stream : StreamId) (filter name : String)
    (finished : List Nat) : tree.Kept (tree.unsubscribe stream filter name finished) :=
  kept_modifyParameter tree stream filter name _

theorem kept_subscribeAll (stream : StreamId) (filter : String) (callback : Callback)
    (context : UserContext) (flags : SubscribeFlags) (names : List String) :
    ∀ tree : ParameterTree,
      tree.Kept (tree.subscribeAll stream filter callback context flags names).2 := by
  induction names with
  | nil => exact Kept.refl
  | cons name rest ih =>
    intro tree
    simp only [subscribeAll]
    split
    · exact ih tree
    · rename_i parameter _
      obtain ⟨_, number, changed⟩ :=
        parameter.subscribe callback context flags tree.nextSubscription
      have one := kept_modifyParameter tree stream filter name fun _ => changed
      have two : (tree.modifyParameter stream filter name fun _ => changed).Kept
          { tree.modifyParameter stream filter name fun _ => changed with
            nextSubscription := number } := Kept.of_streams_eq rfl
      exact (one.trans two).trans (ih _)

/-- A subscription that is not refused goes through some of the parameters. -/
theorem subscribe_eq_ok {tree after : ParameterTree} {stream : StreamId} {filter : String}
    {name : Option String} {type : ValueType} {callback : Callback} {context : UserContext}
    {flags : SubscribeFlags} {made : Nat}
    (subscribed : tree.subscribe stream filter name type callback context flags =
      .ok (made, after)) :
    ∃ names, tree.subscribeAll stream filter callback context flags names = (made, after) := by
  simp only [subscribe, bind, Except.bind] at subscribed
  split at subscribed
  · cases subscribed
  · split at subscribed
    · split at subscribed
      · cases subscribed
      · split at subscribed
        · exact ⟨_, Except.ok.inj subscribed⟩
        · cases subscribed
    · exact ⟨_, Except.ok.inj subscribed⟩

theorem kept_subscribe {tree after : ParameterTree} {stream : StreamId} {filter : String}
    {name : Option String} {type : ValueType} {callback : Callback} {context : UserContext}
    {flags : SubscribeFlags} {made : Nat}
    (subscribed : tree.subscribe stream filter name type callback context flags =
      .ok (made, after)) : tree.Kept after := by
  obtain ⟨names, all⟩ := subscribe_eq_ok subscribed
  have kept := kept_subscribeAll stream filter callback context flags names tree
  rwa [all] at kept

theorem find?_dropUnkept (tree : ParameterTree) (stream other : StreamId) :
    (tree.dropUnkept stream).2.streams.find? other =
      if other = stream then (tree.streams.find? other).map (·.mapValues fun _ entry =>
        { entry with parameters := entry.parameters.mapValues fun _ parameter => parameter.stopped })
      else tree.streams.find? other := by
  rw [dropUnkept]
  exact OrderedMap.find?_modify _ _ _ _

theorem kept_dropUnkept (tree : ParameterTree) (stream : StreamId) :
    tree.Kept (tree.dropUnkept stream).2 := by
  refine kept_of_entries stream (fun _ entry =>
    { entry with parameters := entry.parameters.mapValues fun _ parameter => parameter.stopped })
    ?_ ?_ ?_ ?_
  · intro _
    refine ⟨fun _ => rfl, fun entry name present => ?_⟩
    rwa [OrderedMap.find?_mapValues, Option.isSome_map]
  · intro other away
    rw [find?_dropUnkept, if_neg away]
  · rw [find?_dropUnkept, if_pos rfl, Option.isSome_map]
  · intro filters hstream
    exact ⟨_, by rw [find?_dropUnkept, if_pos rfl, hstream, Option.map_some],
      fun filter => OrderedMap.find?_mapValues _ _ _⟩

/-- The changes that user code can bring about. -/
inductive Edit (tree : ParameterTree) : ParameterTree → Prop where
  /-- A new value is stored. -/
  | store {after : ParameterTree} {stream : StreamId} {filter name : String} {value : Value}
      {subscribers : List Subscription}
      (stored : tree.store stream filter name value = .ok (subscribers, after)) : Edit tree after
  /-- A filter has a new parameter. -/
  | create {after : ParameterTree} {stream : StreamId} {filter name : String} {type : ValueType}
      {initial : Value} {setter : Option CodeRef}
      (created : tree.create stream filter name type initial setter = .ok after) : Edit tree after
  /-- A callback is subscribed. -/
  | subscribe {after : ParameterTree} {stream : StreamId} {filter : String} {name : Option String}
      {type : ValueType} {callback : Callback} {context : UserContext} {flags : SubscribeFlags}
      {made : Nat}
      (subscribed : tree.subscribe stream filter name type callback context flags =
        .ok (made, after)) : Edit tree after
  /-- Some subscriptions of a parameter are over. -/
  | unsubscribe (stream : StreamId) (filter name : String) (finished : List Nat) :
      Edit tree (tree.unsubscribe stream filter name finished)

/-- Those of the changes that leave the values that there are alone, and the
subscriptions. -/
inductive Addition (tree : ParameterTree) : ParameterTree → Prop where
  /-- A filter has a new parameter. -/
  | create {after : ParameterTree} {stream : StreamId} {filter name : String} {type : ValueType}
      {initial : Value} {setter : Option CodeRef}
      (created : tree.create stream filter name type initial setter = .ok after) :
      Addition tree after
  /-- A callback is subscribed. -/
  | subscribe {after : ParameterTree} {stream : StreamId} {filter : String} {name : Option String}
      {type : ValueType} {callback : Callback} {context : UserContext} {flags : SubscribeFlags}
      {made : Nat}
      (subscribed : tree.subscribe stream filter name type callback context flags =
        .ok (made, after)) : Addition tree after

theorem Addition.edit {tree after : ParameterTree} (addition : tree.Addition after) :
    tree.Edit after := by
  cases addition with
  | create created => exact .create created
  | subscribe subscribed => exact .subscribe subscribed

/-- User code keeps the shape of the tree. -/
theorem Edit.kept {tree after : ParameterTree} (edit : tree.Edit after) : tree.Kept after := by
  cases edit with
  | store stored => exact kept_store stored
  | create created => exact kept_create created
  | subscribe subscribed => exact kept_subscribe subscribed
  | unsubscribe stream filter name finished => exact kept_unsubscribe tree stream filter name finished

/-! ## Changes of one stream -/

/-- One tree is another in every stream but one. -/
def SameBut (stream : StreamId) (before after : ParameterTree) : Prop :=
  ∀ other, other ≠ stream → after.streams.find? other = before.streams.find? other

namespace SameBut

variable {stream : StreamId}

theorem refl (stream : StreamId) (tree : ParameterTree) : SameBut stream tree tree :=
  fun _ _ => rfl

theorem trans {first second third : ParameterTree} (one : SameBut stream first second)
    (two : SameBut stream second third) : SameBut stream first third :=
  fun other away => (two other away).trans (one other away)

end SameBut

theorem sameBut_modifyFilter (tree : ParameterTree) (stream : StreamId) (filter : String)
    (change : FilterEntry → FilterEntry) :
    SameBut stream tree (tree.modifyFilter stream filter change) := fun other away => by
  rw [find?_modifyFilter, if_neg away]

theorem sameBut_store {tree after : ParameterTree} {stream : StreamId} {filter name : String}
    {value : Value} {subscribers : List Subscription}
    (stored : tree.store stream filter name value = .ok (subscribers, after)) :
    SameBut stream tree after := by
  simp only [store, bind, Except.bind] at stored
  split at stored
  · cases stored
  · split at stored
    · cases stored
    · cases stored
      exact sameBut_modifyFilter tree stream filter _

theorem sameBut_create {tree after : ParameterTree} {stream : StreamId} {filter name : String}
    {type : ValueType} {initial : Value} {setter : Option CodeRef}
    (created : tree.create stream filter name type initial setter = .ok after) :
    SameBut stream tree after := by
  simp only [create, bind, Except.bind] at created
  split at created
  · cases created
  · split at created
    · cases created
    · split at created
      · cases created
      · split at created
        · cases created
        · cases created
          exact sameBut_modifyFilter tree stream filter _

theorem sameBut_unsubscribe (tree : ParameterTree) (stream : StreamId) (filter name : String)
    (finished : List Nat) : SameBut stream tree (tree.unsubscribe stream filter name finished) :=
  sameBut_modifyFilter tree stream filter _

theorem sameBut_subscribeAll (stream : StreamId) (filter : String) (callback : Callback)
    (context : UserContext) (flags : SubscribeFlags) (names : List String) :
    ∀ tree : ParameterTree,
      SameBut stream tree (tree.subscribeAll stream filter callback context flags names).2 := by
  induction names with
  | nil => exact SameBut.refl stream
  | cons name rest ih =>
    intro tree
    simp only [subscribeAll]
    split
    · exact ih tree
    · exact SameBut.trans (fun other => sameBut_modifyFilter tree stream filter _ other) (ih _)

theorem sameBut_subscribe {tree after : ParameterTree} {stream : StreamId} {filter : String}
    {name : Option String} {type : ValueType} {callback : Callback} {context : UserContext}
    {flags : SubscribeFlags} {made : Nat}
    (subscribed : tree.subscribe stream filter name type callback context flags =
      .ok (made, after)) : SameBut stream tree after := by
  obtain ⟨names, all⟩ := subscribe_eq_ok subscribed
  have same := sameBut_subscribeAll stream filter callback context flags names tree
  rwa [all] at same

theorem sameBut_setStarted {tree after : ParameterTree} {stream : StreamId} {filter : String}
    {started : Bool} (marked : tree.setStarted stream filter started = .ok after) :
    SameBut stream tree after := by
  simp only [setStarted, bind, Except.bind] at marked
  split at marked
  · cases marked
  · cases marked
    exact sameBut_modifyFilter tree stream filter _

theorem sameBut_dropUnkept (tree : ParameterTree) (stream : StreamId) :
    SameBut stream tree (tree.dropUnkept stream).2 := fun other away => by
  rw [find?_dropUnkept, if_neg away]

theorem sameBut_removeStream (tree : ParameterTree) (stream : StreamId) :
    SameBut stream tree (tree.removeStream stream) := fun other away => by
  rw [removeStream, OrderedMap.find?_erase, if_neg away]

/-- What is found in a stream depends on that stream only. -/
theorem locate_congr {tree after : ParameterTree} {stream : StreamId}
    (same : after.streams.find? stream = tree.streams.find? stream) (filter name : String) :
    after.locate stream filter name = tree.locate stream filter name := by
  rw [locate, locate, same]

/-! ## Changes that only a host makes -/

/-- Marking a filter is refused only if the filter is not known, and it changes
that one mark. -/
theorem mark?_setStarted {tree after : ParameterTree} {stream : StreamId} {filter : String}
    {started : Bool} (marked : tree.setStarted stream filter started = .ok after)
    (other : StreamId) (name : String) :
    after.mark? other name =
      if other = stream ∧ name = filter then some started else tree.mark? other name := by
  simp only [setStarted, bind, Except.bind] at marked
  split at marked
  · cases marked
  · rename_i entry found
    cases marked
    obtain ⟨filters, hstream, hfilter⟩ := filterAt_eq_ok_iff.mp found
    rw [mark?, mark?, find?_modifyFilter]
    by_cases here : other = stream
    · subst here
      rw [if_pos rfl, hstream, Option.map_some, Option.bind_some, Option.bind_some,
        OrderedMap.find?_modify]
      by_cases same : name = filter
      · subst same
        simp [hfilter]
      · simp [same]
    · rw [if_neg here, if_neg fun both => here both.1]

theorem setStarted_isOk {tree : ParameterTree} {stream : StreamId} {filter : String}
    (started : Bool) (known : (tree.mark? stream filter).isSome = true) :
    ∃ after, tree.setStarted stream filter started = .ok after := by
  obtain ⟨entry, found⟩ := mark?_isSome_iff.mp known
  exact ⟨_, by rw [setStarted, found]; rfl⟩

/-- Marking a filter makes nothing known and forgets nothing. -/
theorem sameFilters_setStarted {tree after : ParameterTree} {stream : StreamId} {filter : String}
    {started : Bool} (marked : tree.setStarted stream filter started = .ok after) :
    tree.SameFilters after := by
  have marks := mark?_setStarted marked
  simp only [setStarted, bind, Except.bind] at marked
  split at marked
  · cases marked
  · rename_i entry found
    cases marked
    refine ⟨fun other => ?_, fun other name => ?_, fun other owner name has => ?_⟩
    · rw [Knows, Knows, find?_modifyFilter]
      split
      · rw [Option.isSome_map]
      · exact Iff.rfl
    · rw [marks]
      split
      · rename_i here
        rw [here.1, here.2, mark?_isSome_iff.mpr ⟨entry, found⟩, Option.isSome_some]
      · rfl
    · rw [has_iff] at has ⊢
      obtain ⟨filters, hstream, entry, hfilter, hname⟩ := has
      by_cases here : other = stream
      · subst here
        refine ⟨filters.modify filter fun entry => { entry with started }, ?_, ?_⟩
        · rw [find?_modifyFilter, if_pos rfl, hstream, Option.map_some]
        · rw [OrderedMap.find?_modify]
          by_cases same : owner = filter
          · exact ⟨{ entry with started }, by rw [if_pos same, hfilter, Option.map_some], hname⟩
          · exact ⟨entry, by rw [if_neg same, hfilter], hname⟩
      · exact ⟨filters, by rw [find?_modifyFilter, if_neg here, hstream], entry, hfilter, hname⟩

/-- One tree has the shape of another in every stream but one. -/
structure KeptBut (stream : StreamId) (before after : ParameterTree) : Prop where
  /-- The same other streams are known. -/
  knows : ∀ other, other ≠ stream → (after.Knows other ↔ before.Knows other)
  /-- The same filters of theirs are known, with the same marks. -/
  mark : ∀ other filter, other ≠ stream → after.mark? other filter = before.mark? other filter
  /-- None of their parameters is gone. -/
  has : ∀ other filter name, other ≠ stream → before.Has other filter name →
    after.Has other filter name

theorem Kept.but {before after : ParameterTree} (kept : before.Kept after) (stream : StreamId) :
    KeptBut stream before after :=
  ⟨fun other _ => kept.knows other, fun other filter _ => kept.mark other filter,
    fun other filter name _ => kept.has other filter name⟩

theorem KeptBut.trans {stream : StreamId} {first second third : ParameterTree}
    (one : KeptBut stream first second) (two : KeptBut stream second third) :
    KeptBut stream first third where
  knows other away := (two.knows other away).trans (one.knows other away)
  mark other filter away := (two.mark other filter away).trans (one.mark other filter away)
  has other filter name away h := two.has other filter name away (one.has other filter name away h)

/-- What leaves the other streams as they are keeps their shape. -/
theorem keptBut_of_find? {stream : StreamId} {before after : ParameterTree}
    (same : ∀ other, other ≠ stream → after.streams.find? other = before.streams.find? other) :
    KeptBut stream before after where
  knows other away := by rw [Knows, Knows, same other away]
  mark other filter away := by rw [mark?, mark?, same other away]
  has other filter name away h := by
    rw [has_iff] at h ⊢
    rwa [same other away]

theorem keptBut_removeStream (tree : ParameterTree) (stream : StreamId) :
    KeptBut stream tree (tree.removeStream stream) :=
  keptBut_of_find? (sameBut_removeStream tree stream)

theorem mark?_removeStream (tree : ParameterTree) (stream other : StreamId) (filter : String) :
    (tree.removeStream stream).mark? other filter =
      if other = stream then none else tree.mark? other filter := by
  rw [mark?, mark?, removeStream, OrderedMap.find?_erase]
  by_cases here : other = stream <;> simp [here]

theorem knows_removeStream (tree : ParameterTree) (stream other : StreamId) :
    (tree.removeStream stream).Knows other ↔ other ≠ stream ∧ tree.Knows other := by
  rw [Knows, removeStream, OrderedMap.find?_erase]
  by_cases here : other = stream <;> simp [here, Knows]

theorem find?_addStream (tree : ParameterTree) (stream other : StreamId) :
    (tree.addStream stream).streams.find? other =
      if other = stream then some ((tree.streams.find? stream).getD .empty)
      else tree.streams.find? other := by
  rw [addStream, OrderedMap.contains]
  cases known : tree.streams.find? stream with
  | none =>
    rw [Option.isSome_none, if_neg Bool.false_ne_true, OrderedMap.find?_insert]
    rfl
  | some filters =>
    rw [Option.isSome_some, if_pos rfl, Option.getD_some]
    split
    · rename_i here
      rw [here, known]
    · rfl

theorem keptBut_addStream (tree : ParameterTree) (stream : StreamId) :
    KeptBut stream tree (tree.addStream stream) :=
  keptBut_of_find? fun other away => by rw [find?_addStream, if_neg away]

/-- A stream is known once it has been added, and keeps its filters if it was. -/
theorem knows_addStream (tree : ParameterTree) (stream other : StreamId) :
    (tree.addStream stream).Knows other ↔ other = stream ∨ tree.Knows other := by
  rw [Knows, find?_addStream]
  by_cases here : other = stream <;> simp [here, Knows]

theorem mark?_addStream (tree : ParameterTree) (stream other : StreamId) (filter : String) :
    (tree.addStream stream).mark? other filter = tree.mark? other filter := by
  rw [mark?, mark?, find?_addStream]
  by_cases here : other = stream
  · subst here
    rw [if_pos rfl]
    cases tree.streams.find? other <;> rfl
  · rw [if_neg here]

theorem has_addStream {tree : ParameterTree} {other : StreamId} {owner name : String}
    (stream : StreamId) (has : tree.Has other owner name) :
    (tree.addStream stream).Has other owner name := by
  obtain ⟨filters, hstream, found⟩ := has_iff.mp has
  refine has_iff.mpr ⟨filters, ?_, found⟩
  rw [find?_addStream]
  split
  · rename_i here
    rw [← here, hstream, Option.getD_some]
  · exact hstream

/-- Only a stream that is known is given a filter, and only one it does not
have. -/
theorem addFilter_eq_ok {tree after : ParameterTree} {stream : StreamId} {filter : String}
    (added : tree.addFilter stream filter = .ok after) :
    ∃ filters, tree.streams.find? stream = some filters ∧ filters.find? filter = none ∧
      after.streams = tree.streams.insert stream (filters.insert filter {}) := by
  simp only [addFilter, filtersOf] at added
  cases hstream : tree.streams.find? stream with
  | none => simp [hstream, bind, Except.bind] at added
  | some filters =>
    simp only [hstream, bind, Except.bind] at added
    split at added
    · cases added
    · rename_i free
      cases added
      exact ⟨filters, rfl, Option.not_isSome_iff_eq_none.mp free, rfl⟩

theorem mark?_addFilter {tree after : ParameterTree} {stream : StreamId} {filter : String}
    (added : tree.addFilter stream filter = .ok after) :
    tree.Knows stream ∧ tree.mark? stream filter = none ∧ ∀ other name,
      after.mark? other name =
        if other = stream ∧ name = filter then some false else tree.mark? other name := by
  obtain ⟨filters, hstream, free, same⟩ := addFilter_eq_ok added
  refine ⟨by rw [Knows, hstream]; rfl, ?_, fun other name => ?_⟩
  · rw [mark?, hstream, Option.bind_some, free]
    rfl
  · rw [mark?, mark?, same, OrderedMap.find?_insert]
    by_cases here : other = stream
    · subst here
      rw [if_pos rfl, hstream, Option.bind_some, Option.bind_some, OrderedMap.find?_insert]
      by_cases same : name = filter <;> simp [same]
    · simp [here]

theorem keptBut_addFilter {tree after : ParameterTree} {stream : StreamId} {filter : String}
    (added : tree.addFilter stream filter = .ok after) : KeptBut stream tree after := by
  obtain ⟨filters, _, _, same⟩ := addFilter_eq_ok added
  exact keptBut_of_find? fun other away => by rw [same, OrderedMap.find?_insert, if_neg away]

theorem knows_addFilter {tree after : ParameterTree} {stream : StreamId} {filter : String}
    (added : tree.addFilter stream filter = .ok after) : after.Knows stream := by
  obtain ⟨filters, _, _, same⟩ := addFilter_eq_ok added
  rw [Knows, same, OrderedMap.find?_insert, if_pos rfl]
  rfl

theorem knows_addFilter_iff {tree after : ParameterTree} {stream : StreamId} {filter : String}
    (added : tree.addFilter stream filter = .ok after) (other : StreamId) :
    after.Knows other ↔ tree.Knows other := by
  by_cases here : other = stream
  · exact here ▸ iff_of_true (knows_addFilter added) (mark?_addFilter added).1
  · exact (keptBut_addFilter added).knows other here

theorem has_addFilter {tree after : ParameterTree} {stream other : StreamId}
    {filter owner name : String} (added : tree.addFilter stream filter = .ok after)
    (has : tree.Has other owner name) : after.Has other owner name := by
  obtain ⟨filters, hstream, free, same⟩ := addFilter_eq_ok added
  by_cases here : other = stream
  · subst here
    rw [has_iff] at has ⊢
    obtain ⟨filters', hstream', entry, howner, hname⟩ := has
    rw [hstream, Option.some.injEq] at hstream'
    subst hstream'
    refine ⟨filters.insert filter {}, by rw [same, OrderedMap.find?_insert, if_pos rfl], entry,
      ?_, hname⟩
    rw [OrderedMap.find?_insert, if_neg, howner]
    rintro rfl
    rw [free] at howner
    cases howner
  · exact (keptBut_addFilter added).has other owner name here has

end ParameterTree

end StreamControl
