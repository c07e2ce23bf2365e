import StreamControl.Proofs.Agreement
import StreamControl.Proofs.Changes

/-!
# Types of parameters

A value may be no data, and otherwise has the declared type of its parameter, unless
that admits any (`Value.Conforms`).  The declared type of a parameter never changes.
`ParameterTree.Retyped` says both of a change of the tree; every change that there is
comes under it, whoever asks for it and whatever a setter answers.

So whatever a callback is handed conforms (`Host.values_conform`): for a query it is
the value that the parameter has, and for a subscription it is the value that was
stored when the push began, and the parameter keeps its type while the push is under
way (`Session.Meant`).
-/

set_option autoImplicit false

namespace StreamControl

/-- A value is no data, or of the declared type, or any type is admitted. -/
def Value.Conforms (value : Value) (declared : ValueType) : Prop :=
  value = .none ∨ declared = .any ∨ value.type = declared

instance (value : Value) (declared : ValueType) : Decidable (value.Conforms declared) :=
  inferInstanceAs (Decidable (value = .none ∨ declared = .any ∨ value.type = declared))

/-- What fits conforms: no value has the type that admits any. -/
theorem Value.conforms_iff_fits {value : Value} {declared : ValueType} :
    value.Conforms declared ↔ value.fits declared = true := by
  have particular : value.type ≠ .any := by cases value <;> nofun
  rw [fits, ValueType.accepts, decide_eq_false particular, Bool.false_or, Bool.or_eq_true,
    Bool.or_eq_true, decide_eq_true_eq, decide_eq_true_eq, decide_eq_true_eq, Conforms,
    eq_comm (a := value.type)]

namespace ParameterTree

/-! ## Types in a tree -/

/-- Every value conforms to the declared type of its parameter. -/
def Conforming (tree : ParameterTree) : Prop :=
  ∀ address parameter, tree.parameter? address = some parameter →
    parameter.value.Conforms parameter.type

/-- One tree has the parameters of another under the same types, as far as it knows their
streams, and no worse values. -/
structure Retyped (before after : ParameterTree) : Prop where
  /-- Parameters stay and keep their types. -/
  retained : ∀ address old, before.parameter? address = some old → after.Knows address.stream →
    ∃ new, after.parameter? address = some new ∧ new.type = old.type
  /-- Values go on conforming. -/
  conforming : before.Conforming → after.Conforming

variable {tree after : ParameterTree}

namespace Retyped

/-- Subscriptions do not matter. -/
theorem of_map (changed : ∀ address, ∃ change : Parameter → Parameter,
      (∀ parameter, (change parameter).type = parameter.type ∧
        (change parameter).value = parameter.value) ∧
      after.parameter? address = (tree.parameter? address).map change) : Retyped tree after where
  retained address old found _ := by
    obtain ⟨change, same, maps⟩ := changed address
    exact ⟨change old, by rw [maps, found, Option.map_some], (same old).1⟩
  conforming conforming address parameter found := by
    obtain ⟨change, same, maps⟩ := changed address
    rw [maps] at found
    obtain ⟨old, was, rfl⟩ := Option.map_eq_some_iff.mp found
    rw [(same old).1, (same old).2]
    exact conforming address old was

theorem of_parameters (same : ∀ address, after.parameter? address = tree.parameter? address) :
    Retyped tree after :=
  of_map fun address => ⟨id, fun _ => ⟨rfl, rfl⟩, by rw [same, Option.map_id_fun, id]⟩

end Retyped

/-! ## Types after each change -/

theorem retyped_create {stream : StreamId} {filter name : String} {type : ValueType}
    {initial : Value} {setter : Option CodeRef}
    (created : tree.create stream filter name type initial setter = .ok after) :
    Retyped tree after := by
  obtain ⟨fits, free, _, _, changed⟩ := create_eq_ok ⟨stream, filter, name⟩ created
  constructor
  · intro address old found _
    refine ⟨old, ?_, rfl⟩
    rw [changed, if_neg fun here => ?_, found]
    rw [here, free] at found
    cases found
  · intro conforming address parameter found
    rw [changed] at found
    split at found
    · cases found
      exact Value.conforms_iff_fits.mpr fits
    · exact conforming address parameter found

theorem retyped_subscribe {stream : StreamId} {filter : String} {name : Option String}
    {type : ValueType} {callback : Callback} {context : UserContext} {flags : SubscribeFlags}
    {made : Nat}
    (subscribed : tree.subscribe stream filter name type callback context flags =
      .ok (made, after)) : Retyped tree after := by
  refine .of_map fun address => ?_
  obtain ⟨new, maps, _⟩ := (subscribed_subscribe subscribed).parameter address
  refine ⟨_, ?_, maps⟩
  exact fun _ => ⟨rfl, rfl⟩

theorem Addition.retyped (addition : tree.Addition after) : Retyped tree after := by
  cases addition with
  | create created => exact retyped_create created
  | subscribe subscribed => exact retyped_subscribe subscribed

theorem retyped_store (address : Address) {value : Value} {subscribers : List Subscription}
    (stored : tree.store address.stream address.filter address.name value =
      .ok (subscribers, after)) : Retyped tree after := by
  obtain ⟨_, _, changed⟩ := store_eq_ok address stored
  obtain ⟨current, found, fits⟩ := fits_of_store address stored
  constructor
  · intro other old was _
    rw [changed, was]
    split
    · exact ⟨_, rfl, rfl⟩
    · exact ⟨old, rfl, rfl⟩
  · intro conforming other parameter there
    rw [changed] at there
    split at there
    · rename_i here
      rw [here, found, Option.map_some, Option.some.injEq] at there
      subst there
      exact Value.conforms_iff_fits.mpr fits
    · exact conforming other parameter there

theorem retyped_unsubscribe (address : Address) (finished : List Nat) :
    Retyped tree (tree.unsubscribe address.stream address.filter address.name finished) := by
  refine .of_map fun other => ?_
  rw [parameter?_unsubscribe]
  split
  · refine ⟨_, ?_, rfl⟩
    exact fun _ => ⟨rfl, rfl⟩
  · exact ⟨id, fun _ => ⟨rfl, rfl⟩, by rw [Option.map_id_fun, id]⟩

/-- User code keeps the types of parameters. -/
theorem Edit.retyped (edit : tree.Edit after) : Retyped tree after := by
  cases edit with
  | store stored => exact retyped_store ⟨_, _, _⟩ stored
  | create created => exact retyped_create created
  | subscribe subscribed => exact retyped_subscribe subscribed
  | unsubscribe stream filter name finished =>
    exact retyped_unsubscribe ⟨stream, filter, name⟩ finished

theorem retyped_dropUnkept (stream : StreamId) : Retyped tree (tree.dropUnkept stream).2 := by
  refine .of_map fun other => ?_
  rw [parameter?_dropUnkept]
  split
  · exact ⟨Parameter.stopped, fun _ => ⟨rfl, rfl⟩, rfl⟩
  · exact ⟨id, fun _ => ⟨rfl, rfl⟩, by rw [Option.map_id_fun, id]⟩

theorem retyped_removeStream (stream : StreamId) : Retyped tree (tree.removeStream stream) where
  retained address old found known := by
    have other := ((knows_removeStream _ _ _).mp known).1
    exact ⟨old, by rw [parameter?_removeStream, if_neg other, found], rfl⟩
  conforming conforming address parameter found := by
    rw [parameter?_removeStream] at found
    split at found
    · cases found
    · exact conforming address parameter found

end ParameterTree

/-- A value conforms to the type of a parameter that is there. -/
def ParameterTree.Admits (tree : ParameterTree) (address : Address) (value : Value) : Prop :=
  ∃ parameter, tree.parameter? address = some parameter ∧ value.Conforms parameter.type

/-- A value goes on conforming while the stream is known. -/
theorem ParameterTree.Retyped.admits {before after : ParameterTree} (retyped : Retyped before after)
    (knows : ∀ stream, before.Knows stream → after.Knows stream) {address : Address} {value : Value}
    (admits : before.Admits address value) : after.Admits address value := by
  obtain ⟨old, found, conforms⟩ := admits
  obtain ⟨new, there, same⟩ :=
    retyped.retained address old found (knows _ (knows_of_parameter? found))
  exact ⟨new, there, same ▸ conforms⟩

/-! ## Types over a journal -/

namespace Journal

open ParameterTree

variable {owed : Option StreamId} {entries earlier later shown : List Entry} {tree : ParameterTree}

/-- **Every change keeps the types.** -/
theorem Change.retyped (change : Change owed earlier later tree) :
    Retyped (treeAfter earlier) tree := by
  cases change with
  | add addition => exact addition.retyped
  | store address stored => exact retyped_store address stored
  | lapse address => exact retyped_unsubscribe address _
  | attach stream => exact .of_parameters fun _ => parameter?_addStream stream
  | enroll added => exact .of_parameters fun _ => parameter?_addFilter added
  | mark marked => exact .of_parameters fun _ => parameter?_setStarted marked
  | settle stream => exact retyped_dropUnkept stream
  | forget stream => exact retyped_removeStream stream

/-- A stream that is known after a change was known before, or never. -/
theorem Change.knows (change : Change owed earlier later tree) {stream : StreamId}
    (known : tree.Knows stream) : (treeAfter earlier).Knows stream ∨
      ∀ shown, shown <+: earlier → ¬ (treeAfter shown).Knows stream := by
  cases change with
  | add addition => exact .inl ((addition.edit.kept.knows stream).mp known)
  | store address stored => exact .inl (((kept_store stored).knows stream).mp known)
  | lapse address => exact .inl (((kept_unsubscribe _ _ _ _ _).knows stream).mp known)
  | attach other new =>
    rcases (knows_addStream _ _ _).mp known with rfl | old
    · exact .inr new
    · exact .inl old
  | enroll added => exact .inl ((knows_addFilter_iff added stream).mp known)
  | mark marked => exact .inl (((sameFilters_setStarted marked).knows stream).mp known)
  | settle other => exact .inl (((kept_dropUnkept _ other).knows stream).mp known)
  | forget other => exact .inl ((knows_removeStream _ _ _).mp known).2

/-- Values conform at all times. -/
theorem Changes.conforming (changes : Changes owed entries) (isPrefix : shown <+: entries) :
    (treeAfter shown).Conforming := by
  refine prefix_induction (P := fun shown => (treeAfter shown).Conforming) nofun ?_ isPrefix
  intro earlier entry later split conforming
  rw [treeAfter_concat]
  cases entry with
  | grown tree => exact (changes earlier tree later split).retyped.conforming conforming
  | _ => exact conforming

/-- The declared type of a parameter stays as long as its stream is known. -/
theorem Changes.retained (changes : Changes owed entries) {address : Address} {old : Parameter}
    (found : (treeAfter shown).parameter? address = some old)
    (isPrefix : shown ++ later <+: entries) (known : (treeAfter (shown ++ later)).Knows address.stream) :
    ∃ new, (treeAfter (shown ++ later)).parameter? address = some new ∧ new.type = old.type := by
  refine since_induction (P := fun moment => (treeAfter moment).Knows address.stream →
    ∃ new, (treeAfter moment).parameter? address = some new ∧ new.type = old.type)
    (fun _ => ⟨old, found, rfl⟩) ?_ isPrefix known
  intro earlier entry rest split ih last
  rw [treeAfter_concat] at last ⊢
  cases entry with
  | grown tree =>
    have change := changes _ tree rest split
    have before := (change.knows last).resolve_right fun never =>
      never shown (List.prefix_append _ _) (knows_of_parameter? found)
    obtain ⟨middle, was, same⟩ := ih before
    obtain ⟨new, there, equal⟩ := change.retyped.retained address middle was last
    exact ⟨new, there, equal.trans same⟩
  | _ => exact ih last

end Journal

namespace Entry

/-- What a callback is handed that is called for no query. -/
def unasked? : Entry → Option Delivery
  | entered (.callback (.query _) _ _) => none
  | entered (.callback _ _ delivery) => some delivery
  | _ => none

variable {entry : Entry}

theorem unasked?_of_isRemark (remark : entry.isRemark = true) : entry.unasked? = none := by
  cases entry <;> first | rfl | cases remark

theorem unasked?_of_isOfQuery (ofQuery : entry.isOfQuery = true) : entry.unasked? = none := by
  unfold isOfQuery at ofQuery
  split at ofQuery <;> first | rfl | cases ofQuery

theorem unasked?_of_isOfHost (ofHost : entry.isOfHost = true) : entry.unasked? = none := by
  cases entry with
  | entered call => cases call <;> first | rfl | cases ofHost
  | _ => rfl

/-- Such a callback is handed a value that conforms to the type of the parameter. -/
def IsMeant (earlier : List Entry) (entry : Entry) : Prop :=
  ∀ delivery, entry.unasked? = some delivery →
    (Journal.treeAfter earlier).Admits delivery.address delivery.value

end Entry

namespace Session

open StreamControl.Action Journal

variable {σ : Type}

/-! ## What subscribers are handed -/

/-- What is handed to subscribers conforms, as do the values that are being pushed. -/
structure Meant (pushes : List (Address × Value)) (session : Session σ) : Prop where
  /-- The journal shows the tree. -/
  tree : session.tree = treeAfter session.journal.toList
  /-- What is being pushed conforms to the types of the parameters. -/
  pushes : ∀ push ∈ pushes, session.tree.Admits push.1 push.2
  /-- What has been handed over conformed. -/
  handed : session.journal.Throughout Entry.IsMeant

namespace Meant

variable {pushes : List (Address × Value)} {session : Session σ}

theorem write (meant : Meant pushes session) {entry : Entry}
    (grows : ∀ tree, entry.treeFrom tree = tree) (conforms : entry.IsMeant session.journal.toList) :
    Meant pushes { session with journal := session.journal.push entry } where
  tree := by rw [treeAfter_push, grows, meant.tree]
  pushes := meant.pushes
  handed := meant.handed.push conforms

/-- An entry is written that calls no callback, unless it is for a query. -/
theorem note (meant : Meant pushes session) {entry : Entry} (silent : entry.unasked? = none)
    (grows : ∀ tree, entry.treeFrom tree = tree) :
    Meant pushes { session with journal := session.journal.push entry } := by
  refine meant.write grows fun delivery shown => ?_
  rw [silent] at shown
  cases shown

theorem plant (meant : Meant pushes session) {tree : ParameterTree}
    (still : ∀ push ∈ pushes, tree.Admits push.1 push.2) :
    Meant pushes { session with tree, journal := session.journal.push (.grown tree) } where
  tree := by rw [treeAfter_push, Entry.treeFrom]
  pushes := still
  handed := meant.handed.push fun _ shown => by cases shown

/-- User code changes the tree. -/
theorem change (meant : Meant pushes session) {tree : ParameterTree}
    (retyped : session.tree.Retyped tree) (kept : session.tree.Kept tree) :
    Meant pushes { session with tree, journal := session.journal.push (.grown tree) } :=
  meant.plant fun push member =>
    retyped.admits (fun stream => (kept.knows stream).mpr) (meant.pushes push member)

theorem slack (pushes : List (Address × Value)) : Slack (Meant pushes : Session σ → Prop) where
  remark isRemark meant :=
    meant.note (Entry.unasked?_of_isRemark isRemark) (Entry.treeFrom_of_isRemark isRemark)
  memory _ meant := { meant with }
  tally _ meant := { meant with }
  channel _ meant := { meant with }
  add addition meant := meant.change addition.retyped addition.edit.kept
  recordQuery ofQuery meant :=
    meant.note (Entry.unasked?_of_isOfQuery ofQuery) (Entry.treeFrom_of_isOfQuery ofQuery)
  queue _ _ _ meant := { meant with }

section Callees

variable {callees : Callees σ}
  (callbacks : ∀ (pushes : List (Address × Value)) reference delivery,
    Keeps (Meant pushes) False True (callees.callback reference delivery))
include callbacks

/-- The value that is stored conforms, and goes on conforming while it is handed over. -/
theorem keeps_publish (pushes : List (Address × Value)) (stream : StreamId) (filter name : String)
    (value : Value) :
    Keeps (Meant pushes) True True (publish callees stream filter name value) := by
  let address : Address := ⟨stream, filter, name⟩
  refine keeps_publish_of (R := fun _ _ => Meant ((address, value) :: pushes)) ?begin ?turn ?finish
  case begin =>
    intro session subscribers tree stored meant
    have stored : session.tree.store address.stream address.filter address.name value =
      .ok (subscribers, tree) := stored
    obtain ⟨old, found, fits⟩ := ParameterTree.fits_of_store address stored
    have changed := (ParameterTree.store_eq_ok address stored).2.2 address
    rw [if_pos rfl, found, Option.map_some] at changed
    have planted := meant.change (ParameterTree.retyped_store address stored)
      (ParameterTree.kept_store stored)
    have begun : Meant ((address, value) :: pushes)
        { session with tree, journal := session.journal.push (.grown tree) } :=
      { planted with
        pushes := List.forall_mem_cons.mpr
          ⟨⟨_, changed, Value.conforms_iff_fits.mpr fits⟩, planted.pushes⟩ }
    exact begun.note rfl fun _ => rfl
  case turn =>
    intro subscription rest spent session meant
    refine meets_dispatch_of (callbacks ((address, value) :: pushes) _ _)
      (fun _ => meant.write (fun _ => rfl) ?_) (fun _ => meant.note rfl fun _ => rfl)
      (fun _ _ meant => meant.note rfl fun _ => rfl) (fun _ meant => meant.note rfl fun _ => rfl)
      fun _ => (slack _).toPliant
    rintro _ ⟨⟩
    exact meant.tree ▸ meant.pushes _ List.mem_cons_self
  case finish =>
    intro spent session meant
    have through : Meant pushes session :=
      { meant with pushes := fun push member => meant.pushes push (List.mem_cons_of_mem _ member) }
    have planted := through.change (ParameterTree.retyped_unsubscribe address spent)
      (ParameterTree.kept_unsubscribe _ _ _ _ _)
    exact planted.note rfl fun _ => rfl

end Callees

theorem keeps_run {α : Type} (code : UserCode σ) (pushes : List (Address × Value))
    (program : Program σ α) : Keeps (Meant pushes) False True (code.run program) :=
  Slack.keeps_run_of code slack (fun _ => keeps_publish) pushes program

theorem keeps_drain (code : UserCode σ) (pushes : List (Address × Value)) :
    Keeps (Meant pushes) False False (drain code.callees) :=
  Slack.keeps_drain_of code slack (fun _ => keeps_publish) pushes

end Meant

end Session

namespace Host

open StreamControl.Action Session Journal

variable {σ : Type}

theorem enduring_meant (code : UserCode σ) : Enduring code fun host => Meant [] host.session := by
  have plant {session : Session σ} (meant : Meant [] session) (tree : ParameterTree) :
      Meant [] { session with tree, journal := session.journal.push (.grown tree) } :=
    meant.plant fun _ member => (List.not_mem_nil member).elim
  intro deed before after does meant
  cases does with
  | stir before after session =>
    rw [session]
    exact meant
  | write _ ofHost =>
    exact meant.note (Entry.unasked?_of_isOfHost ofHost) (Ledger.silent_of_isOfHost ofHost).2.2
  | send => exact { meant with }
  | fail =>
    exact failing_of (P := Meant []) (fun _ _ meant => { meant with })
      (fun _ _ _ _ meant => meant.note rfl fun _ => rfl)
      (fun _ _ _ meant => meant.note rfl fun _ => rfl) (fun _ meant => meant.note rfl fun _ => rfl)
      meant
  | run _ program _ ends | outside _ program ends =>
    exact (Meant.keeps_run code [] program).of_ne_exhausted meant ends
  | drain _ ends => exact (Meant.keeps_drain code []).of_ne_exhausted meant ends
  | attach | enroll | mark | settle | forget => exact plant meant _
  | skip | shutDown => exact meant
  | announce | join | leave => exact meant.note rfl fun _ => rfl
  | discard | close => exact { meant with }

theorem meant_new (channel : Broadcast Event) (config : Config) (memory : σ) :
    Meant [] (onChannel channel config memory).session where
  tree := rfl
  pushes _ member := (List.not_mem_nil member).elim
  handed earlier _ _ split := by cases earlier <;> cases split

variable {code : UserCode σ} {history : History σ}

theorem History.meant (reachable : history.Reachable code) : Meant [] history.host.session := by
  obtain ⟨config, memory, host, created, leads⟩ := reachable
  obtain ⟨channel, rfl⟩ := eq_of_create created
  exact leads.endures (enduring_meant code) (meant_new channel config memory)

/-- **Values conform to the types of parameters.**  At every moment every value in the tree
conforms to the declared type of its parameter; as long as the tree knows a stream, as it
does while the stream is attached, the parameters of the stream stay with their declared
types; and whatever a callback is handed, for a query or for a subscription, conforms to
the declared type of the parameter that it is handed for. -/
theorem values_conform (reachable : history.Reachable code) :
    history.host.session.tree = treeAfter history.host.session.journal.toList ∧
    (∀ stream, (history.host.stream? stream).isSome = true →
      history.host.session.tree.Knows stream) ∧
    (∀ shown, shown <+: history.host.session.journal.toList → (treeAfter shown).Conforming) ∧
    (∀ shown later address parameter, shown ++ later <+: history.host.session.journal.toList →
      (treeAfter shown).parameter? address = some parameter →
        (treeAfter (shown ++ later)).Knows address.stream →
          ∃ still, (treeAfter (shown ++ later)).parameter? address = some still ∧
            still.type = parameter.type) ∧
    history.host.session.journal.Throughout fun earlier entry =>
      ∀ cause callback delivery, entry = .entered (.callback cause callback delivery) →
        (treeAfter earlier).Admits delivery.address delivery.value := by
  have traced := History.traced reachable
  have conforming {shown : List Entry} (isPrefix : shown <+: history.host.session.journal.toList) :
      (treeAfter shown).Conforming := traced.changes.conforming isPrefix
  refine ⟨traced.tree, fun stream => (History.supplied reachable stream).1,
    fun _ => conforming, ?retained, ?handed⟩
  case retained =>
    exact fun shown later address parameter isPrefix found known =>
      traced.changes.retained found isPrefix known
  case handed =>
    rintro earlier _ later split cause callback delivery rfl
    have meant := (History.meant reachable).handed earlier _ later split
    cases cause with
    | query ticket =>
      -- For a query it is the value that the parameter has.
      obtain ⟨query, _, _, entry, parameter, located, _, rfl⟩ :=
        (History.ledger reachable).faithful earlier _ later split ticket callback delivery rfl
      have found : (treeAfter earlier).parameter? (query.delivery parameter.value).address =
          some parameter := by
        obtain ⟨filters, hstream, hfilter, hname⟩ := ParameterTree.locate_eq_ok_iff.mp located
        simp [ParameterTree.parameter?, Query.delivery, Delivery.address, hstream, hfilter, hname]
      exact ⟨parameter, found, conforming ⟨_, split.symm⟩ _ _ found⟩
    | subscription | direct => exact meant delivery rfl

/-- The second callback is handed a flag by its own push, as the type that the filter
declared demands. -/
theorem values_conform_echo :
    (treeAfter (echoHistory.host.session.journal.toList.take 24)).Admits
      (echoDelivery true).address (.bool true) ∧
    ∃ still, (treeAfter (echoHistory.host.session.journal.toList.take 24)).parameter?
      (echoDelivery true).address = some still ∧ still.type = .bool := by
  have created : ((treeAfter (echoHistory.host.session.journal.toList.take 4)).parameter?
      (echoDelivery true).address).map (·.type) = some .bool := by
    decide +kernel
  have isPrefix : echoHistory.host.session.journal.toList.take 4 ++
      (echoHistory.host.session.journal.toList.drop 4).take 20 <+:
        echoHistory.host.session.journal.toList := by
    rw [← List.take_add]
    exact List.take_prefix _ _
  have known : (treeAfter (echoHistory.host.session.journal.toList.take 24)).Knows ⟨1⟩ := by
    rw [ParameterTree.Knows]
    decide +kernel
  have split : echoHistory.host.session.journal.toList =
      echoHistory.host.session.journal.toList.take 24 ++
        .entered (.callback (.subscription 1) { code := 1 } (echoDelivery true)) ::
          echoHistory.host.session.journal.toList.drop 25 := by
    decide +kernel
  obtain ⟨_, _, _, retained, handed⟩ := values_conform echoHistory_reachable
  obtain ⟨parameter, found, type⟩ := Option.map_eq_some_iff.mp created
  have retained := retained _ _ _ parameter isPrefix found
  rw [← List.take_add] at retained
  obtain ⟨still, there, same⟩ := retained known
  exact ⟨handed _ _ _ split _ _ _ rfl, still, there, same.trans type⟩

end Host

end StreamControl
