import StreamControl.Proofs.Changes
import StreamControl.Proofs.Distribution
import StreamControl.Proofs.Fences

/-!
# Callbacks that are subscribed once

A subscription may ask not to be made where its callback is subscribed already.  If every
request to subscribe a callback asks for that, be it for one parameter or for all of a filter,
from outside or from within a callback that is just being called, then no parameter ever has
two subscriptions of it (`Session.Solitary`).  For the only change of the tree that adds
subscriptions looks at what is there, and every other change leaves fewer or the same.

Whether two callbacks are the same is a matter of their code and not of their labels
(`Callback.same`).  That user code has made some requests only is said of what it did and not
of how it is written: it would have come to the same if it panicked with any other request
(`Host.Episode.Heeds`).
-/

set_option autoImplicit false

namespace StreamControl

namespace ParameterTree

/-! ## Trees that have a callback once -/

variable {tree after : ParameterTree} {callback other : Callback} {context : UserContext}
  {flags : SubscribeFlags}

/-- No parameter has two subscriptions of a callback. -/
def HasOnce (callback : Callback) (tree : ParameterTree) : Prop :=
  ∀ address, (tree.subscriptionsAt address).countP (·.callback.same callback) ≤ 1

theorem hasOnce_empty (callback : Callback) : HasOnce callback {} := fun _ => Nat.zero_le 1

namespace HasOnce

theorem of_sublist (once : tree.HasOnce callback)
    (fewer : ∀ address, (after.subscriptionsAt address).Sublist (tree.subscriptionsAt address)) :
    after.HasOnce callback := fun address =>
  (fewer address).countP_le.trans (once address)

theorem of_parameters (once : tree.HasOnce callback)
    (same : ∀ address, after.parameter? address = tree.parameter? address) :
    after.HasOnce callback :=
  once.of_sublist fun address => by rw [subscriptionsAt_congr (same address)]

theorem store {stream : StreamId} {filter name : String} {value : Value}
    {subscribers : List Subscription} (once : tree.HasOnce callback)
    (stored : tree.store stream filter name value = .ok (subscribers, after)) :
    after.HasOnce callback :=
  once.of_sublist fun address => by rw [subscriptionsAt_store ⟨stream, filter, name⟩ stored]

theorem create {stream : StreamId} {filter name : String} {type : ValueType} {initial : Value}
    {setter : Option CodeRef} (once : tree.HasOnce callback)
    (created : tree.create stream filter name type initial setter = .ok after) :
    after.HasOnce callback := by
  obtain ⟨_, _, _, _, changed⟩ := create_eq_ok ⟨stream, filter, name⟩ created
  refine once.of_sublist fun address => ?_
  rw [subscriptionsAt, changed]
  split
  · exact List.nil_sublist _
  · exact List.Sublist.refl _

theorem unsubscribe (once : tree.HasOnce callback) (stream : StreamId) (filter name : String)
    (finished : List Nat) : (tree.unsubscribe stream filter name finished).HasOnce callback := by
  refine once.of_sublist fun address => ?_
  rw [@subscriptionsAt_unsubscribe tree ⟨stream, filter, name⟩ address finished]
  split
  · exact List.filter_sublist
  · exact List.Sublist.refl _

theorem dropUnkept (once : tree.HasOnce callback) (stream : StreamId) :
    (tree.dropUnkept stream).2.HasOnce callback := by
  refine once.of_sublist fun address => ?_
  rw [subscriptionsAt_dropUnkept]
  split
  · exact List.filter_sublist
  · exact List.Sublist.refl _

theorem removeStream (once : tree.HasOnce callback) (stream : StreamId) :
    (tree.removeStream stream).HasOnce callback := by
  refine once.of_sublist fun address => ?_
  rw [subscriptionsAt, parameter?_removeStream]
  split
  · exact List.nil_sublist _
  · exact List.Sublist.refl _

/-- Where a parameter takes one more subscription, it has the callback once if the subscription
is of another, and if it is of the callback, then it was not there before. -/
theorem one {address : Address} {parameter : Parameter} {new : Subscription}
    (once : tree.HasOnce callback) (found : tree.parameter? address = some parameter)
    (takes : parameter.Takes new.callback flags)
    (sparing : new.callback.same callback = true → flags.keepOne = true)
    (changed : ∀ other, after.parameter? other = if other = address then
      some { parameter with subscriptions := parameter.subscriptions ++ [new] }
    else tree.parameter? other) : after.HasOnce callback := by
  intro other
  have before := once other
  rw [subscriptionsAt] at before ⊢
  rw [changed]
  split
  · rename_i here
    rw [here, found, Option.map_some, Option.getD_some] at before
    rw [Option.map_some, Option.getD_some, List.countP_append, List.countP_singleton]
    split
    · rename_i same
      -- All subscriptions of the callback are of the one that is subscribed.
      have none : parameter.subscriptions.countP (·.callback.same callback) = 0 := by
        refine List.countP_eq_zero.mpr fun subscription member alike => ?_
        have differs := takes (sparing same) subscription member
        simp only [Callback.same, decide_eq_true_eq, decide_eq_false_iff_not] at same alike differs
        exact differs (alike.trans same.symm)
      omega
    · omega
  · exact before

theorem subscribe {stream : StreamId} {filter : String} {name : Option String} {type : ValueType}
    {made : Nat} (once : tree.HasOnce callback)
    (subscribed : tree.subscribe stream filter name type other context flags = .ok (made, after))
    (sparing : other.same callback = true → flags.keepOne = true) : after.HasOnce callback := by
  obtain ⟨names, all⟩ := subscribe_eq_ok subscribed
  have kept : (tree.subscribeAll stream filter other context flags names).2.HasOnce callback := by
    refine subscribeAll_induction
      (R := fun before after => before.HasOnce callback → after.HasOnce callback) ?same ?trans ?one
      stream filter names tree once
    case same => exact fun _ _ _ same once => once.of_parameters same
    case trans => exact fun _ _ _ first second once => second (first once)
    case one => exact fun _ _ _ _ found takes _ changed once => once.one found takes sparing changed
  rwa [all] at kept

end HasOnce

end ParameterTree

/-- Whether a request subscribes a callback, if it does at all, only where it is not subscribed
yet. -/
def Request.spares (callback : Callback) : Request → Bool
  | .subscribe _ _ _ _ other _ flags => !other.same callback || flags.keepOne
  | _ => true

namespace Entry

/-- Whether an entry shows that a value is handed to a callback, or would have been if it took
it. -/
def isHandedTo (callback : Callback) : Entry → Bool
  | entered (.callback _ other _) | skipped _ other _ => other.same callback
  | _ => false

end Entry

/-- In the turns of subscriptions each is handed the value once. -/
theorem Address.countP_turns (address : Address) (value : Value) (callback : Callback)
    (results : List (Subscription × DispatchOutcome)) :
    (results.flatMap (address.turn value)).countP (·.isHandedTo callback) =
      (results.map Prod.fst).countP (·.callback.same callback) := by
  induction results with
  | nil => rfl
  | cons result rest ih =>
    obtain ⟨subscription, outcome⟩ := result
    rw [List.flatMap_cons, List.countP_append, ih, List.map_cons, List.countP_cons, Nat.add_comm]
    congr 1
    cases outcome <;> simp [Address.turn, Entry.isHandedTo, List.countP_cons]

namespace Session

open StreamControl.Action

variable {σ : Type} {callback : Callback} {session : Session σ}

/-! ## Sessions that have had a callback once -/

/-- No parameter has two subscriptions of a callback, and none ever had. -/
structure Solitary (callback : Callback) (session : Session σ) : Prop where
  /-- None has now. -/
  now : session.tree.HasOnce callback
  /-- None had in any tree that has been shown. -/
  shown : ∀ tree, .grown tree ∈ session.journal.toList → tree.HasOnce callback

namespace Solitary

theorem note (solitary : Solitary callback session) {entry : Entry}
    (still : entry.isGrown = false) :
    Solitary callback { session with journal := session.journal.push entry } := by
  refine ⟨solitary.now, fun tree member => ?_⟩
  rw [Array.toList_push, List.mem_append, List.mem_singleton] at member
  rcases member with before | rfl
  · exact solitary.shown tree before
  · cases still

theorem plant (solitary : Solitary callback session) {tree : ParameterTree}
    (once : tree.HasOnce callback) :
    Solitary callback { session with tree, journal := session.journal.push (.grown tree) } := by
  refine ⟨once, fun other member => ?_⟩
  rw [Array.toList_push, List.mem_append, List.mem_singleton] at member
  rcases member with before | same
  · exact solitary.shown other before
  · exact Entry.grown.inj same ▸ once

theorem easy (callback : Callback) : Easy (Solitary callback : Session σ → Prop) where
  remark isRemark solitary := solitary.note (Entry.isGrown_of_isRemark isRemark)
  memory _ solitary := ⟨solitary.now, solitary.shown⟩
  tally _ solitary := ⟨solitary.now, solitary.shown⟩
  channel _ solitary := ⟨solitary.now, solitary.shown⟩
  queue _ _ _ solitary := ⟨solitary.now, solitary.shown⟩
  recordQuery ofQuery solitary := solitary.note (Entry.isGrown_of_isOfQuery ofQuery)

section Callees

variable {callees : Callees σ} (callbacks : ∀ reference delivery,
  Keeps (Solitary callback) False True (callees.callback reference delivery))
include callbacks

theorem keeps_publish (stream : StreamId) (filter name : String) (value : Value) :
    Keeps (Solitary callback) True True (publish callees stream filter name value) := by
  refine keeps_publish_of_keeps ?begin ?turn ?finish
  case begin =>
    intro session subscribers tree stored solitary
    exact (solitary.plant (solitary.now.store stored)).note rfl
  case turn =>
    intro subscription
    refine (easy callback).keeps_dispatch_of (callbacks _ _) ?_
    rintro entry session (rfl | ⟨exit, rfl⟩ | rfl) solitary <;> exact solitary.note rfl
  case finish =>
    intro spent session solitary
    exact (solitary.plant (solitary.now.unsubscribe _ _ _ _)).note rfl

/-- Answering a request that subscribes the callback only where it is not subscribed. -/
theorem keeps_serve (setters : ∀ address reference requested current,
      Keeps (Solitary callback) False True (callees.setter address reference requested current))
    (request : Request) (spares : request.spares callback = true) :
    Keeps (Solitary callback) False True (serve callees request) := by
  refine (easy callback).toMild.keeps_serve_of setters request ?adds
    (fun _ => keeps_publish callbacks _) fun query _ => (easy callback).keeps_query callbacks query
  case adds =>
    intro session tree adds solitary
    cases adds with
    | create created => exact solitary.plant (solitary.now.create created)
    | subscribe subscribed =>
      refine solitary.plant (solitary.now.subscribe subscribed fun same => ?_)
      simpa [Request.spares, same] using spares

end Callees

section UserCode

variable {code : UserCode σ} (heeds : code.Heeds (·.spares callback = true))
include heeds

theorem keeps_callback (reference : CodeRef) (delivery : Delivery) :
    Keeps (Solitary callback) False True (code.callees.callback reference delivery) :=
  (code.callees_keep_asking (ι := Unit) (·.spares callback = true)
    (fun _ _ _ solitary => ⟨solitary.now, solitary.shown⟩)
    (fun _ all _ => keeps_serve (all ()).callback (all ()).setter) heeds.callbacks heeds.setters
    _ _ ()).callback reference delivery

theorem keeps_run {α : Type} {program : Program σ α}
    (asks : program.Asks (·.spares callback = true)) :
    Keeps (Solitary callback) False True (code.run program) :=
  code.run_keeps_asking (ι := Unit) (·.spares callback = true)
    (fun _ _ _ solitary => ⟨solitary.now, solitary.shown⟩)
    (fun _ all _ => keeps_serve (all ()).callback (all ()).setter) heeds.callbacks heeds.setters
    () asks

theorem keeps_drain : Keeps (Solitary callback) False False (drain code.callees) :=
  (easy callback).keeps_drain (keeps_callback heeds)

end UserCode

end Solitary

end Session

namespace Host

open StreamControl.Action Session Journal

variable {σ : Type} {callback : Callback}

/-! ## Histories -/

/-- Everything that a host does, apart from what programs from outside do. -/
theorem survives_solitary {code : UserCode σ} (heeds : code.Heeds (·.spares callback = true))
    {deed : Deed} (inside : deed ≠ .outside) :
    Survives code (fun host => Solitary callback host.session) deed := by
  intro before after does solitary
  cases does with
  | stir before after session =>
    rw [session]
    exact solitary
  | write _ ofHost => exact solitary.note (Entry.isGrown_of_isOfHost ofHost)
  | fail =>
    exact failing_of (P := Solitary callback)
      (fun _ _ solitary => ⟨solitary.now, solitary.shown⟩) (fun _ _ _ _ solitary => solitary.note rfl)
      (fun _ _ _ solitary => solitary.note rfl) (fun _ solitary => solitary.note rfl) solitary
  | run _ program offered ends =>
    exact (Solitary.keeps_run heeds (heeds.offers offered)).of_ne_exhausted solitary ends
  | outside => exact absurd rfl inside
  | drain _ ends => exact (Solitary.keeps_drain heeds).of_ne_exhausted solitary ends
  | attach =>
    exact solitary.plant (solitary.now.of_parameters fun _ => ParameterTree.parameter?_addStream _)
  | enroll _ added =>
    exact solitary.plant
      (solitary.now.of_parameters fun _ => ParameterTree.parameter?_addFilter added)
  | mark _ marked =>
    exact solitary.plant
      (solitary.now.of_parameters fun _ => ParameterTree.parameter?_setStarted marked)
  | settle _ stream => exact solitary.plant (solitary.now.dropUnkept stream)
  | forget _ stream => exact solitary.plant (solitary.now.removeStream stream)
  | announce | join | leave => exact solitary.note rfl
  | skip | shutDown | send | discard | close => exact ⟨solitary.now, solitary.shown⟩

/-- Does an operation, with user code that panics where it would make a request that is not
allowed. -/
def Operation.curbed (allowed : Request → Bool) (code : UserCode σ) :
    (operation : Operation σ) → Action (Host σ) operation.Answer
  | .outside program => onSession ((code.curbed allowed "request not allowed").run
      (program.curbed allowed "request not allowed"))
  | operation => operation.perform (code.curbed allowed "request not allowed")

/-- The requests that user code made in an episode were all allowed: it would have come to the
same if it panicked with any other. -/
def Episode.Heeds (code : UserCode σ) (allowed : Request → Bool) (episode : Episode σ) : Prop :=
  episode.operation.curbed allowed code episode.before = (episode.ending, episode.after)

/-- What survives the allowed requests and all that hosts do survives an episode in which only
allowed requests are made. -/
theorem Episode.Heeds.survives {code : UserCode σ} {allowed : Request → Bool}
    {operation : Operation σ} {host : Host σ} {P : Host σ → Prop}
    (heeds : (Episode.of code operation host).Heeds code allowed)
    (ends : (operation.perform code host).1 ≠ .exhausted)
    (deeds : ∀ deed ≠ .outside, Survives (code.curbed allowed "request not allowed") P deed)
    (programs : ∀ program : Program σ Unit, program.Asks (allowed · = true) →
      Keeps P False True (onSession ((code.curbed allowed "request not allowed").run program)))
    (holds : P host) : P (operation.perform code host).2 := by
  have same : operation.curbed allowed code host = operation.perform code host := heeds
  rw [← same] at ends ⊢
  have inside (operation : Operation σ) (apart : ¬ operation.Involves host .outside)
      (ends : (operation.perform (code.curbed allowed "request not allowed") host).1 ≠
        .exhausted) : P (operation.perform (code.curbed allowed "request not allowed") host).2 :=
    Episode.survives (fun deed involved => deeds deed fun outside => apart (outside ▸ involved))
      holds ends
  cases operation with
  | outside program =>
    exact (programs _ (Program.asks_curbed _ _ program)).of_ne_exhausted holds ends
  | addStream | removeStream | load | unload | start | stop | shutdown | drop | help | listen =>
    exact inside _ (fun involved => involved) ends

variable {code : UserCode σ} {history : History σ}

theorem History.solitary (reachable : history.Reachable code)
    (spared : ∀ episode ∈ history.episodes, episode.Heeds code (·.spares callback)) :
    Solitary callback history.host.session := by
  revert spared
  refine Reachable.induction (motive := fun history =>
    (∀ episode ∈ history.episodes, episode.Heeds code (·.spares callback)) →
      Solitary callback history.host.session) ?new ?step reachable
  case new =>
    intro channel config memory _
    exact ⟨ParameterTree.hasOnce_empty callback, fun _ member => (List.not_mem_nil member).elim⟩
  case step =>
    intro history operation _ ih _ ends spared
    have heeds := UserCode.heeds_curbed (·.spares callback) "request not allowed" code
    rw [History.extend, List.forall_mem_append, List.forall_mem_singleton] at spared
    refine spared.2.survives ends (P := fun host => Solitary callback host.session)
      (fun deed inside => survives_solitary heeds inside) ?_ (ih spared.1)
    exact fun program asks => keeps_onSession fun host => Solitary.keeps_run heeds asks

/-- What has been shown at each moment is the tree of that moment. -/
theorem hasOnce_treeAfter {entries shown : List Entry}
    (all : ∀ tree, .grown tree ∈ entries → tree.HasOnce callback) (isPrefix : shown <+: entries) :
    (treeAfter shown).HasOnce callback := by
  refine prefix_induction (P := fun shown => (treeAfter shown).HasOnce callback)
    (ParameterTree.hasOnce_empty callback) ?_ isPrefix
  intro earlier entry later split once
  rw [treeAfter_concat]
  cases entry with
  | grown tree => exact all tree (split ▸ List.mem_append_right _ List.mem_cons_self)
  | _ => exact once

/-- **A callback that is only ever subscribed where it is not subscribed yet is subscribed once,
for good.**  At every moment of a history in which every request to subscribe a callback asks
for that, no parameter has two subscriptions of the callback, and so no push hands it a value
twice in the turns of its own. -/
theorem subscribed_once (reachable : history.Reachable code)
    (spared : ∀ episode ∈ history.episodes, episode.Heeds code (·.spares callback)) :
    history.host.session.tree.HasOnce callback ∧
    (∀ shown, shown <+: history.host.session.journal.toList →
      (treeAfter shown).HasOnce callback) ∧
    ∀ opening address rest, history.host.session.journal.toList =
        opening ++ .pushing address.stream address.filter address.name :: rest →
      ∃ value results body closing,
        Through opening address value results body closing rest ∧
        (ownTurns body).countP (·.isHandedTo callback) ≤ 1 := by
  have solitary := History.solitary reachable spared
  have always : ∀ shown, shown <+: history.host.session.journal.toList →
      (treeAfter shown).HasOnce callback := fun _ => hasOnce_treeAfter solitary.shown
  refine ⟨solitary.now, always, ?_⟩
  intro opening address rest split
  obtain ⟨value, results, body, closing, through⟩ := (History.bracketed reachable).through split
  refine ⟨value, results, body, closing, through, ?_⟩
  rw [through.distributed.turns, Address.countP_turns, through.distributed.subscribers]
  exact always opening ⟨_, split.symm⟩ address

theorem Operation.curbed_eq {allowed : Request → Bool} (heeds : code.Heeds (allowed · = true))
    (operation : Operation σ)
    (programs : ∀ program, operation = .outside program → program.Asks (allowed · = true)) :
    operation.curbed allowed code = operation.perform code := by
  have same := heeds.curbed_eq "request not allowed"
  cases operation with
  | outside program =>
    change onSession ((code.curbed allowed _).run (program.curbed allowed _)) =
      onSession (code.run program)
    rw [same, (programs program rfl).curbed_eq]
  | addStream | removeStream | load | unload | start | stop | shutdown | drop | help | listen =>
    rw [curbed, same]
    exact nofun

/-- User code that makes allowed requests only has made none but those. -/
theorem History.heeds_of_code {allowed : Request → Bool} (reachable : history.Reachable code)
    (heeds : code.Heeds (allowed · = true))
    (programs : ∀ episode ∈ history.episodes, ∀ program, episode.operation = .outside program →
      program.Asks (allowed · = true)) :
    ∀ episode ∈ history.episodes, episode.Heeds code allowed := by
  revert programs
  refine Reachable.induction (motive := fun history =>
    (∀ episode ∈ history.episodes, ∀ program, episode.operation = .outside program →
      program.Asks (allowed · = true)) →
    ∀ episode ∈ history.episodes, episode.Heeds code allowed) ?new ?step reachable
  case new => exact fun _ _ _ _ _ member => (List.not_mem_nil member).elim
  case step =>
    intro history operation _ ih _ _ programs
    rw [History.extend, List.forall_mem_append, List.forall_mem_singleton] at programs ⊢
    exact ⟨ih programs.1, congrFun (operation.curbed_eq heeds programs.2) history.host⟩

/-- User code whose filter makes two parameters.  Its callback subscribes itself, whenever it is
called, to all parameters of the filter that it is not subscribed to. -/
def clingingCode : UserCode Unit :=
  { idleCode with
    filter := fun _ function context =>
      match function with
      | .construct =>
        .ask (.create context "gain" .bool (.bool true) none) fun _ =>
          .ask (.create context "mute" .bool (.bool false) none) fun _ => .done (.ok ())
      | _ => .done (.ok ())
    callback := fun _ delivery =>
      .ask (.subscribe delivery.stream delivery.filter none .bool { code := 0 } {}
        { keepOne := true }) fun _ => .done 0 }

theorem clingingCode_heeds : clingingCode.Heeds (·.spares { code := 0 } = true) where
  callbacks _ _ := ⟨rfl, fun _ => trivial⟩
  setters _ _ _ := trivial
  offers offered := by
    cases offered with
    | filter reference? function =>
      cases reference? with
      | none => exact trivial
      | some reference =>
        cases function with
        | construct => exact ⟨rfl, fun _ => ⟨rfl, fun _ => trivial⟩⟩
        | start | stop => exact trivial
    | _ => exact trivial

/-- A program that subscribes the callback under a label, to one parameter or to all, where it
is not subscribed. -/
def clinging (name : Option String) (label : String) : Program Unit Unit :=
  .ask (.subscribe ⟨1⟩ "source" name .bool { code := 0, label := some label } {}
    { keepOne := true }) fun _ => .done ()

/-- A history in which the callback is subscribed to one parameter and called, then asks to be
subscribed to all under another label; it is gone when the stream has stopped, and is subscribed
and called again. -/
def clingingHistory : History Unit :=
  .after clingingCode { episodes := [], host := freshHost }
    [.addStream (FilterGraph.empty.append "source" (some 0)),
      .outside (clinging (some "gain") "first"),
      .outside (.ask (.push ⟨⟨1⟩, "source"⟩ "gain" (.bool false)) fun _ => .done ()),
      .outside (clinging none "second"),
      .start ⟨1⟩, .stop ⟨1⟩,
      .outside (clinging (some "mute") "third"),
      .outside (.ask (.push ⟨⟨1⟩, "source"⟩ "mute" (.bool true)) fun _ => .done ())]

theorem clingingHistory_reachable : clingingHistory.Reachable clingingCode := by
  refine ⟨_, _, _, create_freshHost, History.leads_after _
    ⟨⟨⟨?_, ?attach⟩, ?_⟩, ⟨⟨?_, nofun⟩, ?_⟩, ⟨⟨?_, nofun⟩, ?_⟩, ⟨⟨?_, nofun⟩, ?_⟩,
      ⟨⟨?_, nofun⟩, ?_⟩, ⟨⟨?_, nofun⟩, ?_⟩, ⟨⟨?_, nofun⟩, ?_⟩, ⟨⟨?_, nofun⟩, ?_⟩, trivial⟩⟩
  case attach =>
    intro graph same
    cases same
    exact .add .new rfl
  all_goals decide +kernel

/-- The callback has been called twice, and is subscribed once to each parameter. -/
theorem subscribed_once_clinging :
    clingingHistory.host.session.tree.HasOnce { code := 0 } ∧
    clingingHistory.host.session.tally = { invoked := 2 } ∧
    (clingingHistory.host.session.tree.subscriptionsAt ⟨⟨1⟩, "source", "gain"⟩).map (·.id) = [3] ∧
    (clingingHistory.host.session.tree.subscriptionsAt ⟨⟨1⟩, "source", "mute"⟩).map (·.id) =
      [2] := by
  have operations : clingingHistory.episodes.map (·.operation) =
      [.addStream (FilterGraph.empty.append "source" (some 0)),
        .outside (clinging (some "gain") "first"),
        .outside (.ask (.push ⟨⟨1⟩, "source"⟩ "gain" (.bool false)) fun _ => .done ()),
        .outside (clinging none "second"),
        .start ⟨1⟩, .stop ⟨1⟩,
        .outside (clinging (some "mute") "third"),
        .outside (.ask (.push ⟨⟨1⟩, "source"⟩ "mute" (.bool true)) fun _ => .done ())] := rfl
  have spared : ∀ episode ∈ clingingHistory.episodes,
      episode.Heeds clingingCode (·.spares { code := 0 }) := by
    refine History.heeds_of_code clingingHistory_reachable clingingCode_heeds ?_
    intro episode member program outside
    have listed := List.mem_map_of_mem (f := Episode.operation) member
    rw [operations, outside] at listed
    simp only [List.mem_cons, List.not_mem_nil, reduceCtorEq, or_false, false_or,
      Operation.outside.injEq] at listed
    rcases listed with rfl | rfl | rfl | rfl | rfl <;> exact ⟨rfl, fun _ => trivial⟩
  refine ⟨(subscribed_once clingingHistory_reachable spared).1, ?_, ?_, ?_⟩ <;> decide +kernel

end Host

end StreamControl
