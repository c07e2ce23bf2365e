import StreamControl.Host.Attach
import StreamControl.Host.Load
import StreamControl.Host.Start
import StreamControl.Proofs.UserCodeFrame

/-!
# What a host calls

A host calls hooks and the functions of filters, and the journal says when.
`Visit` is such a call, and `Journal.visits` lists those of a journal in
order.

`Session.Passed` relates a session before and after something the host does
with it: what has been called, that the tree has its shape, and that the
session is as open as it was.  User code calls no hook and no filter, so each
function of the host has a plain rule here: what it calls, whatever the hooks
and callbacks do (`Session.Calls`).  The one exception is a function of a
filter, whose panic nothing contains (`Host.meets_callFilter`).
-/

set_option autoImplicit false

namespace StreamControl

/-- A call that a host makes. -/
inductive Visit where
  /-- A hook of the controller with a serial number, called for a filter or for
  none. -/
  | hook (controller : Nat) (hook : Hook) (target : Option (StreamId × String))
  /-- A function of a filter, and how it ended. -/
  | filter (function : FilterFunction) (stream : StreamId) (filter : String) (exit : Exit)
  deriving DecidableEq

/-- The call that an entry shows: where a hook was entered, and where a
function of a filter was left. -/
def Entry.visit? : Entry → Option Visit
  | .entered (.hook controller hook target) => some (.hook controller hook target)
  | .left (.filter function stream filter) exit => some (.filter function stream filter exit)
  | _ => none

/-- The calls of hooks and of functions of filters, in order. -/
def Journal.visits (journal : Journal) : List Visit := journal.toList.filterMap Entry.visit?

theorem Entry.visit?_of_isInner {entry : Entry} (inner : entry.isInner = true) :
    entry.visit? = none := by
  cases entry with
  | entered call =>
    cases call with
    | hook => cases inner
    | filter => rfl
    | callback => rfl
  | left call exit =>
    cases call with
    | hook => rfl
    | filter => cases inner
    | callback => rfl
  | _ => rfl

namespace Session

open StreamControl.Action

variable {σ α β : Type}

/-! ## Before and after -/

/-- A journal has grown by entries that show these calls, and the session is
as open as it was. -/
structure Wrote (visits : List Visit) (before after : Session σ) : Prop where
  /-- The journal has grown. -/
  written : ∃ entries : List Entry,
    after.journal.toList = before.journal.toList ++ entries ∧
      entries.filterMap Entry.visit? = visits
  /-- The session is as open as it was. -/
  isOpen : after.isOpen = before.isOpen

namespace Wrote

theorem refl (session : Session σ) : Wrote [] session session :=
  ⟨⟨[], (List.append_nil _).symm, rfl⟩, rfl⟩

theorem trans {first second third : Session σ} {visits more : List Visit}
    (one : Wrote visits first second) (two : Wrote more second third) :
    Wrote (visits ++ more) first third := by
  obtain ⟨entries, hentries, hvisits⟩ := one.written
  obtain ⟨others, hothers, hmore⟩ := two.written
  refine ⟨⟨entries ++ others, ?_, ?_⟩, two.isOpen.trans one.isOpen⟩
  · rw [hothers, hentries, List.append_assoc]
  · rw [List.filterMap_append, hvisits, hmore]

/-- The calls that a journal shows in addition. -/
theorem visits_eq {before after : Session σ} {visits : List Visit}
    (wrote : Wrote visits before after) :
    after.journal.visits = before.journal.visits ++ visits := by
  obtain ⟨entries, hentries, hvisits⟩ := wrote.written
  rw [Journal.visits, hentries, List.filterMap_append, hvisits]
  rfl

theorem push (session : Session σ) {entry : Entry} {visits : List Visit}
    (shows : [entry].filterMap Entry.visit? = visits) :
    Wrote visits session { session with journal := session.journal.push entry } :=
  ⟨⟨[entry], Array.toList_push .., shows⟩, rfl⟩

theorem plant (session : Session σ) (tree : ParameterTree) :
    Wrote [] session { session with tree, journal := session.journal.push (.grown tree) } :=
  ⟨⟨[.grown tree], Array.toList_push .., rfl⟩, rfl⟩

end Wrote

/-- What happens between two states of a session while a host makes some
calls: besides what the journal shows, the tree keeps its shape. -/
structure Passed (visits : List Visit) (before after : Session σ) : Prop
    extends Wrote visits before after where
  /-- The tree has its shape. -/
  tree : before.tree.Kept after.tree

namespace Passed

theorem refl (session : Session σ) : Passed [] session session := ⟨.refl session, .refl _⟩

theorem trans {first second third : Session σ} {visits more : List Visit}
    (one : Passed visits first second) (two : Passed more second third) :
    Passed (visits ++ more) first third :=
  ⟨one.toWrote.trans two.toWrote, one.tree.trans two.tree⟩

theorem push (session : Session σ) {entry : Entry} {visits : List Visit}
    (shows : [entry].filterMap Entry.visit? = visits) :
    Passed visits session { session with journal := session.journal.push entry } :=
  ⟨.push session shows, .refl _⟩

end Passed

/-- The frame of user code holds no call. -/
theorem Kept.passed {before after : Session σ} (kept : Kept before after) :
    Passed [] before after := by
  obtain ⟨⟨entries, hentries, inner⟩, tree, isOpen⟩ := kept
  refine ⟨⟨⟨entries, hentries, ?_⟩, isOpen⟩, tree⟩
  exact List.filterMap_eq_nil_iff.mpr fun entry member => Entry.visit?_of_isInner (inner entry member)

/-! ## Actions that make calls -/

/-- An action that always returns, having made these calls. -/
def Calls (visits : List Visit) (action : Action (Session σ) α) : Prop :=
  ∀ session, action.Meets session (fun _ => Passed visits session) (fun _ _ => False)
    (fun _ _ => False)

namespace Calls

theorem pure (value : α) : Calls [] (Pure.pure value : Action (Session σ) α) := Passed.refl

theorem bind {first : Action (Session σ) α} {next : α → Action (Session σ) β}
    {visits more : List Visit} (one : Calls visits first)
    (two : ∀ value, Calls more (next value)) : Calls (visits ++ more) (first >>= next) := by
  intro session
  refine meets_bind.mpr ((one session).imp fun value between passed => ?_)
  exact (two value between).imp fun _ _ => passed.trans

/-- An action before which nothing is called. -/
theorem after {first : Action (Session σ) α} {next : α → Action (Session σ) β}
    {visits : List Visit} (one : Calls [] first)
    (two : ∀ value, Calls visits (next value)) : Calls visits (first >>= next) :=
  one.bind two

/-- An action after which nothing is called. -/
theorem before {first : Action (Session σ) α} {next : α → Action (Session σ) β}
    {visits : List Visit} (one : Calls visits first)
    (two : ∀ value, Calls [] (next value)) : Calls visits (first >>= next) := by
  have both := one.bind two
  rwa [List.append_nil] at both

theorem record {entry : Entry} {visits : List Visit}
    (shows : [entry].filterMap Entry.visit? = visits) :
    Calls visits (Session.record entry : Action (Session σ) Unit) :=
  fun session => Passed.push session shows

theorem log (level : Level) (text : String) :
    Calls [] (Session.log level text : Action (Session σ) Unit) := record rfl

theorem count (metric : Metric) (first second : String) :
    Calls [] (Session.count metric first second : Action (Session σ) Unit) := record rfl

theorem openSpan : ∀ span?, Calls [] (Session.openSpan span? : Action (Session σ) Unit)
  | some _ => record rfl
  | none => pure ()

theorem emit (event : Event) : Calls [] (Session.emit event : Action (Session σ) Unit) :=
  after (fun _ => ⟨⟨⟨[], (List.append_nil _).symm, rfl⟩, rfl⟩, .refl _⟩) fun _ => record rfl

/-- A change of the tree that keeps its shape and is never refused. -/
theorem changeTree {change : ParameterTree → α × ParameterTree}
    (kept : ∀ tree : ParameterTree, tree.Kept (change tree).2) :
    Calls [] (Session.changeTree fun tree => .ok (change tree) : Action (Session σ) α) :=
  fun session => ⟨.plant session _, kept session.tree⟩

/-- What keeps the frame of user code and returns calls no hook. -/
theorem of_keeps {action : Action (Session σ) α}
    (keeps : ∀ origin : Session σ, Keeps (Kept origin) False False action) : Calls [] action :=
  fun session => ((keeps session).always (.refl session)).imp fun _ _ => Kept.passed

/-- User code calls no hook; a panic is contained. -/
theorem contain_run (code : UserCode σ) (program : Program σ α) :
    Calls [] (code.run program).contain :=
  of_keeps fun origin => ((kept_lax origin).keeps_run code program).contain

theorem discardWaiting : Calls [] (Session.discardWaiting : Action (Session σ) Nat) :=
  of_keeps fun origin => (kept_lax origin).keeps_takeWaiting.bind fun _ =>
    keeps_get.bind fun _ => keeps_pure _

theorem drain (code : UserCode σ) : Calls [] (Session.drain code.callees) :=
  of_keeps fun origin => (kept_lax origin).keeps_drain ((kept_lax origin).keeps_callback code)

theorem call (code : UserCode σ) (controller : Nat) (hook : Hook)
    (target : Option (StreamId × String)) (succeeds : α → Bool) (program : Program σ α) :
    Calls [.hook controller hook target]
      (Session.call (.hook controller hook target) succeeds (code.run program)) :=
  (record rfl).before fun _ => (contain_run code program).after fun _ =>
    after (record rfl) fun _ => pure _

end Calls

end Session

namespace Host

open StreamControl.Action Session

variable {σ α : Type}

/-! ## Hooks without a filter -/

theorem calls_reportHookFailure (controller : String) (hook : Hook)
    (target : Option (StreamId × String)) (code : Int32) :
    Calls [] (reportHookFailure controller hook target code : Action (Session σ) Unit) :=
  (Calls.count _ _ _).after fun _ => (Calls.log _ _).after fun _ => Calls.emit _

theorem calls_guarded (code : UserCode σ) (serial : Nat) (hook : Hook)
    (target : Option (StreamId × String)) (succeeds : α → Bool) (program : Program σ α) :
    Calls [.hook serial hook target] (guarded code serial hook target succeeds program) := by
  refine (Calls.call code _ _ _ _ _).before fun result => ?_
  cases result with
  | ok value => exact Calls.pure _
  | error reason => exact (Calls.log _ _).after fun _ => Calls.pure _

theorem calls_statusOf (code : UserCode σ) (serial : Nat) (hook : Hook)
    (target : Option (StreamId × String)) (program : Program σ HookStatus) :
    Calls [.hook serial hook target] (statusOf code serial hook target program) :=
  (calls_guarded code serial hook target _ program).before fun _ => Calls.pure _

/-- The call of a hook that is called for no filter, if the controller fills
it. -/
def plainCall (controller : LoadedController) (hook : Hook) : List Visit :=
  if controller.module.fills hook then [.hook controller.serial hook none] else []

theorem eq_hook_of_mem_plainCall {controller : LoadedController} {hook : Hook} {visit : Visit}
    (member : visit ∈ plainCall controller hook) : visit = .hook controller.serial hook none := by
  rw [plainCall] at member
  split at member
  · exact List.mem_singleton.mp member
  · cases member

theorem calls_construct (code : UserCode σ) (spans : SpanConfig)
    (controller : LoadedController) (arguments : List String) :
    Calls (plainCall controller .construct) (construct code spans controller arguments) := by
  refine (Calls.log _ _).after fun _ => (Calls.openSpan _).after fun _ => ?_
  rw [plainCall]
  split
  · exact calls_statusOf code _ _ _ _
  · exact Calls.pure _

theorem calls_destroy (code : UserCode σ) (spans : SpanConfig)
    (controller : LoadedController) :
    Calls (plainCall controller .destroy) (destroy code spans controller) := by
  refine (Calls.log _ _).after fun _ => (Calls.openSpan _).after fun _ => ?_
  rw [plainCall]
  split
  · exact calls_statusOf code _ _ _ _
  · exact Calls.pure _

/-! ## Hooks for filters -/

/-- The calls of a hook for some filters, in order, if the controller fills
it. -/
def filterCalls (controller : LoadedController) (hook : Hook) (stream : StreamId)
    (filters : List String) : List Visit :=
  if controller.module.fills hook then
    filters.map fun filter => .hook controller.serial hook (some (stream, filter))
  else []

theorem calls_callFilterHook (code : UserCode σ) (spans : SpanConfig)
    (controller : LoadedController) (hook : Hook) (stream : StreamId) (slots : List FilterSlot) :
    Calls (slots.map fun slot => Visit.hook controller.serial hook (some (stream, slot.name)))
      (callFilterHook code spans controller hook stream slots) := by
  induction slots with
  | nil => exact Calls.pure _
  | cons slot rest ih =>
    refine (Calls.log _ _).after fun _ => (Calls.openSpan _).after fun _ => ?_
    refine (calls_statusOf code _ _ _ _).bind fun status => ?_
    cases status with
    | ok => exact (Calls.pure _).after fun _ => ih.before fun _ => Calls.pure _
    | failed failure =>
      exact (calls_reportHookFailure _ _ _ _).after fun _ => (Calls.pure _).after
        fun _ => ih.before fun _ => Calls.pure _

theorem calls_callFilterHook? (code : UserCode σ) (spans : SpanConfig)
    (controller : LoadedController) (hook : Hook) (stream : StreamId) (slots : List FilterSlot) :
    Calls (filterCalls controller hook stream (slots.map (·.name)))
      (callFilterHook? code spans controller hook stream slots) := by
  rw [callFilterHook?, filterCalls]
  split
  · rw [List.map_map]
    exact calls_callFilterHook code spans controller hook stream slots
  · exact Calls.pure _

theorem calls_askAbout (code : UserCode σ) (spans : SpanConfig)
    (controller : LoadedController) (stream : StreamId) (slot : FilterSlot) :
    Calls (filterCalls controller .preStart stream [slot.name])
      (askAbout code spans controller stream slot) := by
  refine (Calls.log _ _).after fun _ => (Calls.openSpan _).after fun _ => ?_
  rw [filterCalls]
  split
  · refine (calls_guarded code _ _ _ _ _).before fun result => ?_
    cases result with
    | some decision => exact Calls.pure _
    | none => exact (calls_reportHookFailure _ _ _ _).after fun _ => Calls.pure _
  · exact Calls.pure _

theorem filterCalls_cons (controller : LoadedController) (hook : Hook) (stream : StreamId)
    (filter : String) (rest : List String) :
    filterCalls controller hook stream (filter :: rest) =
      filterCalls controller hook stream [filter] ++ filterCalls controller hook stream rest := by
  simp only [filterCalls]
  split <;> rfl

theorem calls_askAboutAll (code : UserCode σ) (spans : SpanConfig)
    (controller : LoadedController) (stream : StreamId) (slots : List FilterSlot) :
    ∀ held : List Nat,
      Calls (filterCalls controller .preStart stream (slots.map (·.name)))
        (askAboutAll code spans controller stream held slots) := by
  induction slots with
  | nil =>
    intro held
    rw [List.map_nil, filterCalls, List.map_nil, ite_self]
    exact Calls.pure _
  | cons slot rest ih =>
    intro held
    rw [List.map_cons, filterCalls_cons]
    refine (calls_askAbout code spans controller stream slot).bind fun answer => ?_
    obtain ⟨decision, panicked⟩ := answer
    dsimp only
    split
    · exact (Calls.log _ _).after fun _ => (Calls.emit _).after fun _ =>
        (Calls.pure _).after fun _ => (ih _).before fun _ => Calls.pure _
    · exact (Calls.pure _).after fun _ => (ih _).before fun _ => Calls.pure _

/-! ## Functions of filters -/

/-- How a function of a filter ended that returned. -/
def exitOf (result : Except Fault Unit) : Exit := if unrefused result then .succeeded else .failed

/-- A function of a filter that panics makes its call panic. -/
theorem meets_callFilter (code : UserCode σ) (function : FilterFunction) (stream : StreamId)
    (slot : FilterSlot) (session : Session σ) :
    (callFilter code function stream slot).Meets session
      (fun result => Passed [.filter function stream slot.name (exitOf result)] session)
      (fun _ _ => False) (fun _ => Passed [.filter function stream slot.name .panicked] session) := by
  rw [callFilter, meets_bind, Session.call, meets_bind]
  refine (Calls.record rfl session).mono ?_ (fun _ _ h => h) (fun _ _ h => h.elim)
  intro _ entered first
  rw [meets_bind]
  refine (Calls.contain_run code _ entered).mono ?_ (fun _ _ h => h) (fun _ _ h => h.elim)
  intro result inside second
  have left : ∀ exit, Passed [.filter function stream slot.name exit] inside { inside with
      journal := inside.journal.push (.left (.filter function stream slot.name) exit) } :=
    fun exit => Passed.push inside rfl
  cases result with
  | ok value => exact (first.trans second).trans (left _)
  | error reason => exact (first.trans second).trans (left .panicked)

end Host

end StreamControl
